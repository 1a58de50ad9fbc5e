import Soql.Template.Piece
import Soql.Number.Pattern.Integer

/-!
This module contains the reasons for which a template has no query, and their wording.
-/

namespace Soql

inductive Unescapable where
  | withoutRule
  /-- A number that is not finite, with its display. -/
  | notFinite (shown : String)
  | containsItself
  deriving DecidableEq

inductive FormatFault where
  | malformed (fault : Malformed)
  | conversion (c : Char)
  | nestedField
  | notIndex (name : List Char)
  | mixedNumbering
  | noArgument (index : Int) (supplied : Nat)
  deriving DecidableEq

namespace FormatFault

def message : FormatFault → String
  | .malformed fault => "Malformed template format: " ++ fault.message
  | .conversion c => "Conversion '!" ++ c.toString ++ "' is not supported in query templates."
  | .nestedField => "Nested replacement fields are not supported in format specifiers."
  | .notIndex name =>
    "Placeholder '\x7b" ++ String.ofList name ++ "\x7d' must be a positional index."
  | .mixedNumbering => "Cannot mix automatic '\x7b\x7d' and numbered '\x7b0\x7d' placeholders."
  | .noArgument index supplied =>
    "Placeholder \x7b" ++ String.ofList (intText index) ++ "\x7d has no argument ("
      ++ String.ofList (Nat.toDigits 10 supplied) ++ " supplied)."

end FormatFault

inductive Error where
  | absent (parameter : String)
  | unescapable (kind : String) (reason : Unescapable)
  | badFormat (format : String) (fault : FormatFault)
  /-- A pattern that does not apply to a value of this kind. -/
  | badPattern (pattern kind : String) (fault : PatternFault)
  | overflow (o : Overflow)
  /-- An integer with too many digits to be written. -/
  | integerTooLong
  /-- A numeral with too many digits to be read. -/
  | numeralTooLong (count : Nat)
  deriving DecidableEq

namespace Error

def message : Error → Text
  | .absent parameter => "'" ++ parameter ++ "' must not be None."
  | .unescapable kind .withoutRule =>
    "Cannot escape a value of type '" ++ kind ++ "' into a query."
  | .unescapable _ (.notFinite shown) =>
    "Non-finite number " ++ shown ++ " has no query literal."
  | .unescapable kind .containsItself => "Sequence of type '" ++ kind ++ "' contains itself."
  | .badFormat _ fault => fault.message
  | .badPattern pattern kind fault =>
    "Format specifier '" ++ pattern ++ "' cannot be applied to " ++ kind ++ ": " ++ fault.message
  | .overflow o => o.message
  | .integerTooLong => PatternFault.integerTooLong.message
  | .numeralTooLong count =>
    "Exceeds the limit (4300 digits) for integer string conversion: value has "
      ++ String.ofList (Nat.toDigits 10 count)
      ++ " digits; use sys.set_int_max_str_digits() to increase the limit"

end Error
end Soql
