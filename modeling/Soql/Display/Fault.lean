import Soql.Template.Piece
import Soql.Number.Pattern.Integer
import Soql.Text.Quoted

/-!
This module contains the reasons for which a template has no debug text, and their wording.
-/

namespace Soql
namespace Display

inductive Fault where
  | malformed (fault : Malformed)
  | pattern (fault : PatternFault)
  | overflow (o : Overflow)
  /-- A pattern that must be encoded to be read. -/
  | unencodable (u : Text.Unencodable)
  | integerTooLong
  | explicitAfterAutomatic
  | automaticAfterExplicit
  | tooManyDigits
  | nestedTooDeep
  | unknownConversion (c : Char)
  | textAfterBracket
  | emptyAccessor
  | unclosedBracket
  | noArgument (index : Nat)
  | noItem (message : String)
  | noName (name : String)
  /-- A table has no entry under a key that reads as a number. -/
  | noNumber (key : Nat)
  | patternOnKind (kind : String)
  | notSubscriptable (kind : String)
  /-- A kind itself has no items. -/
  | kindNotSubscriptable (kind : String)
  | notKeyed (message : String)
  | noAttribute (kind name : String)
  /-- Templates quote the name of what they have not. -/
  | noTemplateAttribute (name : String)
  /-- A kind itself has no such attribute. -/
  | noKindAttribute (kind name : String)
  deriving DecidableEq

namespace Fault

def message : Fault → Text
  | .malformed fault => fault.message
  | .pattern fault => fault.message
  | .overflow o => o.message
  | .unencodable u => u.message
  | .integerTooLong => PatternFault.integerTooLong.message
  | .explicitAfterAutomatic =>
    "cannot switch from automatic field numbering to manual field specification"
  | .automaticAfterExplicit =>
    "cannot switch from manual field specification to automatic field numbering"
  | .tooManyDigits => PatternFault.tooManyDigits.message
  | .nestedTooDeep => "Max string recursion exceeded"
  | .unknownConversion c =>
    "Unknown conversion specifier " ++ if c == '\x7f' then "\\x7f" else PatternFault.showCode c
  | .textAfterBracket => "Only '.' or '[' may follow ']' in format field specifier"
  | .emptyAccessor => "Empty attribute in format string"
  | .unclosedBracket => "Missing ']' in format string"
  | .noArgument index =>
    "Replacement index " ++ String.ofList (Nat.toDigits 10 index)
      ++ " out of range for positional args tuple"
  | .noItem message => message
  | .noName name => Text.quoted name
  | .noNumber key => String.ofList (Nat.toDigits 10 key)
  | .patternOnKind kind => "unsupported format string passed to " ++ kind ++ ".__format__"
  | .notSubscriptable kind => "'" ++ kind ++ "' object is not subscriptable"
  | .kindNotSubscriptable kind => "type '" ++ kind ++ "' is not subscriptable"
  | .notKeyed message => message
  | .noAttribute kind name => "'" ++ kind ++ "' object has no attribute '" ++ name ++ "'"
  | .noTemplateAttribute name => "'QueryTemplate' object has no attribute " ++ Text.quoted name
  | .noKindAttribute kind name => "type object '" ++ kind ++ "' has no attribute '" ++ name ++ "'"

end Fault
end Display
end Soql
