import Soql.Number.Word
import Soql.Text.Digit
import Soql.Text.Encoding

/-!
This module contains number patterns: the short text behind a placeholder that says how a number is
laid out. A pattern is read from left to right as
`[[fill]align][sign][z][#][0][width][separator][.precision][code]`.
-/

namespace Soql

inductive Align where
  | left
  | right
  | center
  /-- Padding stands between the sign and the digits. -/
  | afterSign
  deriving DecidableEq

inductive SignRule where
  | negativeOnly
  | always
  /-- A space stands in front of numbers that are not negative. -/
  | space
  deriving DecidableEq

inductive Separator where
  | comma
  | underscore
  deriving DecidableEq

namespace Align

def ofChar? : Char → Option Align
  | '<' => some .left
  | '>' => some .right
  | '^' => some .center
  | '=' => some .afterSign
  | _ => none

def ofSymbol? : Symbol → Option Align
  | .char c => ofChar? c
  | .surrogate _ => none

end Align

namespace SignRule

def ofChar? : Char → Option SignRule
  | '-' => some .negativeOnly
  | '+' => some .always
  | ' ' => some .space
  | _ => none

def ofSymbol? : Symbol → Option SignRule
  | .char c => ofChar? c
  | .surrogate _ => none

end SignRule

namespace Separator

def toChar : Separator → Char
  | .comma => ','
  | .underscore => '_'

end Separator

inductive PatternFault where
  | tooManyDigits
  | bothSeparators
  | missingPrecision
  /-- More than a code remains behind everything that can be read. -/
  | unreadable (pattern : Text) (kind : String)
  | separatorWithCode (separator : Separator) (code : Symbol)
  | unknownCode (code : Symbol) (kind : String)
  | precisionOnInteger
  | positiveZeroOnInteger
  | signOnCharacter
  | alternateOnCharacter
  | integerTooLong
  | precisionTooBig
  | spaceOnText
  | signOnText
  | positiveZeroOnText
  | alternateOnText
  | alignAfterSignOnText
  | decimalUnreadable
  | decimalTooLarge
  | decimalRounding
  deriving DecidableEq

namespace PatternFault

def showCode : Symbol → String
  | .char c =>
    if 32 < c.toNat && c.toNat < 128 then c.toString
    else "\\x" ++ String.ofList (Nat.toDigits 16 c.toNat)
  | s => "\\x" ++ String.ofList (Nat.toDigits 16 s.codePoint)

def message : PatternFault → Text
  | .tooManyDigits => "Too many decimal digits in format string"
  | .bothSeparators => "Cannot specify both ',' and '_'."
  | .missingPrecision => "Format specifier missing precision"
  | .unreadable pattern kind =>
    "Invalid format specifier '" ++ pattern ++ "' for object of type '" ++ kind ++ "'"
  | .separatorWithCode separator code =>
    "Cannot specify '" ++ separator.toChar.toString ++ "' with '" ++ showCode code ++ "'."
  | .unknownCode code kind =>
    "Unknown format code '" ++ showCode code ++ "' for object of type '" ++ kind ++ "'"
  | .precisionOnInteger => "Precision not allowed in integer format specifier"
  | .positiveZeroOnInteger => "Negative zero coercion (z) not allowed in integer format specifier"
  | .signOnCharacter => "Sign not allowed with integer format specifier 'c'"
  | .alternateOnCharacter => "Alternate form (#) not allowed with integer format specifier 'c'"
  | .integerTooLong =>
    "Exceeds the limit (4300 digits) for integer string conversion; "
      ++ "use sys.set_int_max_str_digits() to increase the limit"
  | .precisionTooBig => "precision too big"
  | .spaceOnText => "Space not allowed in string format specifier"
  | .signOnText => "Sign not allowed in string format specifier"
  | .positiveZeroOnText => "Negative zero coercion (z) not allowed in string format specifier"
  | .alternateOnText => "Alternate form (#) not allowed in string format specifier"
  | .alignAfterSignOnText => "'=' alignment not allowed in string format specifier"
  | .decimalUnreadable => "invalid format string"
  | .decimalTooLarge => "format specification exceeds internal limits of _decimal"
  | .decimalRounding => "unexpected error while rounding"

end PatternFault

/--
A pattern, as read. What is absent is `none`, since several kinds of value treat an absent part
unlike any present one.
-/
structure NumberPattern where
  fill : Symbol
  align : Align
  /-- Zeros behind the sign count as digits, so that separators reach into them. -/
  zeroDigits : Bool
  sign : Option SignRule
  /-- A negative zero loses its sign. -/
  positiveZero : Bool
  alternate : Bool
  width : Option Nat
  separator : Option Separator
  precision : Option Nat
  code : Option Char
  deriving DecidableEq

namespace NumberPattern

def maxCount : Nat := Number.maxWord

def readCount (t : Text) : Except PatternFault (Option Nat × Text) :=
  match (Text.takeDigits t.leading).1 with
  | [] => .ok (none, t)
  | digits =>
    let n := Text.digitsValue 0 digits
    if n ≤ maxCount then .ok (some n, t.drop digits.length) else .error .tooManyDigits

/--
A fill character counts as one only in front of an alignment.
-/
def readAlign : Text → Option Symbol × Option Align × Text
  | [] => (none, none, [])
  | [s] =>
    match Align.ofSymbol? s with
    | some align => (none, some align, [])
    | none => (none, none, [s])
  | s :: s' :: t =>
    match Align.ofSymbol? s' with
    | some align => (some s, some align, t)
    | none =>
      match Align.ofSymbol? s with
      | some align => (none, some align, s' :: t)
      | none => (none, none, s :: s' :: t)

def readSign : Text → Option SignRule × Text
  | [] => (none, [])
  | s :: t =>
    match SignRule.ofSymbol? s with
    | some rule => (some rule, t)
    | none => (none, s :: t)

def readMark (mark : Char) : Text → Bool × Text
  | [] => (false, [])
  | s :: t => if s == .char mark then (true, t) else (false, s :: t)

def readSeparator (t : Text) : Except PatternFault (Option Separator × Text) :=
  let (comma, t) := readMark ',' t
  let (underscore, t) := readMark '_' t
  if comma && underscore then
    .error .bothSeparators
  else if underscore && t.head? == some (.char ',') then
    .error .bothSeparators
  else if comma then
    .ok (some .comma, t)
  else if underscore then
    .ok (some .underscore, t)
  else
    .ok (none, t)

def readPrecision (t : Text) : Except PatternFault (Option Nat × Text) :=
  let (point, rest) := readMark '.' t
  if point then do
    let (count, rest) ← readCount rest
    match count with
    | some n => return (some n, rest)
    | none => throw .missingPrecision
  else
    .ok (none, t)

/--
Separators group decimal digits, and underscores also those of the other bases. The character NUL
stands for an absent code.
-/
def allowsSeparator (separator : Separator) (code : Char) : Bool :=
  "defgEG%F\x00".toList.contains code
    || (separator == .underscore && "boxX".toList.contains code)

def checkSeparator (separator : Option Separator) (code : Option Symbol) :
    Except PatternFault Unit :=
  match separator with
  | some separator =>
    let code := code.getD '\x00'
    if code.satisfies (allowsSeparator separator) then .ok ()
    else .error (.separatorWithCode separator code)
  | none => .ok ()

def takeCode (kind : String) (default : Option Char) (pattern : Text) :
    Text → Except PatternFault (Option Symbol)
  | [] => .ok (default.map .char)
  | [s] => .ok (some s)
  | _ => .error (.unreadable pattern kind)

def charCode (kind : String) : Option Symbol → Except PatternFault (Option Char)
  | none => .ok none
  | some (.char c) => .ok (some c)
  | some s => .error (.unknownCode s kind)

def read (kind : String) (defaultAlign : Align) (defaultCode : Option Char) (pattern : Text) :
    Except PatternFault NumberPattern := do
  let (fill, align, t) := readAlign pattern
  let (sign, t) := readSign t
  let (positiveZero, t) := readMark 'z' t
  let (alternate, t) := readMark '#' t
  let (zeros, t) := if fill.isNone then readMark '0' t else (false, t)
  let (width, t) ← readCount t
  let (separator, t) ← readSeparator t
  let (precision, t) ← readPrecision t
  let code ← takeCode kind defaultCode pattern t
  checkSeparator separator code
  let code ← charCode kind code
  let fill := fill.getD (if zeros then '0' else ' ')
  let align :=
    align.getD (if zeros && defaultAlign == .right then .afterSign else defaultAlign)
  return {
    fill, align
    zeroDigits := fill == .char '0' && align == .afterSign
    sign, positiveZero, alternate, width, separator, precision, code }

def groupSize (p : NumberPattern) : Option Nat :=
  p.separator.map fun _ => if p.code.any "boxX".toList.contains then 4 else 3

end NumberPattern
end Soql
