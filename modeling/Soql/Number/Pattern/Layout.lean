import Soql.Number.Pattern

/-!
This module contains the last step of laying out a number: given its sign, digits and the text
behind them, a pattern decides on separators, leading zeros and padding. It also contains what can
go wrong when a value is laid out.
-/

namespace Soql

inductive Overflow where
  | intBeyondBinary
  | wordTooSmall
  | notCodePoint
  deriving DecidableEq

namespace Overflow

def message : Overflow → String
  | .intBeyondBinary => "int too large to convert to float"
  | .wordTooSmall => "Python int too large to convert to C long"
  | .notCodePoint => "%c arg not in range(0x110000)"

end Overflow

inductive PatternFailure where
  | fault (f : PatternFault)
  | overflow (o : Overflow)
  deriving DecidableEq

/--
A number in parts. Only `digits` are grouped; `rest` is the decimal point and all that follows.
-/
structure NumberText where
  negative : Bool
  /-- The marker of a base in front of the digits. -/
  marker : List Char
  digits : List Char
  rest : Text
  deriving DecidableEq

namespace NumberPattern

def group (separator : Char) (size : Nat) (digits : List Char) : List Char :=
  (go size digits.reverse).reverse
where
  /-- `room` digits still fit into the current group. -/
  go : Nat → List Char → List Char
    | _, [] => []
    | 0, d :: ds => separator :: d :: go (size - 1) ds
    | room + 1, d :: ds => d :: go room ds

/--
The fewest digits whose grouped text fills `width` characters: every `size` digits but the last come
with a separator, and no text starts with one.
-/
def digitsForWidth (size : Option Nat) (width : Nat) : Nat :=
  match size with
  | some size => width - (width - 1) / (size + 1)
  | none => width

def groupDigits (p : NumberPattern) (width : Nat) (digits : List Char) : List Char :=
  if digits.isEmpty then
    []
  else
    let padded := digits.leftpad (digitsForWidth p.groupSize width) '0'
    match p.separator, p.groupSize with
    | some separator, some size => group separator.toChar size padded
    | _, _ => padded

def signText (p : NumberPattern) (negative : Bool) : List Char :=
  if negative then
    ['-']
  else
    match p.sign with
    | some .always => ['+']
    | some .space => [' ']
    | _ => []

def pad (p : NumberPattern) (head tail : Text) : Text :=
  let missing := p.width.getD 0 - (head.length + tail.length)
  let fill (n : Nat) := List.replicate n p.fill
  match p.align with
  | .left => head ++ tail ++ fill missing
  | .right => fill missing ++ head ++ tail
  | .center => fill (missing / 2) ++ head ++ tail ++ fill (missing - missing / 2)
  | .afterSign => head ++ fill missing ++ tail

def layout (p : NumberPattern) (t : NumberText) : Text :=
  let head := p.signText t.negative ++ t.marker
  let width := if p.zeroDigits then p.width.getD 0 - (head.length + t.rest.length) else 0
  p.pad (Text.ofChars head) (Text.ofChars (p.groupDigits width t.digits) ++ t.rest)

end NumberPattern
end Soql
