import Soql.Text.Blank
import Soql.Text.Digit

/-!
This module contains the reader of decimal numerals: a sign, digits with an optional point, and an
optional power of ten. It keeps the numeral exact, so that each number type rounds on its own terms.
-/

namespace Soql
namespace Number

/--
A numeral denotes `± coefficient · 10 ^ exponent`.
-/
structure Numeral where
  negative : Bool
  coefficient : Nat
  exponent : Int
  deriving DecidableEq

def takeSign : List Char → Bool × List Char
  | '-' :: cs => (true, cs)
  | '+' :: cs => (false, cs)
  | cs => (false, cs)

namespace Numeral

def readPower : List Char → Option Int
  | [] => some 0
  | c :: cs =>
    if c == 'e' || c == 'E' then
      let (negative, cs) := takeSign cs
      match Text.takeDigits cs with
      | (d :: ds, []) =>
        let n : Int := Text.digitsValue 0 (d :: ds)
        some (if negative then -n else n)
      | _ => none
    else
      none

def readUnsigned (negative : Bool) (cs : List Char) : Option Numeral :=
  let (whole, rest) := Text.takeDigits cs
  let (fraction, rest) := match rest with
    | '.' :: cs => Text.takeDigits cs
    | cs => ([], cs)
  if whole.isEmpty && fraction.isEmpty then
    none
  else do
    let power ← readPower rest
    return ⟨negative, Text.digitsValue 0 (whole ++ fraction), power - fraction.length⟩

def read (cs : List Char) : Option Numeral :=
  let (negative, cs) := takeSign cs
  readUnsigned negative cs

end Numeral

/--
Drops underscores that stand between two digits; any other underscore is an error.
-/
def dropGrouping (cs : List Char) : Option (List Char) :=
  go false cs
where
  /-- The flag says whether the previous character was a digit. -/
  go : Bool → List Char → Option (List Char)
    | _, [] => some []
    | afterDigit, c :: cs =>
      if c == '_' then
        match cs with
        | d :: _ => if afterDigit && (Text.digitValue? d).isSome then go false cs else none
        | [] => none
      else
        (go (Text.digitValue? c).isSome cs).map (c :: ·)

def readInt (cs : List Char) : Option Int :=
  let (negative, cs) := takeSign cs
  match Text.takeDigits cs with
  | (d :: ds, []) =>
    let n : Int := Text.digitsValue 0 (d :: ds)
    some (if negative then -n else n)
  | _ => none

end Number
end Soql
