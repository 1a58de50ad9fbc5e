import Soql.Number.Rounding
import Soql.Number.Numeral

/-!
This module contains the binary floating point numbers of 64 bits, as exact values: a finite one is
`± significand · 2 ^ exponent`. Arithmetic rounds to the nearest value, ties to the even
significand.
-/

namespace Soql

inductive Binary64 where
  | finite (negative : Bool) (significand : Nat) (exponent : Int)
  | infinite (negative : Bool)
  | nan
  deriving DecidableEq

namespace Binary64

def minExponent : Int := -1074

/--
The largest exponent of a significand of 53 bits.
-/
def maxExponent : Int := 971

/--
The smallest significand of 53 bits.
-/
def minNormal : Nat := 4503599627370496

def zero (negative : Bool) : Binary64 :=
  .finite negative 0 minExponent

def ratio (significand : Nat) (exponent : Int) : Nat × Nat :=
  if 0 ≤ exponent then (significand * Nat.pow 2 exponent.toNat, 1)
  else (significand, Nat.pow 2 (-exponent).toNat)

def log2 (num den : Nat) : Int :=
  let k : Int := (num.log2 : Int) - den.log2
  let (n, d) := if 0 ≤ k then (num, den * Nat.pow 2 k.toNat) else (num * Nat.pow 2 (-k).toNat, den)
  if n < d then k - 1 else k

def ofRatio (negative : Bool) (num den : Nat) : Binary64 :=
  if num = 0 then
    zero negative
  else
    let exponent := max (log2 num den - 52) minExponent
    let (n, d) := if 0 ≤ exponent then (num, den * Nat.pow 2 exponent.toNat)
      else (num * Nat.pow 2 (-exponent).toNat, den)
    let significand := Number.roundHalfEven n d
    -- Note: rounding may carry into bit 53, which renormalizes to the next exponent.
    let (significand, exponent) := if significand = 2 * minNormal then (minNormal, exponent + 1)
      else (significand, exponent)
    if maxExponent < exponent then .infinite negative else .finite negative significand exponent

def ofInt (n : Int) : Binary64 :=
  ofRatio (n < 0) n.natAbs 1

/--
The value nearest to a numeral. Numerals far outside the range are decided by their magnitude alone.
-/
def ofNumeral (n : Number.Numeral) : Binary64 :=
  let magnitude := ((Nat.toDigits 10 n.coefficient).length : Int) + n.exponent
  if n.coefficient = 0 || magnitude < -400 then zero n.negative
  else if 400 < magnitude then .infinite n.negative
  else if 0 ≤ n.exponent then ofRatio n.negative (n.coefficient * Nat.pow 10 n.exponent.toNat) 1
  else ofRatio n.negative n.coefficient (Nat.pow 10 (-n.exponent).toNat)

/--
Reads a value from text: a numeral, or the name of a value that is not finite in any letter case.
Blanks may surround it, and single underscores may group its digits.
-/
def ofText? (s : String) : Option Binary64 := do
  let cs ← Number.dropGrouping (Text.trim s.toList)
  let (negative, rest) := Number.takeSign cs
  let name := String.ofList (rest.map Char.toLower)
  if name == "inf" || name == "infinity" then
    return .infinite negative
  else if name == "nan" then
    return .nan
  else
    return ofNumeral (← Number.Numeral.readUnsigned negative rest)

def isFinite : Binary64 → Bool
  | .finite .. => true
  | _ => false

/--
Whether a value has a sign; the value that is not a number shows none.
-/
def isNegative : Binary64 → Bool
  | .finite negative .. => negative
  | .infinite negative => negative
  | .nan => false

def mulNat (x : Binary64) (n : Nat) : Binary64 :=
  match x with
  | .finite negative significand exponent =>
    let (num, den) := ratio significand exponent
    ofRatio negative (num * n) den
  | x => x

example : ofRatio false 1 10 = .finite false 7205759403792794 (-56) := by decide +kernel

end Binary64
end Soql
