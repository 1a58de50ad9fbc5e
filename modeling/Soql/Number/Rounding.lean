/-!
This module contains division rounded to the nearest natural number, and the position of the decimal
point in a quotient. Both are exact: every decimal text of a number is computed from them.
-/

namespace Soql
namespace Number

def roundHalfEven (num den : Nat) : Nat :=
  let q := num / den
  let r := num % den
  if 2 * r < den then q
  else if den < 2 * r then q + 1
  else if q % 2 = 0 then q
  else q + 1

def scale (num den : Nat) (shift : Int) : Nat × Nat :=
  if 0 ≤ shift then (num * Nat.pow 10 shift.toNat, den)
  else (num, den * Nat.pow 10 (-shift).toNat)

/--
The position `k` of the decimal point in a positive quotient: `10 ^ (k - 1) ≤ num / den < 10 ^ k`.
-/
def pointOf (num den : Nat) : Int :=
  if den ≤ num then
    (Nat.toDigits 10 (num / den)).length
  else
    -- The least `j` with `den ≤ num · 10 ^ j` is the number of digits of `(den - 1) / num`.
    1 - ((Nat.toDigits 10 ((den - 1) / num)).length : Int)

example : pointOf 1 10 = 0 := by decide
example : pointOf 1 11 = -1 := by decide

/--
The `count` leading digits of a positive quotient, rounded to nearest even, with the position of the
decimal point. Rounding may carry into a new leading digit.
-/
def leadingDigits (num den count : Nat) : List Char × Int :=
  let point := pointOf num den
  let (n, d) := scale num den (count - point)
  let rounded := roundHalfEven n d
  if rounded < Nat.pow 10 count then (Nat.toDigits 10 rounded, point)
  else (Nat.toDigits 10 (rounded / 10), point + 1)

def dropTrailingZeros (digits : List Char) : List Char :=
  (digits.reverse.dropWhile (· == '0')).reverse

end Number
end Soql
