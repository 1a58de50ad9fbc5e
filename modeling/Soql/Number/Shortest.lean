import Soql.Number.Binary64

/-!
This module contains the choice of the digits that stand for a binary number in decimal: as few as
read back to the same number, and of those the nearest to it.
-/

namespace Soql
namespace Binary64

/--
The reals that round to one binary number, as two ends over a common denominator.
-/
structure RoundingInterval where
  low : Nat
  high : Nat
  den : Nat
  /-- Whether the ends themselves round to the number. -/
  closed : Bool

/--
The ends lie half way to the neighbours. Below a power of two the neighbour is nearer by half.
-/
def roundingInterval (significand : Nat) (exponent : Int) : RoundingInterval :=
  let (unit, den) := ratio 1 exponent
  let below := if significand = minNormal && minExponent < exponent then 1 else 2
  ⟨(4 * significand - below) * unit, (4 * significand + 2) * unit, 4 * den,
    significand % 2 == 0⟩

def RoundingInterval.contains (i : RoundingInterval) (num den : Nat) : Bool :=
  if i.closed then i.low * den ≤ num * i.den && num * i.den ≤ i.high * den
  else i.low * den < num * i.den && num * i.den < i.high * den

abbrev Digits := List Char × Int

/--
The number of at most `count` digits that reads back to `num / den`, if there is one: of the two
neighbours on the grid of `count` digits, the nearer one that lies in the interval.
-/
def readableDigits? (interval : RoundingInterval) (num den count : Nat) : Option Digits :=
  let point := Number.pointOf num den
  let (n, d) := Number.scale num den (count - point)
  let lower := n / d
  let inside (k : Nat) : Bool :=
    let (kn, kd) := Number.scale k 1 (point - count)
    interval.contains kn kd
  let chosen :=
    if inside lower && inside (lower + 1) then some (Number.roundHalfEven n d)
    else if inside lower then some lower
    else if inside (lower + 1) then some (lower + 1)
    else none
  chosen.map fun k =>
    if k < Nat.pow 10 count then (Nat.toDigits 10 k, point)
    else (Nat.toDigits 10 (k / 10), point + 1)

/--
The shortest digits that read back to a positive number. Seventeen digits always do.
-/
def shortestDigits (significand : Nat) (exponent : Int) : Digits :=
  let (num, den) := ratio significand exponent
  let interval := roundingInterval significand exponent
  match (List.range' 1 17).findSome? (readableDigits? interval num den) with
  | some digits => digits
  | none => Number.leadingDigits num den 17

example : shortestDigits 1 (-1074) = (['5'], -323) := by decide +kernel

end Binary64
end Soql
