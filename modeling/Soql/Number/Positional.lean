/-!
This module contains the positional writing of a digit string: which digits stand before the decimal
point and which after it.
-/

namespace Soql
namespace Number

structure Positional where
  whole : List Char
  fraction : List Char
  deriving DecidableEq

namespace Positional

/--
Places the decimal point behind the first `point` digits. Zeros fill the places that no digit takes,
and at least one digit stands before the point.
-/
def ofDigits (digits : List Char) (point : Int) : Positional :=
  if point ≤ 0 then
    ⟨['0'], List.replicate (-point).toNat '0' ++ digits⟩
  else
    ⟨(digits.take point.toNat).rightpad point.toNat '0', digits.drop point.toNat⟩

def ofScaled (n places : Nat) : Positional :=
  let digits := (Nat.toDigits 10 n).leftpad (places + 1) '0'
  ⟨digits.take (digits.length - places), digits.drop (digits.length - places)⟩

def withPlaces (p : Positional) (places : Nat) : Positional :=
  { p with fraction := p.fraction.rightpad places '0' }

def render (p : Positional) (keepPoint : Bool) : List Char :=
  if p.fraction.isEmpty && !keepPoint then p.whole else p.whole ++ '.' :: p.fraction

theorem render_of_fraction_nil (whole : List Char) : render ⟨whole, []⟩ false = whole := rfl

end Positional

def signed (negative : Bool) (cs : List Char) : List Char :=
  if negative then '-' :: cs else cs

end Number
end Soql
