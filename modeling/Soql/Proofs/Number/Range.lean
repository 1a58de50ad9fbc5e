import Soql.Number.Binary64

/-!
This module contains which integers have a nearest binary number that is finite: those below half a
unit over the largest one.
-/

namespace Soql

theorem Number.roundHalfEven_lower (num den : Nat) :
    (2 * roundHalfEven num den - 1) * den ≤ 2 * num := by
  have hdivision : num / den * den + num % den = num := Nat.div_add_mod' num den
  have hdown : (2 * (num / den) - 1) * den ≤ 2 * num :=
    calc (2 * (num / den) - 1) * den
      _ ≤ 2 * (num / den) * den := Nat.mul_le_mul_right den (Nat.sub_le ..)
      _ = 2 * (num / den * den) := Nat.mul_assoc ..
      _ ≤ 2 * num := by omega
  have hup (h : den ≤ 2 * (num % den)) : (2 * (num / den + 1) - 1) * den ≤ 2 * num :=
    calc (2 * (num / den + 1) - 1) * den
      _ = (2 * (num / den) + 1) * den := by congr 1
      _ = 2 * (num / den * den) + den := by rw [Nat.add_mul, Nat.mul_assoc, Nat.one_mul]
      _ ≤ 2 * num := by omega
  fun_cases roundHalfEven num den with
  | case1 | case3 => exact hdown
  | case2 => exact hup (by omega)
  | case4 => exact hup (by omega)

namespace Binary64

theorem log2_one {num : Nat} (h : num ≠ 0) : log2 num 1 = num.log2 := by
  have hpower : ¬num < 2 ^ num.log2 := Nat.not_lt_of_le (Nat.log2_self_le h)
  have hone : Nat.log2 1 = 0 := by decide
  simp [log2, hone, hpower]

/--
The least number that rounds up to the next power of two, where a unit is `2 ^ (places + 1)`: 53
ones for its digits, and half a unit more.
-/
def carryLimit (places : Nat) : Nat :=
  (4 * minNormal - 1) * Nat.pow 2 places

theorem log2_lt_of_lt_carryLimit {num places : Nat} (hzero : num ≠ 0)
    (h : num < carryLimit places) : num.log2 < 54 + places := by
  rw [Nat.log2_lt hzero, Nat.pow_add]
  exact Nat.lt_of_lt_of_le h (Nat.mul_le_mul_right _ (by decide))

theorem carryLimit_le_of_carry {num places : Nat}
    (h : Number.roundHalfEven num (1 * Nat.pow 2 (places + 1)) = 2 * minNormal)
    : carryLimit places ≤ num := by
  have hlower := Number.roundHalfEven_lower num (1 * Nat.pow 2 (places + 1))
  rw [h, Nat.one_mul, Nat.pow_eq, Nat.pow_succ'] at hlower
  unfold minNormal at hlower
  unfold carryLimit minNormal
  rw [Nat.pow_eq]
  omega

/--
The least magnitude of an integer whose nearest binary number is not finite.
-/
def integerLimit : Nat :=
  carryLimit 970

theorem isFinite_ofInt {n : Int} (h : n.natAbs < integerLimit) : (ofInt n).isFinite = true := by
  fun_cases ofInt n
  fun_cases ofRatio _ n.natAbs 1 with
  | case1 | case3 => rfl
  | case2 hzero least num den hscaled rounded significand exponent hnormal hbeyond =>
    exfalso
    have hlog := log2_lt_of_lt_carryLimit hzero h
    have hleast : least ≤ 971 := by
      unfold least minExponent
      rw [log2_one hzero]
      omega
    unfold maxExponent at hbeyond
    split at hnormal
    . next hcarry =>
      cases hnormal
      have hlargest : least = (970 + 1 : Nat) := by omega
      rw [hlargest, if_pos (Int.natCast_nonneg _), Int.toNat_natCast] at hscaled
      cases hscaled
      exact Nat.not_le_of_lt h (carryLimit_le_of_carry hcarry)
    . cases hnormal
      omega

end Binary64
end Soql
