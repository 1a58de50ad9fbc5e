import Soql.Template.Segment

/-!
This module contains the agreement of the numbers that fields hold with their decimal text: what is
written for a number is read as that number, and every number that is read can be written.
-/

namespace Soql

theorem isWritable_natCast (n : Nat) : isWritable n = true ↔ n < Nat.pow 10 maxDecimalDigits := by
  simp [isWritable]

theorem isWritable_zero : isWritable (0 : Nat) = true := by
  rw [isWritable_natCast, Nat.pow_eq]
  exact Nat.pow_pos (by omega)

theorem isWritable_of_le {m n : Nat} (h : isWritable n = true) (hle : m ≤ n) :
    isWritable m = true := by
  rw [isWritable_natCast] at *
  omega

theorem intText_natCast (n : Nat) : intText n = Nat.toDigits 10 n := by
  unfold intText
  split
  . omega
  . simp

theorem Text.digitValue?_of_isDigit {c : Char} (h : c.isDigit = true) :
    digitValue? c = some (c.toNat - '0'.toNat) := by
  rw [Char.isDigit_iff_toNat] at h
  have hfirst : (0x30 ≤ c.toNat && c.toNat < 0x30 + 10) = true := by
    simp only [Char.reduceToNat, Bool.and_eq_true, decide_eq_true_eq] at *
    omega
  have htable : zeroDigits = 0x30 :: zeroDigits.tail := rfl
  unfold digitValue?
  rw [htable, List.find?_cons, hfirst]
  rfl

namespace Segment

theorem digitsValue_digitValues (cs : List Char) :
    Text.digitsValue 0 (digitValues cs) = Nat.ofDigitChars 10 cs 0 := by
  unfold Text.digitsValue digitValues
  rw [List.foldl_map]
  rw [Nat.ofDigitChars_eq_foldl]

theorem ofDigitChars_lt (cs : List Char) (h : cs.all Char.isDigit = true)
    : Nat.ofDigitChars 10 cs 0 < Nat.pow 10 cs.length := by
  induction cs with
  | nil => simp
  | cons c cs ih =>
    simp only [List.all_cons, Bool.and_eq_true] at h
    have hc : c.toNat - '0'.toNat ≤ 9 := by
      rw [Char.isDigit_iff_toNat] at h
      have := h.1.2
      simp only [Char.reduceToNat] at *
      omega
    have ih := ih h.2
    rw [Nat.ofDigitChars_cons]
    rw [Nat.ofDigitChars_eq_ofDigitChars_zero]
    have hsucc : Nat.pow 10 (c :: cs).length = Nat.pow 10 cs.length * 10 := rfl
    rw [hsucc]
    have := Nat.mul_le_mul_left (Nat.pow 10 cs.length) hc
    simp only [Nat.mul_zero, Nat.zero_add, Nat.pow_eq] at *
    omega

theorem length_toDigits_le {n k : Nat} (hk : 0 < k) (h : n < Nat.pow 10 k) :
    (Nat.toDigits 10 n).length ≤ k := by
  rw [Nat.length_toDigits_le_iff (by omega) hk]
  exact h

theorem number_toDigits {n : Nat} (h : isWritable n = true) (numbering : Numbering)
    (hnumbering : ∀ next, numbering ≠ .automatic next)
    : number numbering (Nat.toDigits 10 n) = .ok (n, .explicit) := by
  have hdigits : (Nat.toDigits 10 n).all Char.isDigit = true := by
    rw [List.all_eq_true]
    intro c hc
    exact Nat.isDigit_of_mem_toDigits (by omega) (by omega) hc
  have hlength : (Nat.toDigits 10 n).length ≤ maxDecimalDigits := by
    apply length_toDigits_le (by decide)
    exact (isWritable_natCast n).1 h
  have hvalue : Text.digitsValue 0 (digitValues (Nat.toDigits 10 n)) = n := by
    rw [digitsValue_digitValues]
    exact Nat.ofDigitChars_ten_toDigits
  unfold number
  rw [if_neg (by simp), if_neg (by simp [hdigits]), if_neg (by omega), hvalue]
  cases numbering with
  | undecided => rfl
  | explicit => rfl
  | automatic next => exact absurd rfl (hnumbering next)

theorem all_isDigit_of_number {numbering numbering' : Numbering} {name : List Char} {n : Nat}
    (h : number numbering name = .ok (n, numbering')) : name.all Char.isDigit = true := by
  revert h
  fun_cases number numbering name with
  | case1 hname | case2 hname =>
    intro _
    rw [List.isEmpty_iff] at hname
    subst hname
    rfl
  | case8 _ _ hdigits =>
    intro _
    simpa using hdigits
  | case3 | case4 | case5 | case6 | case7 =>
    intro h
    cases h

theorem isWritable_of_number {numbering numbering' : Numbering} {name : List Char} {n : Nat}
    (h : number numbering name = .ok (n, numbering')) : isWritable n = true := by
  unfold number at h
  split at h
  . cases numbering with
    | undecided =>
      cases h
      exact isWritable_zero
    | automatic next =>
      dsimp at h
      split at h
      . next hwritable =>
        cases h
        exact hwritable
      . cases h
    | explicit => contradiction
  . split at h
    . contradiction
    . split at h
      . contradiction
      . next hdigits hlength =>
        have hn : n = Text.digitsValue 0 (digitValues name) := by
          cases numbering <;> cases h
          . rfl
          . rfl
        simp only [Bool.not_eq_true, Bool.not_eq_false'] at hdigits
        rw [isWritable_natCast, hn, digitsValue_digitValues]
        apply Nat.lt_of_lt_of_le
        . exact ofDigitChars_lt name hdigits
        . apply Nat.pow_le_pow_right
          . omega
          . omega

end Segment
end Soql
