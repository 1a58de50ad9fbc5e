import Mathlib.Algebra.Field.Rat
import Mathlib.Tactic.NormNum
import Soql.Query.Compile
import Soql.Proofs.Number.Digits

/-!
This module contains that exact numbers are written exactly. The literal of an integer or a decimal
number is in fixed-point notation, and the numeral that it reads as denotes the number itself.
-/

namespace Soql
namespace Number

def IsDigitRun (cs : List Char) : Prop :=
  cs ≠ [] ∧ Text.MadeOf Char.isDigit cs

/--
Fixed-point notation: a minus sign or none, digits, and a point with digits behind it or none. There
is no power of ten, and nothing stands between the digits.
-/
def IsFixedPoint (cs : List Char) : Prop :=
  ∃ sign whole fraction, cs = sign ++ whole ++ fraction
    ∧ (sign = [] ∨ sign = ['-'])
    ∧ IsDigitRun whole
    ∧ (fraction = [] ∨ ∃ digits, fraction = '.' :: digits ∧ IsDigitRun digits)

structure Positional.IsDigits (p : Positional) : Prop where
  whole_ne_nil : p.whole ≠ []
  madeOf : p.MadeOf Char.isDigit

namespace Positional

theorem isDigits_ofDigits {digits : List Char} (h : Text.MadeOf Char.isDigit digits) (point : Int) :
    (ofDigits digits point).IsDigits := by
  constructor
  . apply whole_ofDigits_ne_nil
  . apply madeOf_ofDigits rfl h

theorem ofDigitChars_ofDigits (digits : List Char) (point : Int) :
    Nat.ofDigitChars 10 ((ofDigits digits point).whole ++ (ofDigits digits point).fraction) 0
      = Nat.ofDigitChars 10 digits 0 * 10 ^ (point - digits.length).toNat := by
  unfold ofDigits
  split
  . -- The point comes first: zeros are put in front of the digits only.
    have hnone : (point - digits.length).toNat = 0 := by omega
    rw [hnone, List.singleton_append, ← List.cons_append, ← List.replicate_succ]
    rw [Nat.ofDigitChars_append, Nat.ofDigitChars_replicate_zero]
    simp
  . by_cases hlength : digits.length ≤ point.toNat
    . -- No digit is left behind the point, and zeros fill the places up to it.
      have hcount : point.toNat - digits.length = (point - digits.length).toNat := by omega
      simp only [List.take_of_length_le hlength, List.drop_of_length_le hlength, List.append_nil]
      rw [List.rightpad, Nat.ofDigitChars_append, Nat.ofDigitChars_replicate_zero, hcount]
      apply Nat.mul_comm
    . have hnone : (point - digits.length).toNat = 0 := by omega
      have htake : (digits.take point.toNat).length = point.toNat := by
        rw [List.length_take]
        omega
      simp [List.rightpad, htake, hnone]

theorem length_fraction_ofDigits (digits : List Char) (point : Int) :
    (ofDigits digits point).fraction.length = (digits.length - point).toNat := by
  unfold ofDigits
  split
  . rw [List.length_append, List.length_replicate]
    omega
  . rw [List.length_drop]
    omega

theorem exists_render_eq_append {p : Positional} (h : p.IsDigits) :
    ∃ fraction, p.render false = p.whole ++ fraction
      ∧ (fraction = [] ∨ ∃ digits, fraction = '.' :: digits ∧ IsDigitRun digits) := by
  unfold render
  split
  . exact ⟨[], by rw [List.append_nil], .inl rfl⟩
  . next hpoint =>
    have hne : p.fraction ≠ [] := by simpa using hpoint
    exact ⟨_, rfl, .inr ⟨_, rfl, hne, h.madeOf.fraction⟩⟩

theorem isFixedPoint_render {p : Positional} (h : p.IsDigits) (negative : Bool) :
    IsFixedPoint (signed negative (p.render false)) := by
  have hwhole : IsDigitRun p.whole := ⟨h.whole_ne_nil, h.madeOf.whole⟩
  obtain ⟨fraction, hrender, hfraction⟩ := exists_render_eq_append h
  rw [hrender]
  cases negative with
  | false => exact ⟨[], p.whole, fraction, rfl, .inl rfl, hwhole, hfraction⟩
  | true => exact ⟨['-'], p.whole, fraction, rfl, .inr rfl, hwhole, hfraction⟩

theorem exists_render_eq_cons {p : Positional} (h : p.IsDigits) :
    ∃ c cs, p.render false = c :: cs ∧ c.isDigit = true := by
  obtain ⟨c, cs, hwhole⟩ := List.exists_cons_of_ne_nil h.whole_ne_nil
  obtain ⟨fraction, hrender, _⟩ := exists_render_eq_append h
  have hc : c.isDigit = true := by
    apply Text.MadeOf.iff_forall_mem.1 h.madeOf.whole
    rw [hwhole]
    apply List.mem_cons_self
  rw [hwhole] at hrender
  exact ⟨c, cs ++ fraction, hrender, hc⟩

end Positional

namespace Numeral

def value (n : Numeral) : ℚ :=
  (if n.negative then -1 else 1) * n.coefficient * 10 ^ n.exponent

theorem value_zero (negative : Bool) (exponent : Int) : value ⟨negative, 0, exponent⟩ = 0 := by
  simp [value]

theorem value_mul_pow (negative : Bool) (coefficient count : Nat) (exponent : Int) :
    value ⟨negative, coefficient * 10 ^ count, exponent⟩
      = value ⟨negative, coefficient, count + exponent⟩ := by
  unfold value
  dsimp only
  rw [zpow_add₀ (by norm_num), zpow_natCast]
  push_cast
  simp only [mul_assoc]

theorem readUnsigned_render {p : Positional} (h : p.IsDigits) (negative : Bool) :
    readUnsigned negative (p.render false)
      = some ⟨negative, Nat.ofDigitChars 10 (p.whole ++ p.fraction) 0, -p.fraction.length⟩ := by
  rw [← Segment.digitsValue_digitValues]
  unfold Positional.render
  split
  . next hpoint =>
    have hnone : p.fraction = [] := by simpa using hpoint
    unfold readUnsigned
    rw [Text.takeDigits_eq h.madeOf.whole]
    simp [h.whole_ne_nil, hnone, readPower, Segment.digitValues]
  . have hpoint : Text.takeDigits ('.' :: p.fraction) = ([], '.' :: p.fraction) := by
      apply Text.takeDigits_cons_of_none
      decide
    have hfraction := Text.takeDigits_eq h.madeOf.fraction
    unfold readUnsigned
    rw [Text.takeDigits_append h.madeOf.whole hpoint]
    simp [hfraction, h.whole_ne_nil, readPower, Segment.digitValues]

theorem takeSign_signed {c : Char} (h : c.isDigit = true) (negative : Bool) (cs : List Char) :
    takeSign (signed negative (c :: cs)) = (negative, c :: cs) := by
  cases negative with
  | true => rfl
  | false =>
    unfold signed
    rw [if_neg (by decide)]
    unfold takeSign
    split
    . next heq =>
      cases heq
      cases h
    . next heq =>
      cases heq
      cases h
    . rfl

theorem read_signed_render {p : Positional} (h : p.IsDigits) (negative : Bool) :
    read (signed negative (p.render false))
      = some ⟨negative, Nat.ofDigitChars 10 (p.whole ++ p.fraction) 0, -p.fraction.length⟩ := by
  obtain ⟨c, cs, hrender, hc⟩ := Positional.exists_render_eq_cons h
  have hread := readUnsigned_render h negative
  rw [hrender] at hread ⊢
  rw [read, takeSign_signed hc]
  exact hread

end Numeral
end Number

namespace Decimal

theorem fixedDigits_eq (digits : List Char) (exponent : Int) :
    fixedDigits digits exponent
      = (Number.Positional.ofDigits digits (digits.length + exponent)).render false := by
  unfold fixedDigits writeDigits
  simp

theorem read_fixedDigits (negative : Bool) (coefficient : Nat) (exponent : Int) :
    Number.Numeral.read
        (Number.signed negative (fixedDigits (Nat.toDigits 10 coefficient) exponent))
      = some ⟨negative, coefficient * 10 ^ exponent.toNat, min exponent 0⟩ := by
  have hdigits := Text.isDigit_toDigits coefficient
  rw [fixedDigits_eq]
  rw [Number.Numeral.read_signed_render (Number.Positional.isDigits_ofDigits hdigits _)]
  rw [Number.Positional.ofDigitChars_ofDigits, Number.Positional.length_fraction_ofDigits]
  rw [Nat.ofDigitChars_ten_toDigits]
  simp only [Option.some.injEq, Number.Numeral.mk.injEq, true_and]
  constructor
  . congr
    omega
  . omega

theorem fixed_zero (coefficient : Nat) : fixed coefficient 0 = Nat.toDigits 10 coefficient := by
  have hlength : 0 < (Nat.toDigits 10 coefficient).length := by
    apply List.length_pos_iff.2
    apply Nat.toDigits_ne_nil
  unfold fixed
  rw [ite_self, fixedDigits_eq, Number.Positional.ofDigits, if_neg (by omega)]
  simp [List.rightpad, Number.Positional.render_of_fraction_nil]

theorem isFixedPoint_fixed (negative : Bool) (coefficient : Nat) (exponent : Int) :
    Number.IsFixedPoint (Number.signed negative (fixed coefficient exponent)) := by
  unfold fixed
  rw [fixedDigits_eq]
  apply Number.Positional.isFixedPoint_render
  apply Number.Positional.isDigits_ofDigits
  apply Text.isDigit_toDigits

theorem value_fixed (negative : Bool) (coefficient : Nat) (exponent : Int) :
    (Number.Numeral.read (Number.signed negative (fixed coefficient exponent))).map
        Number.Numeral.value
      = some (Number.Numeral.value ⟨negative, coefficient, exponent⟩) := by
  unfold fixed
  rw [read_fixedDigits, Option.map_some, Number.Numeral.value_mul_pow]
  split
  . next h =>
    -- A zero loses its exponent, which is no part of its value.
    rw [Bool.and_eq_true, decide_eq_true_eq] at h
    rw [h.1, Number.Numeral.value_zero, Number.Numeral.value_zero]
  . congr
    omega

end Decimal

theorem intText_eq_fixed (n : Int) :
    intText n = Number.signed (n < 0) (Decimal.fixed n.natAbs 0) := by
  rw [Decimal.fixed_zero]
  simp [intText, Number.signed]

theorem Number.Numeral.value_natAbs (n : Int) : value ⟨n < 0, n.natAbs, 0⟩ = n := by
  unfold value
  simp only [decide_eq_true_eq, zpow_zero, mul_one]
  rw [← Int.cast_natCast n.natAbs]
  split
  . next h =>
    rw [Int.ofNat_natAbs_of_nonpos (by omega)]
    push_cast
    rw [neg_one_mul, neg_neg]
  . next h =>
    rw [Int.natAbs_of_nonneg (by omega), one_mul]

theorem isWritable_iff_length (n : Int) :
    isWritable n = true ↔ (Nat.toDigits 10 n.natAbs).length ≤ maxDecimalDigits := by
  rw [Nat.length_toDigits_le_iff (by omega) (by decide)]
  simp [isWritable]

theorem escapeWith_empty (keepBlanks : Bool) (v : Value) :
    escapeWith keepBlanks "" v = escape keepBlanks v := rfl

namespace Value

/--
Integers of up to 4300 digits, whatever they show in place of these, and all finite decimals are
written in fixed-point notation, and what is written denotes the number itself. Truth values are a
kind of their own.
-/
theorem escape_exact :
    (∀ (keepBlanks : Bool) (n : Int) (label : Option Label),
      (Nat.toDigits 10 n.natAbs).length ≤ maxDecimalDigits
      → ∃ text, escapeWith keepBlanks "" (.int n label) = .ok (Text.ofChars text)
        ∧ Number.IsFixedPoint text
        ∧ (Number.Numeral.read text).map Number.Numeral.value = some (n : ℚ))
    ∧ ∀ (keepBlanks negative : Bool) (coefficient : Nat) (exponent : Int),
      ∃ text, escapeWith keepBlanks "" (.decimal (.finite negative coefficient exponent))
          = .ok (Text.ofChars text)
        ∧ Number.IsFixedPoint text
        ∧ (Number.Numeral.read text).map Number.Numeral.value
          = some ((if negative then -1 else 1) * coefficient * 10 ^ exponent : ℚ) := by
  constructor
  . intro keepBlanks n label hlength
    have hwritable := (isWritable_iff_length n).2 hlength
    refine ⟨intText n, ?_, ?_, ?_⟩
    . rw [escapeWith_empty, escape, intLiteral, if_pos hwritable]
    . rw [intText_eq_fixed]
      apply Decimal.isFixedPoint_fixed
    . rw [intText_eq_fixed, Decimal.value_fixed]
      rw [Number.Numeral.value_natAbs]
  . intro keepBlanks negative coefficient exponent
    refine ⟨_, rfl, ?_, ?_⟩
    . apply Decimal.isFixedPoint_fixed
    . apply Decimal.value_fixed

theorem escape_exact_longest :
    (Nat.toDigits 10 (-10 ^ 4299 : Int).natAbs).length ≤ maxDecimalDigits
      ∧ ∃ text, escapeWith false "" (.int (-10 ^ 4299) (some ⟨"Grade", "A"⟩))
          = .ok (Text.ofChars text)
        ∧ Number.IsFixedPoint text
        ∧ (Number.Numeral.read text).map Number.Numeral.value
          = some ((-10 ^ 4299 : Int) : ℚ) := by
  have hlength : (Nat.toDigits 10 (-10 ^ 4299 : Int).natAbs).length ≤ maxDecimalDigits := by
    rw [Nat.length_toDigits_le_iff (by omega) (by decide), Int.natAbs_neg, Int.natAbs_pow]
    apply Nat.pow_lt_pow_right (by decide) (by decide)
  exact ⟨hlength, escape_exact.1 false _ _ hlength⟩

end Value
end Soql
