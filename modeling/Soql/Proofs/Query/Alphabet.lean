import Soql.Proofs.Number.Alphabet
import Soql.Proofs.Query.Parts

/-!
This module contains the characters that the literals of numbers and points in time are made of, of
which each literal has at least one.
-/

namespace Soql

open Text

theorem hasNumerals_isNumeric : HasNumerals isNumeric :=
  fun _ h => h

theorem HasNumerals.madeOf {P : Char → Bool} (hP : HasNumerals P) {cs : List Char}
    (h : MadeOf isNumeric cs) : MadeOf P cs :=
  MadeOf.iff_forall_mem.2 fun c hc => hP c (MadeOf.iff_forall_mem.1 h c hc)

def Symbol.isNumeric (s : Symbol) : Bool :=
  s.satisfies Soql.isNumeric

theorem Text.madeOf_isNumeric_ofChars {cs : List Char} (h : MadeOf Soql.isNumeric cs) :
    MadeOf Symbol.isNumeric (ofChars cs) :=
  madeOf_ofChars_iff.2 h

theorem Text.ofChars_ne_nil {cs : List Char} (h : cs ≠ []) : ofChars cs ≠ [] := by
  simpa [ofChars] using h

theorem isNumeric_intText (n : Int) : MadeOf isNumeric (intText n) :=
  madeOf_intText hasNumerals_isNumeric n

theorem Binary64.isNumeric_text {x : Binary64} (h : x.isFinite = true) :
    MadeOf isNumeric x.text.toList := by
  have hshortest := madeOf_shortest hasNumerals_isNumeric false
  cases x with
  | finite negative significand exponent =>
    unfold text
    rw [String.toList_ofList]
    exact madeOf_signed hasNumerals_isNumeric negative (hshortest ..)
  | infinite negative => cases h
  | nan => cases h

theorem Decimal.isNumeric_fixed (coefficient : Nat) (exponent : Int) :
    MadeOf isNumeric (fixed coefficient exponent) :=
  madeOf_fixed hasNumerals_isNumeric coefficient exponent

theorem Date.isNumeric_digits (count n : Nat) : MadeOf isNumeric (digits count n) :=
  (madeOf_toDigits hasNumerals_isNumeric n).leftpad rfl count

theorem Date.isNumeric_text (d : Date) : MadeOf isNumeric d.text := by
  unfold text
  simp only [MadeOf.append_iff, MadeOf.cons_iff, isNumeric_digits, and_true, true_and]
  decide

theorem TimeOfDay.isNumeric_clockText (t : TimeOfDay) : MadeOf isNumeric t.clockText := by
  unfold clockText
  simp only [MadeOf.append_iff, MadeOf.cons_iff, Date.isNumeric_digits, and_true, true_and]
  decide

theorem Offset.isNumeric_text {separator : List Char} (h : MadeOf isNumeric separator)
    (o : Offset)
    : MadeOf isNumeric (o.text separator) := by
  unfold text
  dsimp only
  simp only [MadeOf.append_iff, MadeOf.cons_iff, Date.isNumeric_digits, h, and_true]
  constructor
  . split <;> decide
  . split
    . exact .nil
    . exact MadeOf.append_iff.2 ⟨h, Date.isNumeric_digits ..⟩

theorem Date.text_ne_nil (d : Date) : d.text ≠ [] := by
  simp [text]

theorem DateTime.isNumeric_text (d : DateTime) (micros : Bool) :
    MadeOf isNumeric (d.text 'T' micros) := by
  unfold text
  dsimp only
  simp only [MadeOf.append_iff, MadeOf.cons_iff, Date.isNumeric_text,
    TimeOfDay.isNumeric_clockText, and_true, true_and]
  refine ⟨⟨by decide, ?_⟩, ?_⟩
  . split
    . exact MadeOf.cons_iff.2 ⟨by decide, Date.isNumeric_digits ..⟩
    . exact .nil
  . split
    . have hcolon : MadeOf isNumeric [':'] := rfl
      exact Offset.isNumeric_text hcolon _
    . exact .nil

namespace Value

variable {t : Text}

theorem isNumeric_intLiteral {n : Int} (h : intLiteral n = .ok t) : MadeOf Symbol.isNumeric t := by
  unfold intLiteral at h
  split at h
  . rw [← Except.ok.inj h]
    exact madeOf_isNumeric_ofChars (isNumeric_intText n)
  . cases h

theorem isNumeric_floatLiteral {x : Binary64} {label : Option Label}
    (h : floatLiteral x label = .ok t) : MadeOf Symbol.isNumeric t := by
  unfold floatLiteral at h
  split at h
  . next hfinite =>
    rw [← Except.ok.inj h]
    exact madeOf_isNumeric_ofChars (Binary64.isNumeric_text hfinite)
  . cases h

theorem isNumeric_decimalLiteral {d : Decimal} (h : decimalLiteral d = .ok t) :
    MadeOf Symbol.isNumeric t := by
  unfold decimalLiteral at h
  split at h
  . rw [← Except.ok.inj h]
    apply madeOf_isNumeric_ofChars
    exact madeOf_signed hasNumerals_isNumeric _ (Decimal.isNumeric_fixed ..)
  . cases h

theorem isNumeric_dateTimeLiteral (d : DateTime) :
    MadeOf Symbol.isNumeric (dateTimeLiteral d) := by
  unfold dateTimeLiteral
  split
  . exact madeOf_isNumeric_ofChars (DateTime.isNumeric_text d true)
  . exact madeOf_isNumeric_ofChars (Date.isNumeric_text d.date)

theorem ne_nil_of_intLiteral {n : Int} (h : intLiteral n = .ok t) : t ≠ [] := by
  unfold intLiteral at h
  split at h
  . rw [← Except.ok.inj h]
    exact ofChars_ne_nil (intText_ne_nil n)
  . cases h

theorem ne_nil_of_floatLiteral {x : Binary64} {label : Option Label}
    (h : floatLiteral x label = .ok t) : t ≠ [] := by
  unfold floatLiteral at h
  split at h
  . next hfinite =>
    rw [← Except.ok.inj h]
    apply ofChars_ne_nil
    cases x with
    | finite negative significand exponent =>
      rw [Binary64.text, String.toList_ofList]
      exact signed_ne_nil negative (Binary64.writeDigits_ne_nil _ _ _)
    | infinite negative => cases hfinite
    | nan => cases hfinite
  . cases h

theorem ne_nil_of_decimalLiteral {d : Decimal} (h : decimalLiteral d = .ok t) : t ≠ [] := by
  unfold decimalLiteral at h
  split at h
  . rw [← Except.ok.inj h]
    exact ofChars_ne_nil (signed_ne_nil _ (Decimal.writeDigits_ne_nil _ _ _ _ _))
  . cases h

theorem dateTimeLiteral_ne_nil (d : DateTime) : dateTimeLiteral d ≠ [] := by
  unfold dateTimeLiteral
  split
  . exact ofChars_ne_nil (by simp [DateTime.text])
  . exact ofChars_ne_nil d.date.text_ne_nil

section

variable {keepBlanks : Bool} {v : Value} (hv : v.heedsPattern = true)
  (h : escape keepBlanks v = .ok t)
include hv h

theorem isNumeric_of_escape : MadeOf Symbol.isNumeric t := by
  cases v with
  | int n label => exact isNumeric_intLiteral h
  | float x label => exact isNumeric_floatLiteral h
  | decimal d => exact isNumeric_decimalLiteral h
  | date d =>
    cases h
    exact madeOf_isNumeric_ofChars d.isNumeric_text
  | dateTime d =>
    cases h
    exact isNumeric_dateTimeLiteral d
  | _ => cases hv

theorem ne_nil_of_escape : t ≠ [] := by
  cases v with
  | int n label => exact ne_nil_of_intLiteral h
  | float x label => exact ne_nil_of_floatLiteral h
  | decimal d => exact ne_nil_of_decimalLiteral h
  | date d =>
    cases h
    exact ofChars_ne_nil d.text_ne_nil
  | dateTime d =>
    cases h
    exact dateTimeLiteral_ne_nil d
  | _ => cases hv

end

end Value
end Soql
