import Soql.Proofs.Number.Layout
import Soql.Proofs.Number.Range
import Soql.Proofs.Number.Reading

/-!
This module contains what a number pattern can make of a number. The text has plain characters and
those of the pattern, except that the code `c` spells out one character of the number's choosing.
Only an integer that is out of range has an overflow for failure.
-/

namespace Soql

open Text

def Overflow.IsDue (n : Int) : Overflow → Prop
  | .intBeyondBinary => Binary64.integerLimit ≤ n.natAbs
  | .wordTooSmall => Number.isWord n = false
  | .notCodePoint => n < 0 ∨ 0x110000 ≤ n

def PatternFailure.IsDue (due : Overflow → Prop) : PatternFailure → Prop
  | .overflow o => due o
  | _ => True

namespace NumberPattern

section Characters

variable {P : Char → Bool} (hP : HasPlain P)
include hP

theorem madeOf_toDigits_base {base : Nat} (hbase : 1 < base) (n : Nat) :
    MadeOf P (Nat.toDigits base n) := by
  have hdigit (n : Nat) : MadeOf P [n.digitChar] :=
    MadeOf.cons_iff.2 ⟨hP _ (isPlain_digitChar n), .nil⟩
  induction n using Nat.strongRecOn with
  | ind n ih =>
    by_cases hn : n < base
    . rw [Nat.toDigits_of_lt_base hn]
      exact hdigit n
    . have hle : base ≤ n := Nat.le_of_not_lt hn
      rw [Nat.toDigits_of_base_le hbase hle, MadeOf.append_iff]
      exact ⟨ih (n / base) (Nat.div_lt_self (by omega) hbase), hdigit _⟩

theorem madeOf_magnitudeText (p : NumberPattern) (code : Option Char) (significand : Nat)
    (exponent : Int)
    : MadeOf P (p.magnitudeText code significand exponent) := by
  have hnumerals := hP.hasNumerals
  have hgeneral {mark : Char} (hmark : P mark = true) (keepFraction : Bool) (precision : Nat) :
      MadeOf P (magnitudeText.general p significand exponent mark keepFraction precision) :=
    Binary64.madeOf_writeDigits hnumerals hmark _ (Binary64.madeOf_leadingDigits hnumerals ..)
  unfold magnitudeText
  dsimp only
  split
  . exact Binary64.madeOf_scientific hnumerals (hP 'e' rfl) ..
  . exact Binary64.madeOf_scientific hnumerals (hP 'E' rfl) ..
  . exact Binary64.madeOf_fixed hnumerals ..
  . exact Binary64.madeOf_fixed hnumerals ..
  . exact Binary64.madeOf_fixed hnumerals ..
  . exact hgeneral (hP 'e' rfl) ..
  . exact hgeneral (hP 'e' rfl) ..
  . exact hgeneral (hP 'E' rfl) ..
  . split
    . exact Binary64.madeOf_shortest hnumerals ..
    . exact hgeneral (hP 'e' rfl) ..

theorem madeOf_specialText (code : Option Char) {name : List Char} (h : MadeOf P name) :
    MadeOf P (specialText code name) := by
  unfold specialText
  split
  . exact madeOf_map_toUpper hP h
  . exact h

theorem madeOf_markerOf (code : Char) : MadeOf P (markerOf code) := by
  unfold markerOf
  split
  . next hcode =>
    have hcodes : MadeOf P "boxX".toList := madeOf_of_isPlain hP (by decide)
    have hcode := MadeOf.iff_forall_mem.1 hcodes code (List.contains_iff_mem.1 hcode)
    exact MadeOf.cons_iff.2 ⟨hP '0' rfl, MadeOf.cons_iff.2 ⟨hcode, .nil⟩⟩
  . exact .nil

omit hP in
theorem one_lt_baseOf (code : Char) : 1 < baseOf code := by
  unfold baseOf
  split <;> decide

variable (due : Overflow → Prop)

theorem rescale_yields (coefficient : Nat) (exponent target : Int) :
    Yields (MadeOf P) (PatternFailure.IsDue due) (rescale coefficient exponent target) := by
  have hdigits (n : Nat) := madeOf_toDigits hP.hasNumerals n
  fun_cases rescale coefficient exponent target with
  | case2 | case3 => exact .error trivial
  | case1 => exact .ok (hdigits coefficient)
  | case4 => exact .ok (MadeOf.append_iff.2 ⟨hdigits coefficient, .replicate (hP '0' rfl) _⟩)
  | case5 => exact .ok (madeOf_of_isPlain hP rfl)
  | case6 => exact .ok (hdigits _)

theorem roundDigits_yields (coefficient : Nat) (exponent : Int) (count : Nat) :
    Yields (fun r => MadeOf P r.1) (PatternFailure.IsDue due)
      (roundDigits coefficient exponent count) := by
  unfold roundDigits
  refine (rescale_yields hP ..).bind fun rounded hrounded => ?_
  split
  . exact .ok hrounded
  . exact .ok (hrounded.of_sublist (List.dropLast_sublist _))

theorem decimalMagnitude_yields (p : NumberPattern) (coefficient : Nat) (exponent : Int) :
    Yields (fun r => MadeOf P r.1) (PatternFailure.IsDue due)
      (p.decimalMagnitude coefficient exponent) := by
  have hnumerals := hP.hasNumerals
  have hdigits := madeOf_toDigits hnumerals coefficient
  unfold decimalMagnitude
  extract_lets fixed scientific digits general
  have hfixed (exponent : Int) :
      Yields (fun r => MadeOf P r.1) (PatternFailure.IsDue due) (fixed exponent) := by
    unfold fixed
    split
    . exact .ok (Decimal.madeOf_fixed hnumerals ..)
    . refine (rescale_yields hP ..).bind fun rounded hrounded => ?_
      exact .ok (Decimal.madeOf_fixedDigits hnumerals hrounded _)
  have hscientific {mark : Char} (hmark : P mark = true) :
      Yields (fun r => MadeOf P r.1) (PatternFailure.IsDue due) (scientific mark) := by
    unfold scientific
    split
    . exact .ok (Decimal.madeOf_scientific hnumerals hmark hdigits ..)
    . split
      . exact .ok (Decimal.madeOf_scientific hnumerals hmark (madeOf_of_isPlain hP rfl) ..)
      . refine (roundDigits_yields hP ..).bind fun r hrounded => ?_
        exact .ok (Decimal.madeOf_scientific hnumerals hmark hrounded ..)
  have hgeneral {mark : Char} (hmark : P mark = true) :
      Yields (fun r => MadeOf P r.1) (PatternFailure.IsDue due) (general mark) := by
    unfold general
    extract_lets finish
    have hfinish (r : List Char × Int) (hr : MadeOf P r.1) :
        Yields (fun r => MadeOf P r.1) (PatternFailure.IsDue due) (finish r) :=
      .ok (Decimal.madeOf_natural hnumerals hmark hr r.2)
    split
    . split
      . exact (roundDigits_yields hP due coefficient exponent _).bind hfinish
      . exact hfinish (digits, exponent) hdigits
    . exact hfinish (digits, exponent) hdigits
  split
  . exact hfixed exponent
  . exact hfixed exponent
  . refine (hfixed (exponent + 2)).bind fun r hr => ?_
    exact .ok (MadeOf.append_iff.2 ⟨hr, madeOf_of_isPlain hP rfl⟩)
  . exact hscientific (hP 'e' rfl)
  . exact hscientific (hP 'E' rfl)
  . exact hgeneral (hP 'e' rfl)
  . exact hgeneral (hP 'E' rfl)

theorem madeOf_magnitudeName (d : Decimal) : MadeOf P d.magnitudeName := by
  have hdigits (n : Nat) := madeOf_toDigits hP.hasNumerals n
  fun_cases Decimal.magnitudeName d with
  | case1 => exact Decimal.madeOf_natural hP.hasNumerals (hP 'E' rfl) (hdigits _) _
  | case2 => exact madeOf_of_isPlain hP (by decide)
  | case3 _ signalling payload =>
    rw [MadeOf.append_iff]
    constructor
    . cases signalling <;> exact madeOf_of_isPlain hP (by decide)
    . split
      . exact .nil
      . exact hdigits payload

end Characters

section Texts

variable {P : Symbol → Bool} (hP : HasPlain fun c => P (.char c))
include hP

theorem FillsFrom.isMember {text : Text} {p : NumberPattern} (h : p.FillsFrom text)
    (htext : MadeOf P text) : P p.fill = true := by
  rcases h with h | h | h
  . exact MadeOf.iff_forall_mem.1 htext _ h
  . exact h ▸ hP '0' rfl
  . exact h ▸ hP ' ' rfl

/--
Whether an integer is the code point of a symbol outside a class.
-/
def Names (P : Symbol → Bool) (n : Int) : Prop :=
  ∃ s : Symbol, P s = false ∧ n = s.codePoint

theorem characterText_yields {p : NumberPattern} (hfill : P p.fill = true) (n : Int) :
    Yields (fun t => MadeOf P t ∨ Names P n) (PatternFailure.IsDue (Overflow.IsDue n))
      (p.characterText n) := by
  fun_cases characterText p n with
  | case1 | case2 => exact .error trivial
  | case3 _ _ hword =>
    have hnot : Number.isWord n = false := by simpa using hword
    exact .error hnot
  | case4 _ _ _ hrange =>
    have hout : n < 0 ∨ 0x110000 ≤ n := by simpa using hrange
    exact .error hout
  | case5 _ _ _ hrange =>
    refine .ok ?_
    cases hs : P (.ofCodePoint n.toNat) with
    | true => exact .inl (madeOf_layout hfill hP ⟨.nil, .nil, MadeOf.cons_iff.2 ⟨hs, .nil⟩⟩)
    | false =>
      have hcode : n = (Symbol.ofCodePoint n.toNat).codePoint := by
        simp only [Bool.or_eq_true, decide_eq_true_eq, not_or] at hrange
        rw [Symbol.codePoint_ofCodePoint (by omega)]
        omega
      exact .inr ⟨_, hs, hcode⟩

theorem integerText_yields {p : NumberPattern} (hfill : P p.fill = true) (code : Char) (n : Int) :
    Yields (fun t => MadeOf P t ∨ code = 'c' ∧ Names P n)
      (PatternFailure.IsDue (Overflow.IsDue n)) (p.integerText code n) := by
  fun_cases integerText p code n with
  | case1 | case2 | case4 => exact .error trivial
  | case3 _ _ hcode =>
    refine (characterText_yields hP hfill n).imp ?_
    rintro t (ht | hnames)
    . exact .inl ht
    . exact .inr ⟨beq_iff_eq.1 hcode, hnames⟩
  | case5 _ _ _ _ digits shown marker =>
    have hdigits : MadeOf (fun c => P (.char c)) digits :=
      madeOf_toDigits_base hP (one_lt_baseOf code) _
    have hshown : MadeOf (fun c => P (.char c)) shown := by
      unfold shown
      split
      . exact madeOf_map_toUpper hP hdigits
      . exact hdigits
    have hmarker : MadeOf (fun c => P (.char c)) marker := by
      unfold marker
      split
      . exact madeOf_markerOf hP code
      . exact .nil
    exact .ok (.inl (madeOf_layout hfill hP ⟨hmarker, hshown, .nil⟩))

theorem fill_withoutZeros {p : NumberPattern} (hfill : P p.fill = true) :
    P p.withoutZeros.fill = true := by
  unfold withoutZeros
  split
  . exact hP ' ' rfl
  . exact hfill

theorem binaryText_yields (due : Overflow → Prop) {p : NumberPattern} (hfill : P p.fill = true)
    (x : Binary64) : Yields (MadeOf P) (PatternFailure.IsDue due) (p.binaryText x) := by
  unfold binaryText
  split
  . exact .error trivial
  . extract_lets percent value magnitude negative
    have hmagnitude : MadeOf (fun c => P (.char c)) magnitude := by
      unfold magnitude
      cases value
      . exact madeOf_magnitudeText hP ..
      . exact madeOf_specialText hP _ (madeOf_of_isPlain hP rfl)
      . exact madeOf_specialText hP _ (madeOf_of_isPlain hP rfl)
    obtain ⟨hdigits, hrest⟩ := hmagnitude.span Char.isDigit
    refine .ok (madeOf_layout hfill hP ⟨.nil, hdigits, ?_⟩)
    rw [madeOf_ofChars_iff]
    split
    . exact MadeOf.append_iff.2 ⟨hrest, madeOf_of_isPlain hP rfl⟩
    . exact hrest

section

variable {pattern : Text} (hpattern : MadeOf P pattern)
include hpattern

theorem formatBinary_yields (due : Overflow → Prop) (x : Binary64) :
    Yields (MadeOf P) (PatternFailure.IsDue due) (formatBinary pattern x) := by
  unfold formatBinary
  refine ((read_from ..).mapError fun _ _ => trivial).bind ?_
  rintro p ⟨hfill, _⟩
  have htext := binaryText_yields hP due (hfill.isMember hP hpattern) x
  extract_lets finish
  split
  . exact htext
  . split
    . exact .error trivial
    . exact htext

theorem formatInt_yields (kind : String) (n : Int) :
    Yields (fun t => MadeOf P t ∨ [.char 'c'] <:+ pattern ∧ Names P n)
      (PatternFailure.IsDue (Overflow.IsDue n)) (formatInt kind pattern n) := by
  unfold formatInt
  refine ((read_from ..).mapError fun _ _ => trivial).bind ?_
  rintro p ⟨hfill, hcode⟩
  have hfill := hfill.isMember hP hpattern
  extract_lets code
  split
  . refine (integerText_yields hP hfill code n).imp ?_
    rintro t (ht | ⟨hc, hnames⟩)
    . exact .inl ht
    . refine .inr ⟨?_, hnames⟩
      unfold code at hc
      -- Note: the default code is another one, so this one stands in the pattern.
      rcases hcode with hdefault | ⟨c, hsuffix, hsome⟩
      . rw [hdefault] at hc
        cases hc
      . rw [hsome] at hc
        exact hc ▸ hsuffix
  . split
    . split
      . exact (binaryText_yields hP _ hfill _).imp fun t ht => .inl ht
      . next hfinite =>
        have hlarge : Binary64.integerLimit ≤ n.natAbs := by
          by_contra hsmall
          exact hfinite (Binary64.isFinite_ofInt (Nat.lt_of_not_le hsmall))
        exact .error hlarge
    . exact .error trivial

end

omit hP in
theorem isDue_roundingFault {due : Overflow → Prop} {failure : PatternFailure}
    (h : failure.IsDue due) : (roundingFault failure).IsDue due := by
  unfold roundingFault
  split
  . trivial
  . exact h

theorem formatDecimal_yields (due : Overflow → Prop) {pattern : String}
    (hpattern : MadeOf P (Text.ofString pattern)) (d : Decimal)
    : Yields (MadeOf P) (PatternFailure.IsDue due) (formatDecimal pattern d) := by
  unfold formatDecimal
  refine ((readDecimal_from ..).mapError fun _ _ => trivial).bind fun p hfill => ?_
  have hfill := hfill.isMember hP hpattern
  extract_lets percent afterLimits
  split
  . exact .error trivial
  . unfold afterLimits
    split
    . next negative coefficient exponent =>
      refine ((decimalMagnitude_yields hP due p coefficient exponent).mapError ?_).bind ?_
      . intro failure hfailure
        split
        . exact isDue_roundingFault hfailure
        . exact hfailure
      . rintro ⟨magnitude, isZero⟩ hmagnitude
        obtain ⟨hdigits, hrest⟩ := hmagnitude.span Char.isDigit
        exact .ok (madeOf_layout hfill hP ⟨.nil, hdigits, madeOf_ofChars_iff.2 hrest⟩)
    . refine .ok (madeOf_layout (fill_withoutZeros hP hfill) hP ⟨.nil, .nil, ?_⟩)
      rw [madeOf_ofChars_iff]
      refine MadeOf.append_iff.2 ⟨madeOf_magnitudeName hP d, ?_⟩
      unfold percent
      split
      . exact madeOf_of_isPlain hP rfl
      . exact .nil

end Texts

end NumberPattern
end Soql
