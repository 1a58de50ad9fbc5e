import Mathlib.Data.List.TakeDrop
import Soql.Number.Decimal
import Soql.Number.Pattern.Binary
import Soql.Query.Quote
import Soql.Proofs.Template.Numeral

/-!
This module contains the characters that numbers are written with, of which there is at least one.
Whatever class of characters has the digits and the marks between them has the texts of all numbers.
One such class are the plain characters, which neither end a string literal nor escape another
character.
-/

namespace Soql

def isNumeric (c : Char) : Bool :=
  c.isDigit || "+-.:eT".toList.contains c

theorem isNumeric_of_isDigit {c : Char} (h : c.isDigit = true) : isNumeric c = true := by
  unfold isNumeric
  rw [h, Bool.true_or]

namespace Text

def MadeOf {α : Type} (P : α → Bool) (cs : List α) : Prop :=
  cs.all P = true

namespace MadeOf

variable {α : Type} {P : α → Bool} {c : α} {cs ds : List α}

theorem iff_forall_mem : MadeOf P cs ↔ ∀ c ∈ cs, P c = true :=
  List.all_eq_true

theorem nil : MadeOf P [] := rfl

theorem cons_iff : MadeOf P (c :: cs) ↔ P c = true ∧ MadeOf P cs := by
  simp [MadeOf]

theorem append_iff : MadeOf P (cs ++ ds) ↔ MadeOf P cs ∧ MadeOf P ds := by
  simp [MadeOf]

theorem of_subset (h : MadeOf P ds) (hsub : cs ⊆ ds) : MadeOf P cs := by
  rw [iff_forall_mem] at *
  intro c hc
  exact h c (hsub hc)

theorem of_sublist (h : MadeOf P ds) (hsub : cs.Sublist ds) : MadeOf P cs :=
  h.of_subset hsub.subset

theorem of_suffix (h : MadeOf P ds) (hsuffix : cs <:+ ds) : MadeOf P cs :=
  h.of_sublist hsuffix.sublist

theorem replicate (hc : P c = true) (n : Nat) : MadeOf P (List.replicate n c) := by
  rw [iff_forall_mem]
  intro d hd
  rw [List.eq_of_mem_replicate hd]
  exact hc

theorem span (h : MadeOf P cs) (f : α → Bool) :
    MadeOf P (cs.span f).1 ∧ MadeOf P (cs.span f).2 := by
  rw [List.span_eq_takeWhile_dropWhile]
  exact ⟨h.of_sublist (List.takeWhile_sublist f), h.of_sublist (List.dropWhile_sublist f)⟩

theorem leftpad (h : MadeOf P cs) (hc : P c = true) (n : Nat) : MadeOf P (cs.leftpad n c) := by
  unfold List.leftpad
  exact append_iff.2 ⟨replicate hc _, h⟩

theorem rightpad (h : MadeOf P cs) (hc : P c = true) (n : Nat) : MadeOf P (cs.rightpad n c) := by
  unfold List.rightpad
  exact append_iff.2 ⟨h, replicate hc _⟩

end MadeOf

theorem madeOf_ofChars_iff {P : Symbol → Bool} {cs : List Char} :
    MadeOf P (ofChars cs) ↔ MadeOf (fun c => P (.char c)) cs := by
  simp [MadeOf, ofChars]

end Text

theorem intText_ne_nil (n : Int) : intText n ≠ [] := by
  unfold intText
  split
  . simp
  . exact Nat.toDigits_ne_nil

namespace Number
namespace Positional

theorem whole_ofDigits_ne_nil (digits : List Char) (point : Int) :
    (ofDigits digits point).whole ≠ [] := by
  unfold ofDigits
  split
  . simp
  . apply List.ne_nil_of_length_pos
    simp only [List.rightpad, List.length_append, List.length_replicate]
    omega

theorem render_ne_nil {p : Positional} (h : p.whole ≠ []) (keepPoint : Bool) :
    p.render keepPoint ≠ [] := by
  unfold render
  split
  . exact h
  . simp

end Positional
end Number

theorem signed_ne_nil (negative : Bool) {cs : List Char} (h : cs ≠ []) :
    Number.signed negative cs ≠ [] := by
  unfold Number.signed
  split
  . simp
  . exact h

theorem Binary64.writeDigits_ne_nil (w : Writing) (limit : Int) (digits : Digits) :
    writeDigits w limit digits ≠ [] := by
  unfold writeDigits
  dsimp only
  split
  . simp [powerText]
  . apply Number.Positional.render_ne_nil
    exact Number.Positional.whole_ofDigits_ne_nil digits.1 digits.2

theorem Decimal.writeDigits_ne_nil (mark : Char) (digits : List Char) (exponent point : Int)
    (keepPower : Bool)
    : writeDigits mark digits exponent point keepPower ≠ [] := by
  unfold writeDigits
  apply List.append_ne_nil_of_left_ne_nil
  apply Number.Positional.render_ne_nil
  exact Number.Positional.whole_ofDigits_ne_nil digits point

open Text

def HasNumerals (P : Char → Bool) : Prop :=
  ∀ c, isNumeric c = true → P c = true

/--
Whether a character neither ends a string literal nor escapes another.
-/
def isPlain (c : Char) : Bool :=
  !isQuoteSpecial c

theorem isPlain_eq_false_iff {c : Char} : isPlain c = false ↔ c = '\\' ∨ c = '\'' := by
  simp [isPlain, isQuoteSpecial, Decidable.or_iff_not_imp_left]

theorem isPlain_digitChar (n : Nat) : isPlain n.digitChar = true := by
  cases h : isPlain n.digitChar with
  | true => rfl
  | false =>
    rcases isPlain_eq_false_iff.1 h with h | h
    . exact absurd h (Nat.digitChar_ne '\\' rfl)
    . exact absurd h (Nat.digitChar_ne '\'' rfl)

theorem toNat_of_isPlain_eq_false {q : Char} (h : isPlain q = false) :
    q.toNat = 92 ∨ q.toNat = 39 := by
  rcases isPlain_eq_false_iff.1 h with rfl | rfl
  . exact .inl rfl
  . exact .inr rfl

theorem toUpper_eq_iff {c q : Char} (hq : isPlain q = false) : c.toUpper = q ↔ c = q := by
  have hquote := toNat_of_isPlain_eq_false hq
  unfold Char.toUpper
  split
  . next hc =>
    -- Neither a small letter nor its capital is one of the two characters.
    have hlow : 97 ≤ c.toNat := UInt32.le_iff_toNat_le.1 hc.1
    have hhigh : c.toNat ≤ 122 := UInt32.le_iff_toNat_le.1 hc.2
    rw [← Char.toNat_inj, ← Char.toNat_inj]
    simp
    omega
  . exact .rfl

theorem toLower_eq_iff {c q : Char} (hq : isPlain q = false) : c.toLower = q ↔ c = q := by
  have hquote := toNat_of_isPlain_eq_false hq
  unfold Char.toLower
  split
  . next hc =>
    have hlow : 65 ≤ c.toNat := UInt32.le_iff_toNat_le.1 hc.1
    have hhigh : c.toNat ≤ 90 := UInt32.le_iff_toNat_le.1 hc.2
    rw [← Char.toNat_inj, ← Char.toNat_inj]
    simp
    omega
  . exact .rfl

theorem hasNumerals_isPlain : HasNumerals isPlain := by
  intro c hc
  cases h : isPlain c with
  | true => rfl
  | false =>
    rcases isPlain_eq_false_iff.1 h with rfl | rfl
    . exact absurd hc (by decide)
    . exact absurd hc (by decide)

variable {P : Char → Bool} (hP : HasNumerals P)
include hP

theorem madeOf_toDigits (n : Nat) : MadeOf P (Nat.toDigits 10 n) := by
  rw [MadeOf.iff_forall_mem]
  intro c hc
  exact hP c (isNumeric_of_isDigit (Nat.isDigit_of_mem_toDigits (by omega) (by omega) hc))

theorem madeOf_intText (n : Int) : MadeOf P (intText n) := by
  unfold intText
  split
  . exact MadeOf.cons_iff.2 ⟨hP '-' rfl, madeOf_toDigits hP _⟩
  . exact madeOf_toDigits hP _

theorem madeOf_signed (negative : Bool) {cs : List Char} (h : MadeOf P cs) :
    MadeOf P (Number.signed negative cs) := by
  unfold Number.signed
  split
  . exact MadeOf.cons_iff.2 ⟨hP '-' rfl, h⟩
  . exact h

namespace Number

omit hP in
structure Positional.MadeOf (P : Char → Bool) (p : Positional) : Prop where
  whole : Text.MadeOf P p.whole
  fraction : Text.MadeOf P p.fraction

namespace Positional

omit hP in
theorem madeOf_ofDigits (hzero : P '0' = true) {ds : List Char} (h : Text.MadeOf P ds)
    (point : Int)
    : (ofDigits ds point).MadeOf P := by
  unfold ofDigits
  split
  . constructor
    . exact Text.MadeOf.cons_iff.2 ⟨hzero, .nil⟩
    . exact Text.MadeOf.append_iff.2 ⟨.replicate hzero _, h⟩
  . constructor
    . exact (h.of_sublist (List.take_sublist ..)).rightpad hzero _
    . exact h.of_sublist (List.drop_sublist ..)

theorem madeOf_ofScaled (n places : Nat) : (ofScaled n places).MadeOf P := by
  have hdigits := (madeOf_toDigits hP n).leftpad (hP '0' rfl) (places + 1)
  constructor
  . exact hdigits.of_sublist (List.take_sublist ..)
  . exact hdigits.of_sublist (List.drop_sublist ..)

theorem MadeOf.withPlaces {p : Positional} (h : p.MadeOf P) (places : Nat) :
    (p.withPlaces places).MadeOf P :=
  ⟨h.whole, h.fraction.rightpad (hP '0' rfl) places⟩

theorem MadeOf.render {p : Positional} (h : p.MadeOf P) (keepPoint : Bool) :
    Text.MadeOf P (p.render keepPoint) := by
  unfold Positional.render
  split
  . exact h.whole
  . rw [Text.MadeOf.append_iff, Text.MadeOf.cons_iff]
    exact ⟨h.whole, hP '.' rfl, h.fraction⟩

end Positional

theorem madeOf_leadingDigits (num den count : Nat) :
    MadeOf P (leadingDigits num den count).1 := by
  unfold leadingDigits
  dsimp only
  split <;> exact madeOf_toDigits hP _

omit hP in
theorem madeOf_dropTrailingZeros {ds : List Char} (h : MadeOf P ds) :
    MadeOf P (dropTrailingZeros ds) := by
  apply h.of_sublist
  unfold dropTrailingZeros
  rw [← List.reverse_sublist, List.reverse_reverse]
  exact List.dropWhile_sublist _

end Number

namespace Binary64

theorem madeOf_shortestDigits (significand : Nat) (exponent : Int) :
    MadeOf P (shortestDigits significand exponent).1 := by
  unfold shortestDigits
  dsimp only
  split
  . next digits h =>
    obtain ⟨count, _, h⟩ := List.exists_of_findSome?_eq_some h
    unfold readableDigits? at h
    dsimp only at h
    rw [Option.map_eq_some_iff] at h
    obtain ⟨k, _, rfl⟩ := h
    split <;> exact madeOf_toDigits hP _
  . exact Number.madeOf_leadingDigits hP ..

theorem madeOf_powerText {mark : Char} (hmark : P mark = true) (power : Int) :
    MadeOf P (powerText mark power) := by
  unfold powerText
  rw [MadeOf.cons_iff, MadeOf.cons_iff]
  refine ⟨hmark, ?_, (madeOf_toDigits hP _).leftpad (hP '0' rfl) 2⟩
  split
  . exact hP '-' rfl
  . exact hP '+' rfl

theorem madeOf_writeDigits {w : Writing} (hmark : P w.mark = true) (limit : Int) {digits : Digits}
    (hdigits : MadeOf P digits.1) : MadeOf P (writeDigits w limit digits) := by
  have hplaced (point : Int) := Number.Positional.madeOf_ofDigits (hP '0' rfl) hdigits point
  unfold writeDigits
  dsimp only
  split
  . rw [MadeOf.append_iff]
    exact ⟨((hplaced 1).withPlaces hP _).render hP _, madeOf_powerText hP hmark _⟩
  . exact ((hplaced _).withPlaces hP _).render hP _

theorem madeOf_leadingDigits (significand : Nat) (exponent : Int) (count : Nat) :
    MadeOf P (leadingDigits significand exponent count).1 := by
  unfold leadingDigits
  split
  . exact MadeOf.cons_iff.2 ⟨hP '0' rfl, .nil⟩
  . exact Number.madeOf_dropTrailingZeros (Number.madeOf_leadingDigits hP ..)

theorem madeOf_scientific {mark : Char} (hmark : P mark = true) (keepPoint : Bool)
    (places significand : Nat) (exponent : Int)
    : MadeOf P (scientific mark keepPoint places significand exponent) := by
  have hdigits := madeOf_leadingDigits hP significand exponent (places + 1)
  unfold scientific
  dsimp only
  rw [MadeOf.append_iff]
  constructor
  . exact ((Number.Positional.madeOf_ofDigits (hP '0' rfl) hdigits 1).withPlaces hP _).render hP _
  . exact madeOf_powerText hP hmark _

theorem madeOf_fixed (keepPoint : Bool) (places significand : Nat) (exponent : Int) :
    MadeOf P (fixed keepPoint places significand exponent) := by
  unfold fixed
  dsimp only
  exact (Number.Positional.madeOf_ofScaled hP _ _).render hP _

theorem madeOf_shortest (keepPoint : Bool) (significand : Nat) (exponent : Int) :
    MadeOf P (shortest keepPoint significand exponent) := by
  unfold shortest
  apply madeOf_writeDigits hP
  . exact hP 'e' rfl
  . split
    . exact MadeOf.cons_iff.2 ⟨hP '0' rfl, .nil⟩
    . exact madeOf_shortestDigits hP significand exponent

end Binary64

namespace Decimal

theorem madeOf_powerText {mark : Char} (hmark : P mark = true) (power : Int) :
    MadeOf P (powerText mark power) := by
  unfold powerText
  rw [MadeOf.cons_iff, MadeOf.cons_iff]
  refine ⟨hmark, ?_, madeOf_toDigits hP _⟩
  split
  . exact hP '-' rfl
  . exact hP '+' rfl

theorem madeOf_writeDigits {mark : Char} (hmark : P mark = true) {digits : List Char}
    (h : MadeOf P digits) (exponent point : Int) (keepPower : Bool)
    : MadeOf P (writeDigits mark digits exponent point keepPower) := by
  unfold writeDigits
  dsimp only
  rw [MadeOf.append_iff]
  constructor
  . exact (Number.Positional.madeOf_ofDigits (hP '0' rfl) h point).render hP _
  . split
    . exact madeOf_powerText hP hmark _
    . exact .nil

theorem madeOf_fixedDigits {digits : List Char} (h : MadeOf P digits) (exponent : Int) :
    MadeOf P (fixedDigits digits exponent) :=
  madeOf_writeDigits hP (hP 'e' rfl) h _ _ _

theorem madeOf_fixed (coefficient : Nat) (exponent : Int) :
    MadeOf P (fixed coefficient exponent) :=
  madeOf_fixedDigits hP (madeOf_toDigits hP _) _

theorem madeOf_natural {mark : Char} (hmark : P mark = true) {digits : List Char}
    (h : MadeOf P digits) (exponent : Int) : MadeOf P (natural mark digits exponent) :=
  madeOf_writeDigits hP hmark h _ _ _

theorem madeOf_scientific {mark : Char} (hmark : P mark = true) {digits : List Char}
    (h : MadeOf P digits) (exponent point : Int)
    : MadeOf P (scientific mark digits exponent point) :=
  madeOf_writeDigits hP hmark h _ _ _

end Decimal
end Soql
