import Soql.Proofs.Number.Alphabet

/-!
This module contains the characters of a number that a pattern has laid out: those of its parts, the
fill character of the pattern, and plain ones.
-/

namespace Soql

open Text

/--
Whether a class has all characters but those that end a string literal or escape another character.
-/
def HasPlain (P : Char → Bool) : Prop :=
  ∀ c, isPlain c = true → P c = true

theorem HasPlain.hasNumerals {P : Char → Bool} (hP : HasPlain P) : HasNumerals P :=
  fun c hc => hP c (hasNumerals_isPlain c hc)

theorem madeOf_of_isPlain {P : Char → Bool} (hP : HasPlain P) {cs : List Char}
    (h : cs.all isPlain = true) : MadeOf P cs := by
  rw [MadeOf.iff_forall_mem]
  intro c hc
  exact hP c (List.all_eq_true.1 h c hc)

theorem madeOf_map {P : Char → Bool} (hP : HasPlain P) {f : Char → Char}
    (hf : ∀ c q, isPlain q = false → (f c = q ↔ c = q)) {cs : List Char} (h : MadeOf P cs)
    : MadeOf P (cs.map f) := by
  rw [MadeOf.iff_forall_mem] at *
  intro d hd
  obtain ⟨c, hc, rfl⟩ := List.mem_map.1 hd
  cases hplain : isPlain (f c) with
  | true => exact hP _ hplain
  | false =>
    rw [← (hf c _ hplain).1 rfl]
    exact h c hc

theorem madeOf_map_toUpper {P : Char → Bool} (hP : HasPlain P) {cs : List Char}
    (h : MadeOf P cs)
    : MadeOf P (cs.map Char.toUpper) :=
  madeOf_map hP (fun _ _ => toUpper_eq_iff) h

theorem madeOf_map_toLower {P : Char → Bool} (hP : HasPlain P) {cs : List Char}
    (h : MadeOf P cs)
    : MadeOf P (cs.map Char.toLower) :=
  madeOf_map hP (fun _ _ => toLower_eq_iff) h

structure NumberText.MadeOf (P : Symbol → Bool) (t : NumberText) : Prop where
  marker : Text.MadeOf (fun c => P (.char c)) t.marker
  digits : Text.MadeOf (fun c => P (.char c)) t.digits
  rest : Text.MadeOf P t.rest

namespace NumberPattern

section Characters

variable {P : Char → Bool}

theorem group.madeOf_go {separator : Char} (hseparator : P separator = true) (size room : Nat)
    {ds : List Char} (h : MadeOf P ds) : MadeOf P (go separator size room ds) := by
  induction ds generalizing room with
  | nil =>
    unfold go
    exact .nil
  | cons d ds ih =>
    obtain ⟨hd, hds⟩ := MadeOf.cons_iff.1 h
    cases room with
    | zero =>
      rw [go, MadeOf.cons_iff, MadeOf.cons_iff]
      exact ⟨hseparator, hd, ih _ hds⟩
    | succ room =>
      rw [go, MadeOf.cons_iff]
      exact ⟨hd, ih room hds⟩

theorem madeOf_group {separator : Char} (hseparator : P separator = true) (size : Nat)
    {ds : List Char} (h : MadeOf P ds) : MadeOf P (group separator size ds) := by
  have hreversed : MadeOf P ds.reverse := h.of_subset (List.reverse_subset.2 (List.Subset.refl _))
  have hgrouped := group.madeOf_go hseparator size size hreversed
  exact hgrouped.of_subset (List.reverse_subset.2 (List.Subset.refl _))

variable (hP : HasPlain P)
include hP

theorem madeOf_groupDigits (p : NumberPattern) (width : Nat) {ds : List Char} (h : MadeOf P ds) :
    MadeOf P (p.groupDigits width ds) := by
  have hpadded := h.leftpad (hP '0' rfl) (digitsForWidth p.groupSize width)
  unfold groupDigits
  split
  . exact .nil
  . dsimp only
    split
    . next separator _ _ _ =>
      apply madeOf_group _ _ hpadded
      cases separator
      . exact hP ',' rfl
      . exact hP '_' rfl
    . exact hpadded

theorem madeOf_signText (p : NumberPattern) (negative : Bool) :
    MadeOf P (p.signText negative) := by
  unfold signText
  split
  . exact MadeOf.cons_iff.2 ⟨hP '-' rfl, .nil⟩
  . split
    . exact MadeOf.cons_iff.2 ⟨hP '+' rfl, .nil⟩
    . exact MadeOf.cons_iff.2 ⟨hP ' ' rfl, .nil⟩
    . exact .nil

end Characters

section Layout

variable {P : Symbol → Bool} {p : NumberPattern} (hfill : P p.fill = true)
include hfill

theorem madeOf_pad {head tail : Text} (hhead : MadeOf P head) (htail : MadeOf P tail) :
    MadeOf P (p.pad head tail) := by
  have hpadding (n : Nat) : MadeOf P (List.replicate n p.fill) := .replicate hfill n
  unfold pad
  dsimp only
  split
  . simp only [MadeOf.append_iff, hhead, htail, hpadding, and_self]
  . simp only [MadeOf.append_iff, hhead, htail, hpadding, and_self]
  . simp only [MadeOf.append_iff, hhead, htail, hpadding, and_self]
  . simp only [MadeOf.append_iff, hhead, htail, hpadding, and_self]

theorem madeOf_layout (hP : HasPlain fun c => P (.char c)) {t : NumberText} (h : t.MadeOf P) :
    MadeOf P (p.layout t) := by
  unfold layout
  apply madeOf_pad hfill
  . exact madeOf_ofChars_iff.2 (MadeOf.append_iff.2 ⟨madeOf_signText hP p _, h.marker⟩)
  . rw [MadeOf.append_iff, madeOf_ofChars_iff]
    exact ⟨madeOf_groupDigits hP p _ h.digits, h.rest⟩

end Layout

end NumberPattern
end Soql
