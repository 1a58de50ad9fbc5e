import Mathlib.Data.List.Forall2
import Soql.Query.Compile
import Soql.Proofs.Outcome

/-!
This module contains the relations between texts that escaping passes on: what holds between the
texts of items holds between the texts of their sequences.
-/

namespace Soql

theorem getElem?_of_forall₂ {R : α → β → Prop} {as : List α} {bs : List β}
    (h : List.Forall₂ R as bs) (i : Nat)
    : as[i]? = none ∧ bs[i]? = none ∨ ∃ a b, as[i]? = some a ∧ bs[i]? = some b ∧ R a b := by
  induction h generalizing i with
  | nil => simp
  | cons h _ ih =>
    cases i with
    | zero => simp [h]
    | succ i => simpa using ih i

theorem exists_mem_of_forall₂ {R : α → β → Prop} {as : List α} {bs : List β}
    (h : List.Forall₂ R as bs) {b : β} (hb : b ∈ bs)
    : ∃ a ∈ as, R a b := by
  obtain ⟨i, hi⟩ := List.mem_iff_getElem?.1 hb
  rcases getElem?_of_forall₂ h i with ⟨_, hnone⟩ | ⟨a, b', ha, hb', hab⟩
  . rw [hi] at hnone
    cases hnone
  . rw [hi] at hb'
    cases hb'
    exact ⟨a, List.mem_of_getElem? ha, hab⟩

theorem forall₂_zip {α α' β β' : Type} {R : α → α' → Prop} {S : β → β' → Prop} {as : List α}
    {as' : List α'} {bs : List β} {bs' : List β'} (h : List.Forall₂ R as as')
    (h' : List.Forall₂ S bs bs')
    : List.Forall₂ (fun x x' => R x.1 x'.1 ∧ S x.2 x'.2) (as.zip bs) (as'.zip bs') := by
  induction h generalizing bs bs' with
  | nil => exact .nil
  | cons ha _ ih =>
    cases h' with
    | nil => exact .nil
    | cons hb h' => exact .cons ⟨ha, hb⟩ (ih h')

theorem forall₂_of_escapeAll {keepBlanks : Bool} {vs : List Value} {texts : List Text}
    (h : escapeAll keepBlanks vs = .ok texts)
    : List.Forall₂ (fun v s => escape keepBlanks v = .ok s) vs texts := by
  induction vs generalizing texts with
  | nil =>
    cases h
    exact .nil
  | cons v vs ih =>
    obtain ⟨s, hs, h⟩ := bind_eq_ok_iff.1 h
    obtain ⟨rest, hrest, h⟩ := bind_eq_ok_iff.1 h
    cases h
    exact .cons hs (ih hrest)

/--
Whether a relation between texts is kept when texts are put together, with the marks of a sequence
between them.
-/
structure IsCompositional (R : Text → Text → Prop) : Prop where
  nil : R [] []
  append : ∀ {t u t' u'}, R t u → R t' u' → R (t ++ t') (u ++ u')
  opening : R [.char '('] [.char '(']
  comma : R [.char ','] [.char ',']
  closing : R [.char ')'] [.char ')']

namespace IsCompositional

variable {R : Text → Text → Prop}

theorem intercalate_comma (hR : IsCompositional R) {items items' : List Text}
    (h : List.Forall₂ R items items')
    : R (List.intercalate [.char ','] items) (List.intercalate [.char ','] items') := by
  induction h with
  | nil => exact hR.nil
  | cons h hitems ih =>
    cases hitems with
    | nil =>
      rw [List.intercalate_singleton, List.intercalate_singleton]
      exact h
    | cons =>
      rw [List.intercalate_cons_cons, List.intercalate_cons_cons]
      exact hR.append (hR.append h hR.comma) ih

theorem sequenceText (hR : IsCompositional R) {texts texts' : List Text}
    (h : List.Forall₂ R texts texts') : R (Soql.sequenceText texts) (Soql.sequenceText texts') :=
  hR.append (hR.append hR.opening (hR.intercalate_comma h)) hR.closing

end IsCompositional

theorem Value.agree_escapeAll {V : Value → Value → Prop} {R : Text → Text → Prop}
    {keepBlanks keepBlanks' : Bool} {vs vs' : List Value} (hvs : List.Forall₂ V vs vs')
    (h : ∀ v ∈ vs, ∀ v', V v v' → Agree R (escape keepBlanks v) (escape keepBlanks' v'))
    : Agree (List.Forall₂ R) (escapeAll keepBlanks vs) (escapeAll keepBlanks' vs') := by
  induction hvs with
  | nil => exact .ok .nil
  | cons hv _ ih =>
    rw [List.forall_mem_cons] at h
    apply (h.1 _ hv).bind
    intro s s' hs
    apply (ih h.2).bind
    intro texts texts' htexts
    exact .ok (.cons hs htexts)

end Soql
