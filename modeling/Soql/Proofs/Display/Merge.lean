import Soql.Proofs.Display.Agreement
import Soql.Proofs.Query.Merge

/-!
This module contains the debug text of merged templates: it is that of the first template with that
of the second behind it.
-/

namespace Soql

theorem Token.textWith_append {ε : Type} {text : Placeholder → Except ε Text} {ts us : List Token}
    {filled filled' : Text} (hts : textWith text ts = .ok filled)
    (hus : textWith text us = .ok filled')
    : textWith text (ts ++ us) = .ok (filled ++ filled') := by
  induction ts generalizing filled with
  | nil =>
    cases hts
    exact hus
  | cons t ts ih =>
    cases t with
    | char c =>
      obtain ⟨rest, hrest, hts⟩ := bind_eq_ok_iff.1 hts
      cases hts
      rw [List.cons_append, textWith, ih hrest]
      rfl
    | hole p =>
      obtain ⟨head, hhead, hts⟩ := bind_eq_ok_iff.1 hts
      obtain ⟨rest, hrest, hts⟩ := bind_eq_ok_iff.1 hts
      cases hts
      rw [List.cons_append, textWith, hhead, ok_bind, ih hrest, ok_bind, pure_eq_ok]
      rw [List.append_assoc]

theorem Token.textWith_map_shift {ε : Type} (text : Placeholder → Except ε Text) (offset : Int)
    (ts : List Token)
    : textWith text (ts.map (shift offset)) = textWith (fun p => text (p.shift offset)) ts := by
  induction ts with
  | nil => rfl
  | cons t ts ih => cases t <;> rw [List.map_cons, shift, textWith, textWith, ih]

namespace Display

theorem viewAll_eq_map (vs : List Value) : viewAll vs = vs.map view := by
  induction vs with
  | nil => rfl
  | cons v vs ih => rw [viewAll, ih, List.map_cons]

theorem viewAll_append (vs ws : List Value) : viewAll (vs ++ ws) = viewAll vs ++ viewAll ws := by
  simp [viewAll_eq_map]

theorem length_viewAll (vs : List Value) : (viewAll vs).length = vs.length := by
  simp [viewAll_eq_map]

variable {views : List View}

theorem showPlaceholder_eq_ok_iff {p : Placeholder} {s : Text} :
    showPlaceholder views p = .ok s
      ↔ ∃ v, views[p.index.toNat]? = some v ∧ layout (.view v) (Text.ofChars p.spec) = .ok s := by
  unfold showPlaceholder
  cases views[p.index.toNat]? <;> simp

theorem showPlaceholder_append_left {p : Placeholder} {s : Text}
    (h : showPlaceholder views p = .ok s) (views' : List View)
    : showPlaceholder (views ++ views') p = .ok s := by
  rw [showPlaceholder_eq_ok_iff] at *
  obtain ⟨v, hv, hs⟩ := h
  refine ⟨v, ?_, hs⟩
  rw [List.getElem?_append_left (List.getElem?_eq_some_iff.1 hv).1, hv]

theorem showPlaceholder_append_right {p : Placeholder} (hp : 0 ≤ p.index) {s : Text}
    (h : showPlaceholder views p = .ok s) (views' : List View)
    : showPlaceholder (views' ++ views) (p.shift views'.length) = .ok s := by
  have hindex : (p.index + views'.length).toNat = p.index.toNat + views'.length := by omega
  rw [showPlaceholder_eq_ok_iff] at *
  unfold Placeholder.shift
  dsimp only
  rw [hindex, List.getElem?_append_right (by omega), Nat.add_sub_cancel]
  exact h

theorem index_lt_of_textWith {ts : List Token} {filled : Text}
    (h : Token.textWith (showPlaceholder views) ts = .ok filled)
    : ∀ p ∈ Token.holes ts, p.index < views.length := by
  induction ts generalizing filled with
  | nil => simp
  | cons t ts ih =>
    cases t with
    | char c =>
      obtain ⟨rest, hrest, _⟩ := bind_eq_ok_iff.1 h
      apply ih hrest
    | hole p =>
      obtain ⟨head, hhead, h⟩ := bind_eq_ok_iff.1 h
      obtain ⟨rest, hrest, _⟩ := bind_eq_ok_iff.1 h
      rw [Token.holes_hole, List.forall_mem_cons]
      refine ⟨?_, ih hrest⟩
      obtain ⟨v, hv, _⟩ := showPlaceholder_eq_ok_iff.1 hhead
      have := (List.getElem?_eq_some_iff.1 hv).1
      omega

theorem textWith_mergedTokens {views views' : List View} {as bs : List Segment}
    {filled filled' : Text} (hbs : Token.IsValid (Segment.tokensAll bs))
    (has : Token.textWith (showPlaceholder views) (Segment.tokensAll as) = .ok filled)
    (hbs' : Token.textWith (showPlaceholder views') (Segment.tokensAll bs) = .ok filled')
    : Token.textWith (showPlaceholder (views ++ views')) (Template.mergedTokens as bs views.length)
        = .ok (filled ++ filled') := by
  unfold Template.mergedTokens
  apply Token.textWith_append
  . apply Token.textWith_of_forall_holes ?_ has
    intro p _ s hs
    apply showPlaceholder_append_left hs
  . rw [Token.textWith_map_shift]
    apply Token.textWith_of_forall_holes ?_ hbs'
    intro p hp s hs
    apply showPlaceholder_append_right (hbs p hp).index_nonneg hs

end Display

namespace Template

/--
Merging does not show in debug text, whatever the arguments are. No template has more of them than a
word counts.
-/
theorem debugText_merge {a b merged : Template} {texta textb : Text}
    (ha : a.debugText = .ok texta) (hb : b.debugText = .ok textb)
    (hmerge : a.merge b = .ok merged)
    (hcount : merged.arguments.length ≤ NumberPattern.maxCount)
    : merged.debugText = .ok (texta ++ textb) := by
  obtain ⟨as, bs, has, hbs, hparse⟩ := exists_parse_of_merge hmerge
  have hshown := Display.textWith_mergedTokens (Segment.isValid_of_parse hbs)
    (Display.textWith_of_templateText has ha) (Display.textWith_of_templateText hbs hb)
  rw [← Display.viewAll_append, ← arguments_merge hmerge, Display.length_viewAll] at hshown
  have hmax : ∀ p ∈ Token.holes (mergedTokens as bs a.arguments.length),
      p.index ≤ NumberPattern.maxCount := by
    intro p hp
    have hlt := Display.index_lt_of_textWith hshown p hp
    rw [Display.length_viewAll] at hlt
    omega
  have htokens := Segment.tokensAll_ofTokens (mergedTokens as bs a.arguments.length)
  unfold debugText
  rw [Display.templateText_eq hparse (by rwa [htokens]), htokens, hshown]

theorem debugText_merge_braces :
    ∃ merged,
      merge ⟨"\x7b\x7b\x7b:>5\x7d\x7b\x7d", [.text "\x7b0\x7d", .sequence .list [.null]]⟩
          ⟨"\x7d\x7d\x7b01:\x7d \x7b0:.1f\x7d", [.int 2 none, .bool true]⟩ = .ok merged
        ∧ merged.debugText = .ok "\x7b  \x7b0\x7d[None]\x7dTrue 2.0" := by
  have ha : debugText
      ⟨"\x7b\x7b\x7b:>5\x7d\x7b\x7d", [.text "\x7b0\x7d", .sequence .list [.null]]⟩
      = .ok "\x7b  \x7b0\x7d[None]" :=
    toOption_eq_some_iff.1 (by decide +kernel)
  have hb : debugText ⟨"\x7d\x7d\x7b01:\x7d \x7b0:.1f\x7d", [.int 2 none, .bool true]⟩
      = .ok "\x7dTrue 2.0" :=
    toOption_eq_some_iff.1 (by decide +kernel)
  have hsome : (merge
      ⟨"\x7b\x7b\x7b:>5\x7d\x7b\x7d", [.text "\x7b0\x7d", .sequence .list [.null]]⟩
      ⟨"\x7d\x7d\x7b01:\x7d \x7b0:.1f\x7d", [.int 2 none, .bool true]⟩).toOption.isSome = true := by
    decide +kernel
  obtain ⟨merged, hmerged⟩ := Option.isSome_iff_exists.1 hsome
  rw [toOption_eq_some_iff] at hmerged
  refine ⟨merged, hmerged, debugText_merge ha hb hmerged ?_⟩
  rw [arguments_merge hmerged]
  decide

end Template
end Soql
