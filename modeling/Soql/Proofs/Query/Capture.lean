import Soql.Proofs.Query.Merge

/-!
This module contains what the placeholders of merged templates are bound to. Those of the second
template keep their arguments. Those of the first one keep theirs, if they have any: a merge does
not look whether a position that it leaves as it is lies within the arguments of its template.
-/

namespace Soql

theorem placeholderIndices_eq_ok_iff {format : String} {indices : List Int} :
    placeholderIndices format = .ok indices
      ↔ ∃ segments, Segment.parse format = .ok segments ∧ Segment.indices segments = indices :=
  map_eq_ok_iff

theorem nonneg_of_mem_placeholderIndices {format : String} {indices : List Int}
    (h : placeholderIndices format = .ok indices) {i : Int} (hi : i ∈ indices) : 0 ≤ i := by
  obtain ⟨segments, hparse, rfl⟩ := placeholderIndices_eq_ok_iff.1 h
  rw [Segment.indices_eq, List.mem_map] at hi
  obtain ⟨p, hp, rfl⟩ := hi
  exact (Segment.isValid_of_parse hparse p hp).index_nonneg

namespace Template

theorem compile_eq_error_of_mem {t : Template} {indices : List Int}
    (h : placeholderIndices t.format = .ok indices) {i : Int} (hi : i ∈ indices)
    (hmissing : t.arguments.length ≤ i)
    : ∃ index ∈ indices, ∀ keepBlanks, t.compile keepBlanks
        = .error (.badFormat t.format (.noArgument index t.arguments.length)) := by
  obtain ⟨segments, hparse, rfl⟩ := placeholderIndices_eq_ok_iff.1 h
  cases hfind : Plan.missing? t.arguments.length segments with
  | none =>
    have hnone := List.find?_eq_none.1 hfind i hi
    simp only [decide_eq_true_eq] at hnone
    omega
  | some index =>
    refine ⟨index, List.mem_of_find?_eq_some hfind, ?_⟩
    intro keepBlanks
    rw [compile_eq, hparse, ok_bind, hfind]
    rfl

variable {a b merged : Template}

theorem placeholderIndices_merge (h : a.merge b = .ok merged) :
    ∃ is js, placeholderIndices a.format = .ok is ∧ placeholderIndices b.format = .ok js
      ∧ placeholderIndices merged.format = .ok (is ++ js.map (· + (a.arguments.length : Int))) := by
  obtain ⟨as, bs, ha, hb, hmerged⟩ := exists_parse_of_merge h
  refine ⟨_, _, placeholderIndices_eq_ok_iff.2 ⟨as, ha, rfl⟩,
    placeholderIndices_eq_ok_iff.2 ⟨bs, hb, rfl⟩, ?_⟩
  rw [placeholderIndices_eq_ok_iff]
  refine ⟨_, hmerged, ?_⟩
  rw [Segment.indices_eq, Segment.tokensAll_ofTokens, Segment.indices_eq, Segment.indices_eq]
  unfold mergedTokens
  rw [Token.holes_append, Token.holes_map_shift, List.map_append, List.map_map, List.map_map]
  rfl

theorem getElem?_arguments_merge (h : a.merge b = .ok merged) (i : Nat) :
    merged.arguments[i]?
      = if i < a.arguments.length then a.arguments[i]?
        else b.arguments[i - a.arguments.length]? := by
  rw [arguments_merge h, List.getElem?_append]

/--
Whether a position lies beyond the arguments of the first template, but not beyond those of both.
-/
def Reaches (a b : Template) (i : Int) : Prop :=
  a.arguments.length ≤ i ∧ i < a.arguments.length + b.arguments.length

theorem getElem?_arguments_merge_eq_iff (h : a.merge b = .ok merged) {i : Int} (hi : 0 ≤ i) :
    merged.arguments[i.toNat]? = a.arguments[i.toNat]? ↔ ¬a.Reaches b i := by
  unfold Reaches
  rw [getElem?_arguments_merge h]
  split
  . simp only [true_iff]
    omega
  . rw [List.getElem?_eq_none (by omega : a.arguments.length ≤ i.toNat), List.getElem?_eq_none_iff]
    omega

/--
A merge gives an argument of the second template to a placeholder of the first exactly where that
has none of its own and reaches so far. If no placeholder does, then one without argument still
keeps the merge from having a query, and no placeholder of the first template has the position of
one that the second template has an argument for.
-/
theorem merge_keeps_arguments_iff (h : a.merge b = .ok merged) {is js : List Int}
    (ha : placeholderIndices a.format = .ok is) (hb : placeholderIndices b.format = .ok js)
    : ((∀ i ∈ is, merged.arguments[i.toNat]? = a.arguments[i.toNat]?) ↔ ∀ i ∈ is, ¬a.Reaches b i)
      ∧ ((∀ i ∈ is, ¬a.Reaches b i)
        → ((∃ i ∈ is, a.arguments.length ≤ i)
            → ∀ keepBlanks, ∃ e, merged.compile keepBlanks = .error e)
          ∧ ∀ i ∈ is, ∀ j ∈ js, j < b.arguments.length → i ≠ j + a.arguments.length) := by
  constructor
  . apply forall₂_congr
    intro i hi
    exact getElem?_arguments_merge_eq_iff h (nonneg_of_mem_placeholderIndices ha hi)
  . intro hfree
    constructor
    . rintro ⟨i, hi, hmissing⟩ keepBlanks
      obtain ⟨is', js', ha', _, hmerged⟩ := placeholderIndices_merge h
      rw [ha] at ha'
      cases ha'
      have hlength : merged.arguments.length ≤ i := by
        have := hfree i hi
        unfold Reaches at this
        rw [arguments_merge h, List.length_append]
        omega
      obtain ⟨index, _, herror⟩ :=
        compile_eq_error_of_mem hmerged (List.mem_append_left _ hi) hlength
      exact ⟨_, herror keepBlanks⟩
    . intro i hi j hj hsupplied heq
      have hnonneg := nonneg_of_mem_placeholderIndices hb hj
      have := hfree i hi
      unfold Reaches at this
      omega

theorem merge_keeps_arguments_iff_gap :
    ∃ merged, merge ⟨"X = \x7b0\x7d AND Y = \x7b5\x7d", [.int 1 none]⟩
          ⟨" AND Z = \x7b0\x7d", [.text "z"]⟩ = .ok merged
      ∧ merged.arguments[5]? = none ∧ ∃ e, merged.compile false = .error e := by
  have hhead : renumber "X = \x7b0\x7d AND Y = \x7b5\x7d" 0
      = .ok "X = \x7b0\x7d AND Y = \x7b5\x7d" :=
    toOption_eq_some_iff.1 (by decide +kernel)
  have htail : renumber " AND Z = \x7b0\x7d" 1 = .ok " AND Z = \x7b1\x7d" :=
    toOption_eq_some_iff.1 (by decide +kernel)
  have ha : placeholderIndices "X = \x7b0\x7d AND Y = \x7b5\x7d" = .ok [0, 5] :=
    toOption_eq_some_iff.1 (by decide +kernel)
  have hb : placeholderIndices " AND Z = \x7b0\x7d" = .ok [0] :=
    toOption_eq_some_iff.1 (by decide +kernel)
  have h : merge ⟨"X = \x7b0\x7d AND Y = \x7b5\x7d", [.int 1 none]⟩
      ⟨" AND Z = \x7b0\x7d", [.text "z"]⟩
        = .ok ⟨"X = \x7b0\x7d AND Y = \x7b5\x7d AND Z = \x7b1\x7d", [.int 1 none, .text "z"]⟩ := by
    simp [merge, hhead, htail]
  obtain ⟨hkeeps, hfree⟩ := merge_keeps_arguments_iff h ha hb
  have hgap : ∀ i ∈ [0, 5], ¬Reaches ⟨"X = \x7b0\x7d AND Y = \x7b5\x7d", [.int 1 none]⟩
      ⟨" AND Z = \x7b0\x7d", [.text "z"]⟩ i := by
    simp [Reaches]
  obtain ⟨hmissing, _⟩ := hfree hgap
  exact ⟨_, h, hkeeps.2 hgap 5 (by decide), hmissing ⟨5, by decide, by decide⟩ false⟩

theorem merge_captures :
    compile false ⟨"X = \x7b0\x7d AND Y = \x7b1\x7d", [.int 1 none]⟩
        = .error (.badFormat "X = \x7b0\x7d AND Y = \x7b1\x7d" (.noArgument 1 1))
      ∧ merge ⟨"X = \x7b0\x7d AND Y = \x7b1\x7d", [.int 1 none]⟩
          ⟨" AND Z = \x7b0\x7d", [.text "z"]⟩
        = .ok ⟨"X = \x7b0\x7d AND Y = \x7b1\x7d AND Z = \x7b1\x7d", [.int 1 none, .text "z"]⟩
      ∧ compile false
          ⟨"X = \x7b0\x7d AND Y = \x7b1\x7d AND Z = \x7b1\x7d", [.int 1 none, .text "z"]⟩
        = .ok ⟨"X = \x7b0\x7d AND Y = \x7b1\x7d AND Z = \x7b1\x7d",
          "X = 1 AND Y = 'z' AND Z = 'z'"⟩ := by
  have hhead : renumber "X = \x7b0\x7d AND Y = \x7b1\x7d" 0
      = .ok "X = \x7b0\x7d AND Y = \x7b1\x7d" :=
    toOption_eq_some_iff.1 (by decide +kernel)
  have htail : renumber " AND Z = \x7b0\x7d" 1 = .ok " AND Z = \x7b1\x7d" :=
    toOption_eq_some_iff.1 (by decide +kernel)
  refine ⟨error?_eq_some_iff.1 (by decide +kernel), ?_, toOption_eq_some_iff.1 (by decide +kernel)⟩
  simp [merge, hhead, htail]

end Template
end Soql
