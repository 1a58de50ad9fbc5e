import Soql.Proofs.Query.Plan
import Soql.Proofs.Template.Gaps
import Soql.Proofs.Template.Renumber

/-!
This module contains normalized format text: what it keeps of the text it comes from, and that it is
compiled to the same query.
-/

namespace Soql

section

variable {format : String} {segments : List Segment} (h : Segment.parse format = .ok segments)
include h

theorem normalize_eq_ok :
    normalize false format
      = .ok (String.ofList (Token.renderAll (Token.tidy (Segment.tokensAll segments)))) := by
  rw [normalize_eq false h]
  rfl

theorem parse_normalize {normalized : String}
    (hnormalized : normalize false format = .ok normalized)
    : Segment.parse normalized
      = .ok (Segment.ofTokens (Token.tidy (Segment.tokensAll segments))) := by
  rw [normalize_eq_ok h] at hnormalized
  cases hnormalized
  exact Segment.parse_renderAll _ (Token.isValid_tidy (Segment.isValid_of_parse h))

theorem normalize_normalize {normalized : String}
    (hnormalized : normalize false format = .ok normalized)
    : normalize false normalized = .ok normalized := by
  rw [normalize_eq_ok (parse_normalize h hnormalized), Segment.tokensAll_ofTokens, Token.tidy_tidy]
  rw [← normalize_eq_ok h, hnormalized]

theorem normalize_renumber {normalized shifted : String} {k : Int} (hk : 0 ≤ k)
    (hnormalized : normalize false format = .ok normalized)
    (hshifted : renumber format k = .ok shifted)
    : ∃ result, normalize false shifted = .ok result ∧ renumber normalized k = .ok result := by
  obtain ⟨segments', hparse, hresult, hvalid⟩ := (isRenumbered_of_renumber hk hshifted).parsed
  rw [h] at hparse
  cases hparse
  have hparse : Segment.parse shifted
      = .ok (Segment.ofTokens ((Segment.tokensAll segments).map (Token.shift k))) := by
    rw [hresult]
    exact Segment.parse_renderAll _ hvalid
  have htidy := Token.isWritable_of_isValid (Token.isValid_tidy hvalid)
  refine ⟨_, normalize_eq_ok hparse, ?_⟩
  rw [renumber_eq (parse_normalize h hnormalized), Segment.tokensAll_ofTokens]
  rw [Segment.tokensAll_ofTokens, ← Token.tidy_map_shift]
  exact Token.write_eq_ok_iff.2 ⟨htidy, rfl⟩

end

namespace Template

theorem IsCompilation.normalized {t : Template} {segments : List Segment} {escaped : List Text}
    {text : Text} (h : t.IsCompilation false segments escaped text) {normalized : String}
    (hnormalized : normalize false t.format = .ok normalized)
    : IsCompilation false ⟨normalized, t.arguments⟩
        (Segment.ofTokens (Token.tidy (Segment.tokensAll segments))) escaped text where
  parsed := parse_normalize h.parsed hnormalized
  supplied := by
    rw [Segment.tokensAll_ofTokens, Token.holes_tidy]
    exact h.supplied
  escaped_eq := h.escaped_eq
  filled := by
    have hlayout : Plan.layout false (Token.tidy (Segment.tokensAll segments))
        = Plan.layout false (Segment.tokensAll segments) := Token.tidy_tidy _
    rw [Segment.tokensAll_ofTokens, hlayout]
    exact h.filled

theorem compile_format {t : Template} {q : CompiledQuery} (h : t.compile false = .ok q) :
    compile false ⟨q.format, t.arguments⟩ = .ok q := by
  obtain ⟨segments, escaped, text, hcompilation, rfl⟩ := compile_eq_ok_iff.1 h
  have hnormalized := normalize_eq_ok hcompilation.parsed
  refine compile_eq_ok_iff.2 ⟨_, _, _, hcompilation.normalized hnormalized, ?_⟩
  rw [Plan.format_ofSegments_false, Plan.format_ofSegments_false]
  rw [Segment.tokensAll_ofTokens, Token.tidy_tidy]

end Template

/--
Normalization keeps the placeholders, collapses the blanks of each text between them and drops those
at either end. It is a projection, it does not matter whether positions are shifted before or after
it, and a normalized text is compiled to the same query.
-/
theorem normalize_projects {format : String} {segments : List Segment}
    (h : Segment.parse format = .ok segments)
    : ∃ normalized segments', normalize false format = .ok normalized
        ∧ Segment.parse normalized = .ok segments'
        ∧ segments'.filterMap Segment.placeholder = segments.filterMap Segment.placeholder
        ∧ Token.gaps (Segment.tokensAll segments')
          = Text.trimOuter ((Token.gaps (Segment.tokensAll segments)).map Text.collapse)
        ∧ normalize false normalized = .ok normalized
        ∧ (∀ (k : Int) (shifted : String), 0 ≤ k → renumber format k = .ok shifted
          → ∃ result, normalize false shifted = .ok result ∧ renumber normalized k = .ok result)
        ∧ ∀ (arguments : List Value) (q : CompiledQuery),
          Template.compile false ⟨format, arguments⟩ = .ok q
          → Template.compile false ⟨q.format, arguments⟩ = .ok q := by
  have hnormalized := normalize_eq_ok h
  refine ⟨_, _, hnormalized, parse_normalize h hnormalized, ?_, ?_,
    normalize_normalize h hnormalized, ?_, ?_⟩
  . rw [← Segment.holes_tokensAll, ← Segment.holes_tokensAll, Segment.tokensAll_ofTokens]
    exact Token.holes_tidy _
  . rw [Segment.tokensAll_ofTokens]
    exact Token.gaps_tidy _
  . intro k shifted hk hshifted
    exact normalize_renumber h hk hnormalized hshifted
  . intro arguments q hq
    have hformat := Template.compile_format hq
    exact hformat

theorem normalize_projects_brace :
    ∃ segments, Segment.parse "A \x7b\x7b \x7b0: >4\x7d" = .ok segments
      ∧ Token.gaps (Segment.tokensAll segments) = ["A \x7b ".toList, []]
      ∧ (∃ result, normalize false "\nA\t \x7b\x7b  \x7b2: >4\x7d " = .ok result
        ∧ renumber "A \x7b\x7b \x7b0: >4\x7d" 2 = .ok result)
      ∧ Template.compile false ⟨"A \x7b\x7b \x7b0: >4\x7d", [.int 5 none]⟩
        = .ok ⟨"A \x7b\x7b \x7b0: >4\x7d", "A \x7b    5"⟩ := by
  have hparse : Segment.parse "\nA\t \x7b\x7b  \x7b: >4\x7d "
      = .ok [⟨"\nA\t \x7b".toList, none⟩, ⟨"  ".toList, some ⟨0, " >4".toList⟩⟩, ⟨[' '], none⟩] :=
    toOption_eq_some_iff.1 (by decide +kernel)
  have hnormalized : normalize false "\nA\t \x7b\x7b  \x7b: >4\x7d "
      = .ok "A \x7b\x7b \x7b0: >4\x7d" :=
    toOption_eq_some_iff.1 (by decide +kernel)
  have hshifted : renumber "\nA\t \x7b\x7b  \x7b: >4\x7d " 2
      = .ok "\nA\t \x7b\x7b  \x7b2: >4\x7d " :=
    toOption_eq_some_iff.1 (by decide +kernel)
  have hcompiled : Template.compile false ⟨"\nA\t \x7b\x7b  \x7b: >4\x7d ", [.int 5 none]⟩
      = .ok ⟨"A \x7b\x7b \x7b0: >4\x7d", "A \x7b    5"⟩ :=
    toOption_eq_some_iff.1 (by decide +kernel)
  obtain ⟨normalized, segments, hresult, hread, _, hgaps, _, hshift, hcompile⟩ :=
    normalize_projects hparse
  rw [hnormalized] at hresult
  cases hresult
  have hagain := hcompile _ _ hcompiled
  refine ⟨segments, hread, ?_, hshift 2 _ (by decide) hshifted, hagain⟩
  rw [hgaps]
  decide

end Soql
