import Soql.Proofs.Template.Renumber

/-!
This module contains that reading and writing format text are inverse to each other, up to where a
literal is split. Literals can hold any braces: the doubled ones never run into those of a
placeholder.
-/

namespace Soql
namespace Segment

theorem isValid_tokensAll_iff {segments : List Segment} :
    Token.IsValid (tokensAll segments)
      ↔ ∀ s ∈ segments, ∀ p, s.placeholder = some p → p.IsValid := by
  unfold Token.IsValid
  simp only [holes_tokensAll, List.mem_filterMap]
  constructor
  . intro h s hs p hp
    exact h p ⟨s, hs, hp⟩
  . rintro h p ⟨s, hs, hp⟩
    exact h s hs p hp

theorem exists_write_of_isValid {segments : List Segment} (h : Token.IsValid (tokensAll segments)) :
    ∃ text, write segments = .ok text ∧ parse text = .ok (ofTokens (tokensAll segments)) := by
  refine ⟨_, ?_, parse_renderAll _ h⟩
  rw [write_eq, Token.write_eq_ok_iff]
  exact ⟨Token.isWritable_of_isValid h, rfl⟩

theorem write_eq_write_iff {segments segments' : List Segment}
    (h : Token.IsValid (tokensAll segments)) (h' : Token.IsValid (tokensAll segments'))
    : write segments = write segments' ↔ tokensAll segments = tokensAll segments' := by
  constructor
  . intro heq
    obtain ⟨text, hwrite, hparse⟩ := exists_write_of_isValid h
    obtain ⟨text', hwrite', hparse'⟩ := exists_write_of_isValid h'
    have htext : text = text' := by
      rw [hwrite, hwrite'] at heq
      exact Except.ok.inj heq
    rw [← htext, hparse] at hparse'
    have hcanonical := congrArg tokensAll (Except.ok.inj hparse')
    rwa [tokensAll_ofTokens, tokensAll_ofTokens] at hcanonical
  . intro heq
    rw [write_eq, write_eq, heq]

/--
What was read is written to a text that is read as the same segments. Any segments whose numbers can
be written, and whose patterns have no braces, are written to a text that is read as the same
characters and placeholders; so two such lists have one text only if they agree in these.
-/
theorem parse_write :
    (∀ format segments, parse format = .ok segments
      → ∃ text, write segments = .ok text ∧ parse text = .ok segments)
    ∧ (∀ segments : List Segment,
      (∀ s ∈ segments, ∀ p, s.placeholder = some p → p.IsValid)
      → ∃ text segments', write segments = .ok text ∧ parse text = .ok segments'
        ∧ tokensAll segments' = tokensAll segments)
    ∧ ∀ segments segments' : List Segment,
      (∀ s ∈ segments, ∀ p, s.placeholder = some p → p.IsValid)
      → (∀ s ∈ segments', ∀ p, s.placeholder = some p → p.IsValid)
      → (write segments = write segments' ↔ tokensAll segments = tokensAll segments') := by
  refine ⟨?_, ?_, ?_⟩
  . intro format segments h
    have hread := isReadFrom_of_parse h
    obtain ⟨text, hwrite, hparse⟩ := exists_write_of_isValid hread.isValid
    rw [hread.ofTokens_eq] at hparse
    exact ⟨text, hwrite, hparse⟩
  . intro segments h
    obtain ⟨text, hwrite, hparse⟩ := exists_write_of_isValid (isValid_tokensAll_iff.2 h)
    exact ⟨text, _, hwrite, hparse, tokensAll_ofTokens _⟩
  . intro segments segments' h h'
    exact write_eq_write_iff (isValid_tokensAll_iff.2 h) (isValid_tokensAll_iff.2 h')

theorem parse_write_braces :
    ∃ segments, parse "\x7b\x7b\x7b0:>5\x7d\x7d\x7d\x7b12\x7d" = .ok segments
      ∧ tokensAll segments
        = tokensAll [⟨['{'], some ⟨0, ['>', '5']⟩⟩, ⟨['}'], some ⟨12, []⟩⟩] := by
  have hvalid : ∀ s ∈ [Segment.mk ['{'] (some ⟨0, ['>', '5']⟩), ⟨['}'], some ⟨12, []⟩⟩],
      ∀ p, s.placeholder = some p → p.IsValid := by
    intro s hs p hp
    rcases List.mem_cons.1 hs with rfl | hs
    . cases hp
      exact ⟨by decide, by decide +kernel, by simp [isBrace]⟩
    . cases List.mem_singleton.1 hs
      cases hp
      exact ⟨by decide, by decide +kernel, by simp⟩
  have hwrite : write [⟨['{'], some ⟨0, ['>', '5']⟩⟩, ⟨['}'], some ⟨12, []⟩⟩]
      = .ok "\x7b\x7b\x7b0:>5\x7d\x7d\x7d\x7b12\x7d" :=
    toOption_eq_some_iff.1 (by decide +kernel)
  obtain ⟨text, segments, htext, hparse, htokens⟩ := parse_write.2.1 _ hvalid
  rw [hwrite] at htext
  cases htext
  exact ⟨segments, hparse, htokens⟩

end Segment
end Soql
