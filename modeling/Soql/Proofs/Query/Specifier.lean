import Soql.Proofs.Query.Congruence
import Soql.Proofs.Query.Parts
import Soql.Proofs.Query.Plan
import Soql.Proofs.Template.RoundTrip

/-!
This module contains that a pattern is for numbers and points in time only: at a placeholder for any
other argument it can be dropped, and the query is the same.
-/

namespace Soql
namespace Error

/--
The error without the format text that it is about, which its message does not show.
-/
def withoutFormat : Error → Error
  | .badFormat _ fault => .badFormat "" fault
  | e => e

theorem message_withoutFormat (e : Error) : e.withoutFormat.message = e.message := by
  cases e <;> rfl

end Error

/--
Whether the second placeholder is the first one, or is that without its pattern, where the argument
is there and heeds none.
-/
inductive Placeholder.Drops (arguments : List Value) : Placeholder → Placeholder → Prop where
  | keep (p : Placeholder) : Drops arguments p p
  | drop (p : Placeholder) {v : Value} (hv : arguments[p.index.toNat]? = some v)
    (h : v.heedsPattern = false)
    : Drops arguments p { p with spec := [] }

structure Segment.Drops (arguments : List Value) (s s' : Segment) : Prop where
  literal_eq : s.literal = s'.literal
  placeholder_drops : Option.Rel (Placeholder.Drops arguments) s.placeholder s'.placeholder

inductive Token.Drops (arguments : List Value) : Token → Token → Prop where
  | char (c : Char) : Drops arguments (.char c) (.char c)
  | hole {p p' : Placeholder} (h : p.Drops arguments p') : Drops arguments (.hole p) (.hole p')

section

variable {arguments : List Value}

namespace Placeholder

variable {p p' : Placeholder} (h : p.Drops arguments p')
include h

theorem Drops.index_eq : p.index = p'.index := by
  cases h with
  | keep => rfl
  | drop => rfl

theorem Drops.isValid (hvalid : p.IsValid) : p'.IsValid := by
  cases h with
  | keep => exact hvalid
  | drop => exact ⟨hvalid.index_nonneg, hvalid.index_isWritable, by simp⟩

theorem Drops.substitute_eq (escaped : List Text) :
    Plan.substitute (arguments.zip escaped) p = Plan.substitute (arguments.zip escaped) p' := by
  cases h with
  | keep => rfl
  | drop hv hheeds =>
    unfold Plan.substitute
    dsimp only
    split
    . rfl
    . next argument text hb =>
      rw [List.getElem?_zip_eq_some, hv] at hb
      cases hb.1
      rw [Value.patterned?_eq_none hheeds]
      simp

end Placeholder

namespace Token

theorem Drops.isBlank_eq {t u : Token} (h : t.Drops arguments u) : t.isBlank = u.isBlank := by
  cases h with
  | char => rfl
  | hole => rfl

variable {ts us : List Token} (h : List.Forall₂ (Drops arguments) ts us)
include h

theorem forall₂_holes : List.Forall₂ (Placeholder.Drops arguments) (holes ts) (holes us) := by
  induction h with
  | nil => exact .nil
  | cons h _ ih =>
    cases h with
    | char => exact ih
    | hole h => exact .cons h ih

theorem map_index_holes :
    (holes ts).map Placeholder.index = (holes us).map Placeholder.index := by
  have hindices : List.Forall₂ Eq ((holes ts).map Placeholder.index)
      ((holes us).map Placeholder.index) := by
    rw [List.forall₂_map_left_iff, List.forall₂_map_right_iff]
    exact (forall₂_holes h).imp fun _ _ h => h.index_eq
  rwa [List.forall₂_eq_eq_eq] at hindices

theorem isValid_of_drops (hvalid : IsValid ts) : IsValid us := by
  intro p' hp'
  obtain ⟨p, hp, hdrops⟩ := exists_mem_of_forall₂ (forall₂_holes h) hp'
  exact hdrops.isValid (hvalid p hp)

theorem forall₂_tidyFrom (started pending : Bool) :
    List.Forall₂ (Drops arguments) (tidyFrom started pending ts)
      (tidyFrom started pending us) := by
  induction h generalizing started pending with
  | nil => exact .nil
  | cons h _ ih =>
    unfold tidyFrom
    rw [← h.isBlank_eq]
    split
    . exact ih started true
    . split
      . exact .cons (.char ' ') (.cons h (ih true false))
      . exact .cons h (ih true false)

theorem forall₂_layout (keepBlanks : Bool) :
    List.Forall₂ (Drops arguments) (Plan.layout keepBlanks ts) (Plan.layout keepBlanks us) := by
  unfold Plan.layout
  cases keepBlanks with
  | true => exact h
  | false => exact forall₂_tidyFrom h false false

theorem fill_eq_of_drops (escaped : List Text) :
    Plan.fill (arguments.zip escaped) ts = Plan.fill (arguments.zip escaped) us := by
  induction h with
  | nil => rfl
  | cons h _ ih =>
    cases h with
    | char => rw [Plan.fill, Plan.fill, ih]
    | hole h => rw [Plan.fill, Plan.fill, ih, h.substitute_eq]

end Token

namespace Segment

theorem Drops.tokens {s s' : Segment} (h : s.Drops arguments s') :
    List.Forall₂ (Token.Drops arguments) s.tokens s'.tokens := by
  rcases s with ⟨literal, placeholder⟩
  rcases s' with ⟨literal', placeholder'⟩
  obtain ⟨hliteral, hplaceholder⟩ := h
  dsimp only at hliteral hplaceholder
  subst hliteral
  apply List.rel_append
  . rw [List.forall₂_same]
    intro t ht
    obtain ⟨c, _, rfl⟩ := List.mem_map.1 ht
    exact .char c
  . cases hplaceholder with
    | none => exact .nil
    | some h => exact .cons (.hole h) .nil

theorem forall₂_tokensAll {segments segments' : List Segment}
    (h : List.Forall₂ (Drops arguments) segments segments')
    : List.Forall₂ (Token.Drops arguments) (tokensAll segments) (tokensAll segments') := by
  induction h with
  | nil => exact .nil
  | cons h _ ih => exact List.rel_append h.tokens ih

end Segment

theorem Template.compile_of_forall₂_drops (keepBlanks : Bool) {format format' : String}
    {segments segments' : List Segment} (hparse : Segment.parse format = .ok segments)
    (hparse' : Segment.parse format' = .ok segments')
    (h : List.Forall₂ (Token.Drops arguments) (Segment.tokensAll segments)
      (Segment.tokensAll segments'))
    : (∃ q q', compile keepBlanks ⟨format, arguments⟩ = .ok q
        ∧ compile keepBlanks ⟨format', arguments⟩ = .ok q' ∧ q.finalQuery = q'.finalQuery)
      ∨ ∃ e e', compile keepBlanks ⟨format, arguments⟩ = .error e
        ∧ compile keepBlanks ⟨format', arguments⟩ = .error e'
        ∧ e.withoutFormat = e'.withoutFormat := by
  have hmissing : Plan.missing? arguments.length segments
      = Plan.missing? arguments.length segments' := by
    rw [Plan.missing?_eq, Plan.missing?_eq, Token.map_index_holes h]
  rw [compile_eq, compile_eq]
  dsimp only
  rw [hparse, hparse', ok_bind, ok_bind, ← hmissing]
  cases Plan.missing? arguments.length segments with
  | some index => exact .inr ⟨_, _, rfl, rfl, rfl⟩
  | none =>
    dsimp only
    cases escapeAll keepBlanks arguments with
    | error e => exact .inr ⟨e, e, rfl, rfl, rfl⟩
    | ok escaped =>
      rw [ok_bind, ok_bind, ← Token.fill_eq_of_drops (Token.forall₂_layout h keepBlanks)]
      cases Plan.fill (arguments.zip escaped)
        (Plan.layout keepBlanks (Segment.tokensAll segments)) with
      | error e => exact .inr ⟨e, e, rfl, rfl, rfl⟩
      | ok text => exact .inl ⟨_, _, rfl, rfl, rfl⟩

/--
Patterns can be dropped at any placeholders for arguments that are neither a number nor a point in
time. Either both templates are compiled to the same query, or both fail for the same reason, which
names the one format text or the other.
-/
theorem Template.compile_of_drops (keepBlanks : Bool) {segments segments' : List Segment}
    (hvalid : ∀ s ∈ segments, ∀ p, s.placeholder = some p → p.IsValid)
    (h : List.Forall₂ (Segment.Drops arguments) segments segments')
    : ∃ format format', Segment.write segments = .ok format
      ∧ Segment.write segments' = .ok format'
      ∧ ((∃ q q', compile keepBlanks ⟨format, arguments⟩ = .ok q
          ∧ compile keepBlanks ⟨format', arguments⟩ = .ok q' ∧ q.finalQuery = q'.finalQuery)
        ∨ ∃ e e', compile keepBlanks ⟨format, arguments⟩ = .error e
          ∧ compile keepBlanks ⟨format', arguments⟩ = .error e'
          ∧ e.withoutFormat = e'.withoutFormat ∧ e.message = e'.message) := by
  have htokens := Segment.forall₂_tokensAll h
  have hvalid := Segment.isValid_tokensAll_iff.2 hvalid
  obtain ⟨format, hwrite, hparse⟩ := Segment.exists_write_of_isValid hvalid
  obtain ⟨format', hwrite', hparse'⟩ :=
    Segment.exists_write_of_isValid (Token.isValid_of_drops htokens hvalid)
  refine ⟨format, format', hwrite, hwrite', ?_⟩
  rw [← Segment.tokensAll_ofTokens (Segment.tokensAll segments),
    ← Segment.tokensAll_ofTokens (Segment.tokensAll segments')] at htokens
  rcases compile_of_forall₂_drops keepBlanks hparse hparse' htokens with
    hok | ⟨e, e', he, he', heq⟩
  . exact .inl hok
  . refine .inr ⟨e, e', he, he', heq, ?_⟩
    rw [← e.message_withoutFormat, heq, e'.message_withoutFormat]

end

theorem Template.compile_of_drops_list :
    ∃ q, compile false ⟨"A IN \x7b0:03d\x7d AND B = \x7b1:03d\x7d OR C IN \x7b0\x7d",
        [.sequence .list [.int 7 none, .bool true], .int 7 none]⟩ = .ok q
      ∧ q.finalQuery = "A IN (7,true) AND B = 007 OR C IN (7,true)" := by
  have hvalid : ∀ s ∈ [Segment.mk "A IN ".toList (some ⟨0, "03d".toList⟩),
      ⟨" AND B = ".toList, some ⟨1, "03d".toList⟩⟩, ⟨" OR C IN ".toList, some ⟨0, []⟩⟩],
      ∀ p, s.placeholder = some p → p.IsValid := by
    intro s hs p hp
    simp only [List.mem_cons, List.not_mem_nil, or_false] at hs
    rcases hs with rfl | rfl | rfl
    . cases hp
      exact ⟨by decide, by decide +kernel, by simp [isBrace]⟩
    . cases hp
      exact ⟨by decide, by decide +kernel, by simp [isBrace]⟩
    . cases hp
      exact ⟨by decide, by decide +kernel, by simp [isBrace]⟩
  have hdrops : List.Forall₂
      (Segment.Drops [.sequence .list [.int 7 none, .bool true], .int 7 none])
      [⟨"A IN ".toList, some ⟨0, "03d".toList⟩⟩, ⟨" AND B = ".toList, some ⟨1, "03d".toList⟩⟩,
        ⟨" OR C IN ".toList, some ⟨0, []⟩⟩]
      [⟨"A IN ".toList, some ⟨0, []⟩⟩, ⟨" AND B = ".toList, some ⟨1, "03d".toList⟩⟩,
        ⟨" OR C IN ".toList, some ⟨0, []⟩⟩] := by
    refine .cons ⟨rfl, .some (.drop ⟨0, "03d".toList⟩ rfl rfl)⟩ ?_
    exact .cons ⟨rfl, .some (.keep _)⟩ (.cons ⟨rfl, .some (.keep _)⟩ .nil)
  obtain ⟨format, format', hwrite, hwrite', houtcome⟩ := compile_of_drops false hvalid hdrops
  rw [← toOption_eq_some_iff] at hwrite hwrite'
  have hformat : "A IN \x7b0:03d\x7d AND B = \x7b1:03d\x7d OR C IN \x7b0\x7d" = format :=
    Option.some.inj (Eq.trans (by decide +kernel) hwrite)
  have hformat' : "A IN \x7b0\x7d AND B = \x7b1:03d\x7d OR C IN \x7b0\x7d" = format' :=
    Option.some.inj (Eq.trans (by decide +kernel) hwrite')
  have hquery : compile false ⟨format', [.sequence .list [.int 7 none, .bool true], .int 7 none]⟩
      = .ok ⟨"A IN \x7b0\x7d AND B = \x7b1:03d\x7d OR C IN \x7b0\x7d",
        "A IN (7,true) AND B = 007 OR C IN (7,true)"⟩ := by
    rw [← hformat', ← toOption_eq_some_iff]
    decide +kernel
  rw [hformat]
  rcases houtcome with ⟨q, q', hq, hq', heq⟩ | ⟨e, e', _, he', _⟩
  . rw [hquery] at hq'
    cases hq'
    exact ⟨q, hq, heq⟩
  . rw [hquery] at he'
    cases he'

end Soql
