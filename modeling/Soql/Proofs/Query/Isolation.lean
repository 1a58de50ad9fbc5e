import Soql.Proofs.Query.Congruence
import Soql.Proofs.Query.Plan
import Soql.Proofs.Query.Parts
import Soql.Proofs.Query.Region

/-!
This module contains what untrusted text can change in a query: nothing but what stands inside
string literals and braces.
-/

namespace Soql
namespace Region

def blank (r : Region) : Region :=
  r.step (.char ' ')

theorem step_of_isBlank {c : Char} (h : Text.isBlank c = true) (r : Region) :
    r.step (.char c) = r.blank := by
  have hne (d : Char) (hd : Text.isBlank d = false) : Symbol.char c ≠ .char d := by
    rintro ⟨⟩
    rw [hd] at h
    cases h
  have hquote := hne '\'' (by decide)
  have hbrace := hne '{' (by decide)
  have hclose := hne '}' (by decide)
  have hslash := hne '\\' (by decide)
  cases r with
  | outside =>
    have hnone : Enclosure.ofOpening? (.char c) = none := by
      simp [Enclosure.ofOpening?, Enclosure.opening, hquote, hbrace]
    rw [step_outside_of_none hnone]
    rfl
  | inside e escaped =>
    cases escaped with
    | true => rfl
    | false => cases e <;> simp [step, blank, Enclosure.closing, hquote, hclose, hslash]

theorem blank_blank (r : Region) : r.blank.blank = r.blank := by
  rcases r with _ | ⟨e, escaped⟩
  . rfl
  . cases e <;> cases escaped <;> rfl

theorem eq_outside_of_blank {r : Region} (h : r.blank = outside) : r = outside := by
  rcases r with _ | ⟨e, escaped⟩
  . rfl
  . cases e <;> cases escaped <;> cases h

end Region

namespace Token

/--
Whether literal text has left every enclosure where a placeholder stands, and at its end.
-/
def Closed : Region → List Token → Prop
  | r, [] => r = .outside
  | r, .char c :: ts => Closed (r.step (.char c)) ts
  | r, .hole _ :: ts => r = .outside ∧ Closed r ts

theorem Closed.cons_of_imp {ts us : List Token} (h : ∀ r, Closed r ts → Closed r us) (t : Token)
    {r : Region} (ht : Closed r (t :: ts)) : Closed r (t :: us) := by
  cases t with
  | char c => exact h _ ht
  | hole p => exact ⟨ht.1, h _ ht.2⟩

theorem Closed.of_isBlank {t : Token} (hblank : t.isBlank = true) {ts : List Token} {r : Region}
    (h : Closed r (t :: ts)) : Closed r.blank ts := by
  cases t with
  | char c =>
    rw [← Region.step_of_isBlank hblank]
    exact h
  | hole p => cases hblank

theorem closed_tidyFrom (ts : List Token) :
    (∀ pending, Closed .outside ts → Closed .outside (tidyFrom false pending ts))
      ∧ (∀ r, Closed r ts → Closed r (tidyFrom true false ts))
      ∧ ∀ r : Region, Closed r.blank ts → Closed r (tidyFrom true true ts) := by
  induction ts with
  | nil =>
    refine ⟨fun _ h => h, fun r h => h, ?_⟩
    intro r h
    exact Region.eq_outside_of_blank h
  | cons t ts ih =>
    obtain ⟨hleading, hplain, hpending⟩ := ih
    cases hblank : t.isBlank with
    | true =>
      simp only [tidyFrom, hblank, ↓reduceIte]
      refine ⟨?_, ?_, ?_⟩
      . intro pending h
        exact hleading true (h.of_isBlank hblank)
      . intro r h
        exact hpending r (h.of_isBlank hblank)
      . intro r h
        -- Behind a backslash a blank does make a difference, but a second one makes no other.
        have h := h.of_isBlank hblank
        rw [Region.blank_blank] at h
        exact hpending r h
    | false =>
      simp only [tidyFrom, hblank]
      refine ⟨?_, ?_, ?_⟩
      . intro pending h
        exact h.cons_of_imp hplain
      . intro r h
        exact h.cons_of_imp hplain
      . intro r h
        exact h.cons_of_imp hplain

theorem Closed.layout {ts : List Token} (h : Closed .outside ts) (keepBlanks : Bool) :
    Closed .outside (Plan.layout keepBlanks ts) := by
  unfold Plan.layout
  cases keepBlanks with
  | true => exact h
  | false => exact (closed_tidyFrom ts).1 false h

end Token

def AlikeBinding (b b' : Value × Text) : Prop :=
  b.1.heedsPattern = b'.1.heedsPattern ∧ Region.Alike .outside b.2 b'.2

namespace Plan

variable {bindings bindings' : List (Value × Text)}

theorem agree_substitute (h : List.Forall₂ AlikeBinding bindings bindings') {p : Placeholder}
    (hplain : p.spec ≠ [] → ∀ b, bindings[p.index.toNat]? = some b → b.1.heedsPattern = false)
    : Agree (Region.Alike .outside) (substitute bindings p) (substitute bindings' p) := by
  unfold substitute
  rcases getElem?_of_forall₂ h p.index.toNat with
    ⟨hnone, hnone'⟩ | ⟨⟨v, s⟩, ⟨v', s'⟩, hb, hb', hv, hs⟩
  . rw [hnone, hnone']
    exact .ok Region.alike_nil
  . rw [hb, hb']
    dsimp only at *
    cases hspec : p.spec with
    | nil => exact .ok hs
    | cons c cs =>
      have hheeds : v.heedsPattern = false := hplain (by simp [hspec]) (v, s) hb
      have hheeds' : v'.heedsPattern = false := hv ▸ hheeds
      rw [Value.patterned?_eq_none hheeds, Value.patterned?_eq_none hheeds']
      exact .ok hs

theorem agree_fill (h : List.Forall₂ AlikeBinding bindings bindings') {ts : List Token}
    {r : Region} (hclosed : Token.Closed r ts)
    (hplain : ∀ p ∈ Token.holes ts, p.spec ≠ []
      → ∀ b, bindings[p.index.toNat]? = some b → b.1.heedsPattern = false)
    : Agree (Region.Alike r) (fill bindings ts) (fill bindings' ts) := by
  induction ts generalizing r with
  | nil =>
    rw [Token.Closed] at hclosed
    subst hclosed
    exact .ok Region.alike_nil
  | cons t ts ih =>
    cases t with
    | char c =>
      apply (ih hclosed hplain).bind
      intro text text' htext
      exact .ok htext.cons
    | hole p =>
      obtain ⟨rfl, hclosed⟩ := hclosed
      rw [Token.holes_hole, List.forall_mem_cons] at hplain
      apply (agree_substitute h hplain.1).bind
      intro s s' hs
      apply (ih hclosed hplain.2).bind
      intro text text' htext
      exact .ok (hs.append htext)

end Plan

theorem Region.isCompositional_alike : IsCompositional (Region.Alike .outside) where
  nil := alike_nil
  append := Alike.append
  opening := alike_self rfl
  comma := alike_self rfl
  closing := alike_self rfl

theorem alike_sequenceText {texts texts' : List Text}
    (h : List.Forall₂ (Region.Alike .outside) texts texts')
    : Region.Alike .outside (sequenceText texts) (sequenceText texts') :=
  Region.isCompositional_alike.sequenceText h

namespace Value

def isText : Value → Bool
  | .text _ | .wrappedText _ => true
  | _ => false

/--
Whether a value is the other one but for its texts, and for the texts that search phrases were made
from.
-/
inductive Varies : Value → Value → Prop where
  | refl (v : Value) : Varies v v
  | text {v v' : Value} (h : v.isText = true) (h' : v'.isText = true) : Varies v v'
  | phrase (s s' : Text) : Varies (.phrase (escapePhrase s)) (.phrase (escapePhrase s'))
  | template (format : String) {arguments arguments' : List Value}
    (h : List.Forall₂ Varies arguments arguments')
    : Varies (.template format arguments) (.template format arguments')
  | sequence (kind : SequenceKind) {items items' : List Value}
    (h : List.Forall₂ Varies items items')
    : Varies (.sequence kind items) (.sequence kind items')
  | cycle (kind : ExtensibleKind) {items items' : List Value} (h : List.Forall₂ Varies items items')
    : Varies (.cycle kind items) (.cycle kind items')

end Value

/--
Whether the template's own text leaves every enclosure that it enters before anything is inserted,
and lays out no argument by a pattern.
-/
structure Template.IsEnclosed (t : Template) : Prop where
  closed : ∀ segments, Segment.parse t.format = .ok segments
    → Token.Closed .outside (Segment.tokensAll segments)
  plain : ∀ segments, Segment.parse t.format = .ok segments
    → ∀ p ∈ Token.holes (Segment.tokensAll segments), p.spec ≠ []
    → ∀ v, t.arguments[p.index.toNat]? = some v → v.heedsPattern = false

def Value.IsEnclosed : Value → Prop
  | .fragment s => Region.run .outside s = .outside
  | .phrase s => Region.run .outside (Region.braced s) = .outside
  | .template format arguments => Template.IsEnclosed ⟨format, arguments⟩
  | _ => True

def Template.Clean (t : Template) : Prop :=
  ∀ v : Value, v.Within t.toValue → v.IsEnclosed

def Template.Varies (t t' : Template) : Prop :=
  t.format = t'.format ∧ List.Forall₂ Value.Varies t.arguments t'.arguments

namespace Value

theorem eq_text_of_isText {v : Value} (h : v.isText = true) :
    ∃ s, v = .text s ∨ v = .wrappedText s := by
  unfold isText at h
  split at h
  . exact ⟨_, .inl rfl⟩
  . exact ⟨_, .inr rfl⟩
  . cases h

theorem heedsPattern_of_isText {v : Value} (h : v.isText = true) : v.heedsPattern = false := by
  obtain ⟨s, rfl | rfl⟩ := eq_text_of_isText h
  . rfl
  . rfl

theorem escape_of_isText {v : Value} (h : v.isText = true) :
    ∃ s, ∀ keepBlanks, escape keepBlanks v = .ok (quote s) := by
  obtain ⟨s, rfl | rfl⟩ := eq_text_of_isText h
  . exact ⟨s, fun _ => rfl⟩
  . exact ⟨s, fun _ => rfl⟩

theorem Varies.heedsPattern_eq {v v' : Value} (h : Varies v v') :
    v.heedsPattern = v'.heedsPattern := by
  cases h with
  | refl => rfl
  | text h h' => rw [heedsPattern_of_isText h, heedsPattern_of_isText h']
  | _ => rfl

section

variable {keepBlanks : Bool} {vs vs' : List Value}

theorem agree_of_heedsPattern {v : Value} (hv : v.heedsPattern = true) :
    Agree (Region.Alike .outside) (escape keepBlanks v) (escape keepBlanks v) := by
  apply agree_self
  intro s hs
  exact Region.alike_self (Region.run_of_isNumeric (isNumeric_of_escape hv hs))

theorem agree_compile {t t' : Template} (hformat : t.format = t'.format)
    (hvaries : List.Forall₂ Varies t.arguments t'.arguments) (henclosed : t.IsEnclosed)
    (hescaped : Agree (List.Forall₂ (Region.Alike .outside)) (escapeAll keepBlanks t.arguments)
      (escapeAll keepBlanks t'.arguments))
    : Agree (fun q q' => q.format = q'.format ∧ Region.Alike .outside q.finalQuery q'.finalQuery)
        (t.compile keepBlanks) (t'.compile keepBlanks) := by
  rw [Template.compile_eq, Template.compile_eq, ← hformat, ← hvaries.length_eq]
  cases hparse : Segment.parse t.format with
  | error e => exact .error e
  | ok segments =>
    rw [ok_bind, ok_bind]
    cases Plan.missing? t.arguments.length segments with
    | some index => exact .error _
    | none =>
      apply hescaped.bind
      intro texts texts' htexts
      have hheeds := hvaries.imp fun _ _ h => Varies.heedsPattern_eq h
      have hclosed := (henclosed.closed segments hparse).layout keepBlanks
      apply (Plan.agree_fill (forall₂_zip hheeds htexts) hclosed ?_).bind
      . intro text text' htext
        exact .ok ⟨rfl, htext⟩
      . intro p hp hspec b hb
        rw [Plan.holes_layout] at hp
        rw [List.getElem?_zip_eq_some] at hb
        exact henclosed.plain segments hparse p hp hspec b.1 hb.1

theorem agree_template (format : String) (hvaries : List.Forall₂ Varies vs vs')
    (henclosed : Template.IsEnclosed ⟨format, vs⟩)
    (hescaped : Agree (List.Forall₂ (Region.Alike .outside)) (escapeAll keepBlanks vs)
      (escapeAll keepBlanks vs'))
    : Agree (Region.Alike .outside) (escape keepBlanks (.template format vs))
        (escape keepBlanks (.template format vs')) := by
  have hcompile :=
    @agree_compile keepBlanks ⟨format, vs⟩ ⟨format, vs'⟩ rfl hvaries henclosed hescaped
  rw [escape_template, escape_template]
  apply hcompile.map
  intro q q' hq
  exact hq.right

theorem agree_sequence (kind : SequenceKind)
    (hescaped : Agree (List.Forall₂ (Region.Alike .outside)) (escapeAll keepBlanks vs)
      (escapeAll keepBlanks vs'))
    : Agree (Region.Alike .outside) (escape keepBlanks (.sequence kind vs))
        (escape keepBlanks (.sequence kind vs')) := by
  rw [escape, escape]
  apply hescaped.bind
  intro texts texts' htexts
  exact .ok (alike_sequenceText htexts)

theorem agree_cycle (kind : ExtensibleKind)
    (hescaped : Agree (List.Forall₂ (Region.Alike .outside)) (escapeAll keepBlanks vs)
      (escapeAll keepBlanks vs'))
    : Agree (Region.Alike .outside) (escape keepBlanks (.cycle kind vs))
        (escape keepBlanks (.cycle kind vs')) := by
  rw [escape, escape]
  apply hescaped.bind
  intro texts texts' htexts
  exact .error _

theorem agree_range (start stop step : Int) :
    Agree (Region.Alike .outside) (escape keepBlanks (.range start stop step))
      (escape keepBlanks (.range start stop step)) := by
  have hitems : List.Forall₂ Varies ((rangeItems start stop step).map fun n => int n none)
      ((rangeItems start stop step).map fun n => int n none) := by
    rw [List.forall₂_same]
    intro v _
    exact .refl v
  rw [escape_range]
  apply agree_sequence
  apply agree_escapeAll hitems
  intro v hv v' hvaries
  obtain ⟨n, _, rfl⟩ := List.mem_map.1 hv
  cases hvaries with
  | refl => exact agree_of_heedsPattern rfl
  | text h => cases h

end

theorem agree_escape (keepBlanks : Bool) (v : Value) :
    (∀ u : Value, u.Within v → u.IsEnclosed)
      → ∀ v', Varies v v'
        → Agree (Region.Alike .outside) (escape keepBlanks v) (escape keepBlanks v') := by
  induction v using induct with
  | h v ih =>
    intro henclosed v' hvaries
    -- Only a template asks for something itself; the other values pass on what their parts give.
    have hself := henclosed v (.self v)
    have hparts : ∀ w ∈ v.parts, ∀ w', Varies w w'
        → Agree (Region.Alike .outside) (escape keepBlanks w) (escape keepBlanks w') := by
      intro w hw
      apply ih w hw
      intro u hu
      exact henclosed u (.part hw hu)
    have hsame : List.Forall₂ Varies v.parts v.parts := by
      rw [List.forall₂_same]
      intro w _
      exact .refl w
    cases hvaries with
    | text h h' =>
      obtain ⟨s, hs⟩ := escape_of_isText h
      obtain ⟨s', hs'⟩ := escape_of_isText h'
      rw [hs, hs']
      exact .ok (Region.alike_quote s s')
    | phrase s s' => exact .ok (Region.alike_braced_escapePhrase s s')
    | template format h => exact agree_template format h hself (agree_escapeAll h hparts)
    | sequence kind h => exact agree_sequence kind (agree_escapeAll h hparts)
    | cycle kind h => exact agree_cycle kind (agree_escapeAll h hparts)
    | refl =>
      cases v with
      | null => exact .ok (Region.alike_self rfl)
      | bool b => cases b <;> exact .ok (Region.alike_self rfl)
      | int | float | decimal | date | dateTime => exact agree_of_heedsPattern rfl
      | text s => exact .ok (Region.alike_quote s s)
      | wrappedText s => exact .ok (Region.alike_quote s s)
      | fragment s => exact .ok (Region.alike_self hself)
      | phrase s => exact .ok (Region.alike_self hself)
      | template format vs => exact agree_template format hsame hself (agree_escapeAll hsame hparts)
      | sequence kind vs => exact agree_sequence kind (agree_escapeAll hsame hparts)
      | range start stop step => exact agree_range start stop step
      | cycle kind vs => exact agree_cycle kind (agree_escapeAll hsame hparts)
      | _ => exact .error _

end Value

/--
No text that is put into a clean template can change its query outside of string literals and
braces, nor whether there is a query.
-/
theorem Template.compile_of_varies {t t' : Template} (hclean : t.Clean) (hvaries : t.Varies t')
    (keepBlanks : Bool)
    : (∀ e, t.compile keepBlanks = .error e ↔ t'.compile keepBlanks = .error e)
        ∧ ∀ q, t.compile keepBlanks = .ok q
          → ∃ q', t'.compile keepBlanks = .ok q' ∧ q'.format = q.format
            ∧ Region.run .outside q.finalQuery = .outside
            ∧ Region.run .outside q'.finalQuery = .outside
            ∧ Region.skeleton .outside q.finalQuery
              = Region.skeleton .outside q'.finalQuery := by
  obtain ⟨hformat, harguments⟩ := hvaries
  have hself := hclean t.toValue (.self _)
  have hparts : ∀ v ∈ t.arguments, ∀ v', Value.Varies v v'
      → Agree (Region.Alike .outside) (escape keepBlanks v) (escape keepBlanks v') := by
    intro v hv
    apply Value.agree_escape keepBlanks v
    intro u hu
    exact hclean u (.part hv hu)
  have hagree := Value.agree_compile hformat harguments hself
    (Value.agree_escapeAll harguments hparts)
  constructor
  . intro e
    generalize t.compile keepBlanks = x at hagree
    generalize t'.compile keepBlanks = y at hagree
    cases hagree with
    | ok h => simp
    | error e' => rfl
  . intro q hq
    rw [hq] at hagree
    generalize t'.compile keepBlanks = y at hagree
    cases hagree with
    | ok h => exact ⟨_, rfl, h.1.symm, h.2.run_left, h.2.run_right, h.2.skeleton_eq⟩

theorem Template.compile_of_varies_filter :
    ∃ q, Template.compile false ⟨"A = '\x7b\x7b' AND B = \x7b\x7d", [.text "' OR 1 = 1"]⟩ = .ok q
      ∧ Region.skeleton .outside q.finalQuery = Text.ofString "A = '' AND B = ''" := by
  have hparse : Segment.parse "A = '\x7b\x7b' AND B = \x7b\x7d"
      = .ok [⟨"A = '\x7b".toList, none⟩, ⟨"' AND B = ".toList, some ⟨0, []⟩⟩] :=
    toOption_eq_some_iff.1 (by decide +kernel)
  have hclean : Clean ⟨"A = '\x7b\x7b' AND B = \x7b\x7d", [.text "x"]⟩ := by
    intro v hv
    cases hv with
    | self =>
      constructor
      . intro segments h
        rw [hparse] at h
        cases h
        exact ⟨rfl, rfl⟩
      . intro segments h
        rw [hparse] at h
        cases h
        decide
    | part hw hv =>
      cases List.mem_singleton.1 hw
      cases hv with
      | self => trivial
      | part hw _ => cases hw
  have hvaries : Varies ⟨"A = '\x7b\x7b' AND B = \x7b\x7d", [.text "x"]⟩
      ⟨"A = '\x7b\x7b' AND B = \x7b\x7d", [.text "' OR 1 = 1"]⟩ :=
    ⟨rfl, .cons (.text rfl rfl) .nil⟩
  have hquery : Template.compile false ⟨"A = '\x7b\x7b' AND B = \x7b\x7d", [.text "x"]⟩
      = .ok ⟨"A = '\x7b\x7b' AND B = \x7b0\x7d", "A = '\x7b' AND B = 'x'"⟩ :=
    toOption_eq_some_iff.1 (by decide +kernel)
  obtain ⟨_, hcompile⟩ := compile_of_varies hclean hvaries false
  obtain ⟨q, hq, _, _, _, hskeleton⟩ := hcompile _ hquery
  refine ⟨q, hq, ?_⟩
  rw [← hskeleton]
  decide

end Soql
