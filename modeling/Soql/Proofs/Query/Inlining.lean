import Soql.Proofs.Query.Congruence
import Soql.Proofs.Query.Escapable

/-!
This module contains that compilation is compositional: of a template inside another one nothing
matters but its query.
-/

namespace Soql

def Value.SamePatterned (v v' : Value) : Prop :=
  ∀ pattern, v.patterned? pattern = v'.patterned? pattern

theorem Value.samePatterned_of_heedsPattern_eq_false {v v' : Value} (h : v.heedsPattern = false)
    (h' : v'.heedsPattern = false) : v.SamePatterned v' := by
  intro pattern
  rw [patterned?_eq_none h, patterned?_eq_none h']

namespace Plan

variable {bindings bindings' : List (Value × Text)}

def EquivBinding (b b' : Value × Text) : Prop :=
  b.1.SamePatterned b'.1 ∧ b.2 = b'.2

theorem substitute_congr (h : List.Forall₂ EquivBinding bindings bindings') (p : Placeholder) :
    substitute bindings p = substitute bindings' p := by
  unfold substitute
  rcases getElem?_of_forall₂ h p.index.toNat with
    ⟨hnone, hnone'⟩ | ⟨⟨v, s⟩, ⟨v', s'⟩, hb, hb', hv, hs⟩
  . rw [hnone, hnone']
  . rw [hb, hb']
    dsimp only at *
    rw [hv, hs]

theorem fill_congr (h : List.Forall₂ EquivBinding bindings bindings') (ts : List Token) :
    fill bindings ts = fill bindings' ts := by
  induction ts with
  | nil => rfl
  | cons t ts ih =>
    cases t with
    | char c => rw [fill, fill, ih]
    | hole p => rw [fill, fill, ih, substitute_congr h]

end Plan

theorem Template.compile_congr {keepBlanks : Bool} {t t' : Template}
    (hformat : t.format = t'.format)
    (hpatterned : List.Forall₂ Value.SamePatterned t.arguments t'.arguments)
    (hescaped : escapeAll keepBlanks t.arguments = escapeAll keepBlanks t'.arguments)
    : t.compile keepBlanks = t'.compile keepBlanks := by
  rw [compile_eq, compile_eq, ← hformat, ← hpatterned.length_eq, ← hescaped]
  cases Segment.parse t.format with
  | error e => rfl
  | ok segments =>
    cases escapeAll keepBlanks t.arguments with
    | error e => rfl
    | ok texts =>
      have hsame : List.Forall₂ Eq texts texts := List.forall₂_refl texts
      simp only [ok_bind, Plan.fill_congr (forall₂_zip hpatterned hsame)]

/--
Whether a value is the other one but for templates inside that one, in place of which it has their
queries. The templates inside a replaced one may have been replaced before.
-/
inductive Value.Inlines (keepBlanks : Bool) : Value → Value → Prop where
  | refl (v : Value) : Value.Inlines keepBlanks v v
  | query {format : String} {arguments arguments' : List Value} {q : CompiledQuery}
    (h : List.Forall₂ (Value.Inlines keepBlanks) arguments arguments')
    (hq : Template.compile keepBlanks ⟨format, arguments'⟩ = .ok q)
    : Value.Inlines keepBlanks (.template format arguments) (.fragment q.finalQuery)
  | template (format : String) {arguments arguments' : List Value}
    (h : List.Forall₂ (Value.Inlines keepBlanks) arguments arguments')
    : Value.Inlines keepBlanks (.template format arguments) (.template format arguments')
  | sequence (kind : SequenceKind) {items items' : List Value}
    (h : List.Forall₂ (Value.Inlines keepBlanks) items items')
    : Value.Inlines keepBlanks (.sequence kind items) (.sequence kind items')
  | cycle (kind : ExtensibleKind) {items items' : List Value}
    (h : List.Forall₂ (Value.Inlines keepBlanks) items items')
    : Value.Inlines keepBlanks (.cycle kind items) (.cycle kind items')

def Template.Inlines (keepBlanks : Bool) (t t' : Template) : Prop :=
  t.format = t'.format ∧ List.Forall₂ (Value.Inlines keepBlanks) t.arguments t'.arguments

namespace Value

variable {keepBlanks : Bool}

theorem Inlines.of_compile {t : Template} {q : CompiledQuery} (hq : t.compile keepBlanks = .ok q) :
    Inlines keepBlanks t.toValue (.fragment q.finalQuery) :=
  .query (List.forall₂_same.2 fun v _ => .refl v) hq

theorem Inlines.samePatterned {v v' : Value} (h : Inlines keepBlanks v v') :
    v.SamePatterned v' := by
  cases h with
  | refl => exact fun _ => rfl
  | _ => exact samePatterned_of_heedsPattern_eq_false rfl rfl

theorem escapeAll_congr {vs vs' : List Value}
    (h : List.Forall₂ (fun v v' => escape keepBlanks v = escape keepBlanks v') vs vs')
    : escapeAll keepBlanks vs = escapeAll keepBlanks vs' := by
  induction h with
  | nil => rfl
  | cons hv _ ih => rw [escapeAll, escapeAll, hv, ih]

theorem escapeAll_eq_of_inlines {vs vs' : List Value}
    (ih : ∀ v ∈ vs, ∀ v', Inlines keepBlanks v v' → escape keepBlanks v = escape keepBlanks v')
    (h : List.Forall₂ (Inlines keepBlanks) vs vs')
    : escapeAll keepBlanks vs = escapeAll keepBlanks vs' := by
  apply escapeAll_congr
  apply ((List.forall₂_and_left vs vs').2 ⟨ih, h⟩).imp
  intro v v' hv
  exact hv.1 v' hv.2

theorem compile_eq_of_inlines {t t' : Template} (h : t.Inlines keepBlanks t')
    (hescaped : escapeAll keepBlanks t.arguments = escapeAll keepBlanks t'.arguments)
    : t.compile keepBlanks = t'.compile keepBlanks :=
  Template.compile_congr h.1 (h.2.imp fun _ _ h => h.samePatterned) hescaped

theorem escape_eq_of_inlines (v : Value) :
    ∀ v', Inlines keepBlanks v v' → escape keepBlanks v = escape keepBlanks v' := by
  induction v using induct with
  | h v ih =>
    intro v' h
    cases h with
    | refl => rfl
    | @query format arguments arguments' q h hq =>
      have hcompile := @compile_eq_of_inlines keepBlanks ⟨format, arguments⟩ ⟨format, arguments'⟩
        ⟨rfl, h⟩ (escapeAll_eq_of_inlines ih h)
      rw [escape_template, hcompile, hq, escape]
      rfl
    | @template format arguments arguments' h =>
      have hcompile := @compile_eq_of_inlines keepBlanks ⟨format, arguments⟩ ⟨format, arguments'⟩
        ⟨rfl, h⟩ (escapeAll_eq_of_inlines ih h)
      rw [escape_template, escape_template, hcompile]
    | @sequence kind items items' h =>
      have hitems : escapeAll keepBlanks items = escapeAll keepBlanks items' :=
        escapeAll_eq_of_inlines ih h
      rw [escape, escape, hitems]
    | @cycle kind items items' h =>
      have hitems : escapeAll keepBlanks items = escapeAll keepBlanks items' :=
        escapeAll_eq_of_inlines ih h
      rw [escape, escape, hitems]

theorem exists_escape_of_within {u v : Value} (hwithin : u.Within v) {t : Text}
    (h : escape keepBlanks v = .ok t) : ∃ t', escape keepBlanks u = .ok t' := by
  induction hwithin generalizing t with
  | self => exact ⟨t, h⟩
  | @part v w hw _ ih =>
    have hparts : ∃ texts, escapeAll keepBlanks v.parts = .ok texts := by
      cases v with
      | template format arguments =>
        rw [escape_template] at h
        obtain ⟨q, hq, _⟩ := map_eq_ok_iff.1 h
        obtain ⟨_, escaped, _, hcompilation, _⟩ := Template.compile_eq_ok_iff.1 hq
        exact ⟨escaped, hcompilation.escaped_eq⟩
      | sequence kind items =>
        rw [escape] at h
        obtain ⟨texts, htexts, _⟩ := bind_eq_ok_iff.1 h
        exact ⟨texts, htexts⟩
      | cycle kind items =>
        rw [escape] at h
        obtain ⟨texts, htexts, _⟩ := bind_eq_ok_iff.1 h
        exact ⟨texts, htexts⟩
      | _ => exact ⟨[], rfl⟩
    obtain ⟨t', ht'⟩ := exists_escapeAll_iff.1 hparts w hw
    exact ih ht'

end Value

/--
Each template inside one that compiles has a query of its own, and any of them can be replaced by
their queries: what is compiled is the same.
-/
theorem Template.compile_of_inlines {keepBlanks : Bool} {t : Template} {q : CompiledQuery}
    (hq : t.compile keepBlanks = .ok q)
    : (∀ n : Template, n.toValue.Within t.toValue → ∃ q', n.compile keepBlanks = .ok q')
      ∧ ∀ t', t.Inlines keepBlanks t' → t'.compile keepBlanks = .ok q := by
  constructor
  . intro n hn
    have hquery : escape keepBlanks t.toValue = .ok q.finalQuery := by
      rw [escape_toValue, hq]
      rfl
    obtain ⟨s, hs⟩ := Value.exists_escape_of_within hn hquery
    rw [escape_toValue] at hs
    obtain ⟨q', hq', _⟩ := map_eq_ok_iff.1 hs
    exact ⟨q', hq'⟩
  . intro t' h
    have hescaped := Value.escapeAll_eq_of_inlines (fun v _ => v.escape_eq_of_inlines) h.2
    rw [← Value.compile_eq_of_inlines h hescaped]
    exact hq

theorem Template.compile_of_inlines_nested :
    Template.compile false ⟨"A = {0:>9} AND B IN {1}",
        [.fragment "f('it\\'s')", .sequence .list [.null, .template "{}" [.fragment "g(7)"]]]⟩
      = .ok ⟨"A = {0:>9} AND B IN {1}", "A = f('it\\'s') AND B IN (null,g(7))"⟩ := by
  have hname : Template.compile false ⟨"f({})", [.text "it's"]⟩
      = .ok ⟨"f({0})", "f('it\\'s')"⟩ :=
    toOption_eq_some_iff.1 (by decide +kernel)
  have hitem : Template.compile false ⟨" g({})", [.int 7 none]⟩
      = .ok ⟨"g({0})", "g(7)"⟩ :=
    toOption_eq_some_iff.1 (by decide +kernel)
  have hquery : Template.compile false ⟨"A = {0:>9} AND B IN {1}",
      [.template "f({})" [.text "it's"],
        .sequence .list [.null, .template "{}" [.template " g({})" [.int 7 none]]]]⟩
      = .ok ⟨"A = {0:>9} AND B IN {1}", "A = f('it\\'s') AND B IN (null,g(7))"⟩ :=
    toOption_eq_some_iff.1 (by decide +kernel)
  obtain ⟨_, hinlines⟩ := compile_of_inlines hquery
  apply hinlines
  refine ⟨rfl, .cons (.of_compile hname) (.cons ?_ .nil)⟩
  apply Value.Inlines.sequence
  refine .cons (.refl _) (.cons (.template _ ?_) .nil)
  exact .cons (.of_compile hitem) .nil

end Soql
