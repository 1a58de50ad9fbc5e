import Soql.Proofs.Query.Congruence
import Soql.Proofs.Query.Plan
import Soql.Proofs.Query.Parts

/-!
This module contains what the rule for blanks can change in a query: nothing but blanks. A template
is compiled the same way whether the blanks of its format are kept or not, and so are the templates
inside it.
-/

namespace Soql
namespace Text

def dropBlanks (t : Text) : Text :=
  t.filter fun s => !s.satisfies isBlank

theorem dropBlanks_append (t u : Text) : dropBlanks (t ++ u) = dropBlanks t ++ dropBlanks u :=
  List.filter_append ..

theorem dropBlanks_cons_of_isBlank {c : Char} (h : isBlank c = true) (t : Text) :
    dropBlanks (.char c :: t) = dropBlanks t := by
  simp [dropBlanks, Symbol.satisfies, h]

def EqButBlanks (t u : Text) : Prop :=
  dropBlanks t = dropBlanks u

theorem EqButBlanks.append {t u t' u' : Text} (h : EqButBlanks t u) (h' : EqButBlanks t' u') :
    EqButBlanks (t ++ t') (u ++ u') := by
  unfold EqButBlanks at *
  rw [dropBlanks_append, dropBlanks_append, h, h']

theorem EqButBlanks.cons {t u : Text} (h : EqButBlanks t u) (s : Symbol) :
    EqButBlanks (s :: t) (s :: u) := by
  have hs : EqButBlanks [s] [s] := rfl
  exact hs.append h

theorem isCompositional_eqButBlanks : IsCompositional EqButBlanks where
  nil := rfl
  append := EqButBlanks.append
  opening := rfl
  comma := rfl
  closing := rfl

end Text

namespace Plan

variable {bindings bindings' : List (Value × Text)}

def SameBinding (b b' : Value × Text) : Prop :=
  b.1 = b'.1 ∧ Text.EqButBlanks b.2 b'.2

theorem agree_substitute_same (h : List.Forall₂ SameBinding bindings bindings') (p : Placeholder) :
    Agree Text.EqButBlanks (substitute bindings p) (substitute bindings' p) := by
  unfold substitute
  rcases getElem?_of_forall₂ h p.index.toNat with
    ⟨hnone, hnone'⟩ | ⟨⟨v, s⟩, ⟨v', s'⟩, hb, hb', hv, hs⟩
  . rw [hnone, hnone']
    exact .ok rfl
  . rw [hb, hb']
    dsimp only at *
    subst hv
    split
    . exact .ok hs
    . cases v.patterned? (String.ofList p.spec) with
      | none => exact .ok hs
      | some result => exact agree_self fun _ _ => rfl

theorem agree_fill_space {α : Type} {x : Except Error α} {R : α → Text → Prop}
    {ts : List Token} (h : Agree R x (fill bindings ts))
    (hR : ∀ a t, R a t → R a (.char ' ' :: t)) (isSpaced : Bool)
    : Agree R x (fill bindings ((if isSpaced then [.char ' '] else []) ++ ts)) := by
  cases isSpaced with
  | false => exact h
  | true =>
    apply h.bind_right
    intro a t ht
    exact .ok (hR a t ht)

theorem agree_fill_tidyFrom (h : List.Forall₂ SameBinding bindings bindings') (ts : List Token)
    (started pending : Bool)
    : Agree Text.EqButBlanks (fill bindings ts)
        (fill bindings' (Token.tidyFrom started pending ts)) := by
  induction ts generalizing started pending with
  | nil => exact .ok rfl
  | cons t ts ih =>
    unfold Token.tidyFrom
    cases t with
    | char c =>
      split
      . next hblank =>
        apply (ih started true).bind_left
        intro text text' htext
        exact .ok ((Text.dropBlanks_cons_of_isBlank hblank text).trans htext)
      . apply agree_fill_space
        . apply (ih true false).bind
          intro text text' htext
          exact .ok (htext.cons (.char c))
        . intro text text' htext
          exact htext
    | hole p =>
      rw [if_neg (by simp [Token.isBlank])]
      apply agree_fill_space
      . apply (agree_substitute_same h p).bind
        intro s s' hs
        apply (ih true false).bind
        intro text text' htext
        exact .ok (hs.append htext)
      . intro text text' htext
        exact htext

end Plan

theorem Template.agree_compile_true_false {t : Template}
    (hescaped : Agree (List.Forall₂ Text.EqButBlanks) (escapeAll true t.arguments)
      (escapeAll false t.arguments))
    : Agree (fun q q' => Text.EqButBlanks q.finalQuery q'.finalQuery) (t.compile true)
        (t.compile false) := by
  rw [compile_eq, compile_eq]
  cases Segment.parse t.format with
  | error e => exact .error e
  | ok segments =>
    rw [ok_bind, ok_bind]
    cases Plan.missing? t.arguments.length segments with
    | some index => exact .error _
    | none =>
      apply hescaped.bind
      intro texts texts' htexts
      have hsame : List.Forall₂ Eq t.arguments t.arguments := List.forall₂_refl t.arguments
      apply (Plan.agree_fill_tidyFrom (forall₂_zip hsame htexts) _ false false).bind
      intro text text' htext
      exact .ok htext

namespace Value

theorem agree_escapeAll_true_false {vs : List Value}
    (h : ∀ v ∈ vs, Agree Text.EqButBlanks (escape true v) (escape false v))
    : Agree (List.Forall₂ Text.EqButBlanks) (escapeAll true vs) (escapeAll false vs) := by
  apply agree_escapeAll (V := Eq) (List.forall₂_refl vs)
  rintro v hv _ rfl
  exact h v hv

theorem agree_escape_true_false (v : Value) :
    Agree Text.EqButBlanks (escape true v) (escape false v) := by
  induction v using induct with
  | h v ih =>
    cases v with
    | template format arguments =>
      have hcompile :=
        @Template.agree_compile_true_false ⟨format, arguments⟩ (agree_escapeAll_true_false ih)
      rw [escape_template, escape_template]
      apply hcompile.map
      intro q q' hq
      exact hq
    | sequence kind items =>
      rw [escape, escape]
      apply (agree_escapeAll_true_false ih).bind
      intro texts texts' htexts
      exact .ok (Text.isCompositional_eqButBlanks.sequenceText htexts)
    | cycle kind items =>
      rw [escape, escape]
      apply (agree_escapeAll_true_false ih).bind
      intro texts texts' htexts
      exact .error _
    | _ =>
      rw [escape, escape]
      exact agree_self fun _ _ => rfl

end Value

/--
Whether blanks are kept shows in nothing but the blanks of the query: either way there is a query or
the same error, and the queries are equal once their blanks are dropped.
-/
theorem Template.compile_dropBlanks (t : Template) :
    (t.compile true).map (fun q => Text.dropBlanks q.finalQuery)
      = (t.compile false).map fun q => Text.dropBlanks q.finalQuery := by
  apply Agree.map_eq_map
  apply agree_compile_true_false
  apply Value.agree_escapeAll_true_false
  intro v _
  exact v.agree_escape_true_false

end Soql
