import Soql.Session.Basic
import Soql.Proofs.Query.Merge

/-!
This module contains the ways of putting templates together, and why they make no difference: what
comes out depends on the fragments and their order alone.
-/

namespace Soql

mutual

inductive Combination where
  | fragment (t : Template)
  | merge (first second : Combination)
  | plus (first second : Combination)
  | build (b : Assembly)

inductive Assembly where
  | empty
  | fromTemplate (c : Combination)
  | add (b : Assembly) (c : Combination)

end

mutual

def Combination.eval : Combination → Except Error Template
  | .fragment t => .ok t
  | .merge first second | .plus first second => do
    let current ← first.eval
    let next ← second.eval
    current.merge next
  | .build b => do
    let builder ← b.eval
    return builder.build

def Assembly.eval : Assembly → Except Error Builder
  | .empty => .ok .empty
  | .fromTemplate c => do
    let template ← c.eval
    return ⟨template⟩
  | .add b c => do
    let builder ← b.eval
    let next ← c.eval
    builder.add next

end

theorem Session.run_plus {s s' s'' : State} {left right : Operand} {o o' : Object} {a b : Template}
    (hleft : resolve s left = .ok (o, s')) (hright : resolve s' right = .ok (o', s''))
    (ho : o.value = a.toValue) (ho' : o'.value = b.toValue)
    : run s (.plus left right) = run s (.merge left right) := by
  simp only [run, hleft, hright, ok_bind, ho, ho', Template.toValue, present]

mutual

def Combination.fragments : Combination → List Template
  | .fragment t => [t]
  | .merge first second | .plus first second => first.fragments ++ second.fragments
  | .build b => b.fragments

def Assembly.fragments : Assembly → List Template
  | .empty => [.empty]
  | .fromTemplate c => c.fragments
  | .add b c => b.fragments ++ c.fragments

end

namespace Template

/--
The format texts of templates in a row, each renumbered behind the arguments in front of it.
-/
def concatFormats (count : Nat) : List Template → Except Error String
  | [] => .ok ""
  | t :: ts => do
    let head ← renumber t.format count
    let tail ← concatFormats (count + t.arguments.length) ts
    return head ++ tail

def concat (ts : List Template) : Except Error Template := do
  let format ← concatFormats 0 ts
  return ⟨format, ts.flatMap arguments⟩

theorem concatFormats_append (count : Nat) (ts us : List Template) :
    concatFormats count (ts ++ us) = do
      let head ← concatFormats count ts
      let tail ← concatFormats (count + (ts.flatMap arguments).length) us
      return head ++ tail := by
  induction ts generalizing count with
  | nil => cases h : concatFormats count us <;> simp [concatFormats, h]
  | cons t ts ih =>
    rw [List.cons_append, concatFormats, concatFormats, ih]
    rw [List.flatMap_cons, List.length_append, ← Nat.add_assoc]
    cases renumber t.format count with
    | error e => rfl
    | ok head =>
      cases concatFormats (count + t.arguments.length) ts with
      | error e => rfl
      | ok middle =>
        rw [ok_bind, ok_bind, ok_bind]
        cases concatFormats (count + t.arguments.length + (ts.flatMap arguments).length) us with
        | error e => rfl
        | ok tail => simp [String.append_assoc]

theorem exists_concatFormats_of_le {i j : Nat} (hij : i ≤ j) {ts : List Template} {result : String}
    (h : concatFormats j ts = .ok result) : ∃ result', concatFormats i ts = .ok result' := by
  induction ts generalizing i j result with
  | nil => exact ⟨"", rfl⟩
  | cons t ts ih =>
    obtain ⟨head, hhead, h⟩ := bind_eq_ok_iff.1 h
    obtain ⟨tail, htail, _⟩ := bind_eq_ok_iff.1 h
    obtain ⟨head', hhead'⟩ := exists_renumber_of_le hij hhead
    obtain ⟨tail', htail'⟩ := ih (Nat.add_le_add_right hij t.arguments.length) htail
    refine ⟨head' ++ tail', ?_⟩
    rw [concatFormats, hhead', htail']
    rfl

/--
What is known of a computation that puts templates together, before and after it is part of another.
-/
structure IsConcat (x : Except Error Template) (ts : List Template) : Prop where
  arguments_eq : ∀ t, x = .ok t → t.arguments = ts.flatMap arguments
  renumber_eq : ∀ count : Nat,
    (x >>= fun t => renumber t.format count).toOption = (concatFormats count ts).toOption

theorem isConcat_singleton (t : Template) : IsConcat (.ok t) [t] := by
  constructor
  . intro t' h
    cases h
    simp
  . intro count
    rw [ok_bind, concatFormats]
    cases h : renumber t.format count <;> simp [concatFormats]

def mergeResults (x y : Except Error Template) : Except Error Template := do
  let current ← x
  let next ← y
  current.merge next

theorem toOption_mergeResults {x y : Except Error Template} {ts us : List Template}
    (hx : IsConcat x ts) (hy : IsConcat y us)
    : (mergeResults x y).toOption = (concat (ts ++ us)).toOption := by
  unfold mergeResults concat
  rw [concatFormats_append, Nat.zero_add]
  simp only [toOption_bind, ← hx.renumber_eq, ← hy.renumber_eq]
  cases x with
  | error e => rfl
  | ok current =>
    rw [← hx.arguments_eq current rfl]
    simp only [toOption_ok, Option.bind_some]
    cases y with
    | error e => simp
    | ok next =>
      rw [List.flatMap_append, ← hx.arguments_eq current rfl, ← hy.arguments_eq next rfl]
      simp only [merge, toOption_ok, Option.bind_some, toOption_bind, Option.bind_assoc]
      rfl

theorem toOption_concat_eq_none_iff {ts : List Template} :
    (concat ts).toOption = none ↔ (concatFormats 0 ts).toOption = none := by
  unfold concat
  cases concatFormats 0 ts <;> simp

theorem isConcat_mergeResults {x y : Except Error Template} {ts us : List Template}
    (hx : IsConcat x ts) (hy : IsConcat y us) : IsConcat (mergeResults x y) (ts ++ us) := by
  have hmerge := toOption_mergeResults hx hy
  constructor
  . intro t h
    obtain ⟨current, hcurrent, h⟩ := bind_eq_ok_iff.1 h
    obtain ⟨next, hnext, h⟩ := bind_eq_ok_iff.1 h
    rw [arguments_merge h, List.flatMap_append]
    rw [hx.arguments_eq current hcurrent, hy.arguments_eq next hnext]
  . intro count
    cases h : mergeResults x y with
    | error e =>
      rw [h, toOption_error, eq_comm, toOption_concat_eq_none_iff] at hmerge
      cases hcount : concatFormats count (ts ++ us) with
      | error e' => rfl
      | ok format =>
        -- Numbers that could be written behind `count` arguments could be written without them.
        obtain ⟨format', hformat'⟩ := exists_concatFormats_of_le (Nat.zero_le count) hcount
        rw [hformat'] at hmerge
        cases hmerge
    | ok merged =>
      obtain ⟨current, hcurrent, h⟩ := bind_eq_ok_iff.1 h
      obtain ⟨next, hnext, h⟩ := bind_eq_ok_iff.1 h
      obtain ⟨head, hhead, h⟩ := bind_eq_ok_iff.1 h
      obtain ⟨tail, htail, h⟩ := bind_eq_ok_iff.1 h
      cases h
      rw [ok_bind, renumber_append (by omega) (by omega) hhead htail, concatFormats_append]
      simp only [toOption_bind, ← hx.renumber_eq, ← hy.renumber_eq]
      rw [← hx.arguments_eq current hcurrent, hcurrent, hnext]
      simp only [toOption_ok, Option.bind_some]
      rw [Int.zero_add, ← Int.natCast_add, Nat.add_comm]

end Template

theorem Builder.map_build_add (x : Except Error Builder) (y : Except Error Template) :
    (do
      let builder ← x
      let next ← y
      builder.add next).map build = Template.mergeResults (x.map build) y := by
  cases x with
  | error e => rfl
  | ok builder =>
    cases y with
    | error e => rfl
    | ok next => exact build_add builder next

mutual

theorem Combination.isConcat_eval : (c : Combination) → Template.IsConcat c.eval c.fragments
  | .fragment t => Template.isConcat_singleton t
  | .merge first second | .plus first second =>
    Template.isConcat_mergeResults first.isConcat_eval second.isConcat_eval
  | .build b => b.isConcat_eval

theorem Assembly.isConcat_eval :
    (b : Assembly) → Template.IsConcat (b.eval.map Builder.build) b.fragments
  | .empty => Template.isConcat_singleton .empty
  | .fromTemplate c => by
    have h := c.isConcat_eval
    unfold Assembly.eval Assembly.fragments
    cases hc : c.eval <;> rw [hc] at h <;> exact h
  | .add b c => by
    unfold Assembly.eval Assembly.fragments
    rw [Builder.map_build_add]
    exact Template.isConcat_mergeResults b.isConcat_eval c.isConcat_eval

end

mutual

theorem Combination.toOption_eval :
    (c : Combination) → 2 ≤ c.fragments.length
      → c.eval.toOption = (Template.concat c.fragments).toOption
  | .fragment t, h => by simp [Combination.fragments] at h
  | .merge first second, _ | .plus first second, _ =>
    Template.toOption_mergeResults first.isConcat_eval second.isConcat_eval
  | .build b, h => b.toOption_eval h

theorem Assembly.toOption_eval :
    (b : Assembly) → 2 ≤ b.fragments.length
      → (b.eval.map Builder.build).toOption = (Template.concat b.fragments).toOption
  | .empty, h => by simp [Assembly.fragments] at h
  | .fromTemplate c, h => by
    have hc := c.toOption_eval h
    unfold Assembly.eval Assembly.fragments
    cases hx : c.eval <;> rw [hx] at hc <;> exact hc
  | .add b c, _ => by
    unfold Assembly.eval Assembly.fragments
    rw [Builder.map_build_add]
    exact Template.toOption_mergeResults b.isConcat_eval c.isConcat_eval

end

namespace Template

theorem compile_empty (keepBlanks : Bool) : empty.compile keepBlanks = .ok ⟨"", []⟩ := by
  cases keepBlanks <;> rfl

theorem joint_empty_left (a b : Template) (query : Text) (q : CompiledQuery) :
    joint a b ⟨"", query⟩ q = "" := by
  simp [joint]

theorem joint_empty_right (a b : Template) (q : CompiledQuery) (query : Text) :
    joint a b q ⟨"", query⟩ = "" := by
  simp [joint]

theorem compile_of_merge_empty {t merged : Template} {keepBlanks : Bool} {q : CompiledQuery}
    (hmerge : t.merge empty = .ok merged ∨ empty.merge t = .ok merged)
    (hq : t.compile keepBlanks = .ok q)
    : ∃ q', merged.compile keepBlanks = .ok q' ∧ q'.finalQuery = q.finalQuery := by
  have hempty := compile_empty keepBlanks
  rcases hmerge with hmerge | hmerge
  . obtain ⟨q', hq', hquery, _⟩ := compile_of_merge hq hempty hmerge
    refine ⟨q', hq', ?_⟩
    rw [hquery, joint_empty_right]
    simp
  . obtain ⟨q', hq', hquery, _⟩ := compile_of_merge hempty hq hmerge
    refine ⟨q', hq', ?_⟩
    rw [hquery, joint_empty_left]
    simp

end Template

/--
Two ways of putting the same fragments together give the same template, or none at all. So merging
is associative, and an empty template on either side of another makes no difference to the query.
-/
theorem Combination.eval_eq_of_fragments_eq :
    (∀ c d : Combination, c.fragments = d.fragments → 2 ≤ c.fragments.length →
        c.eval.toOption = d.eval.toOption
          ∧ c.eval.toOption = (Template.concat c.fragments).toOption)
      ∧ (∀ a b c : Template,
        (do (← a.merge b).merge c).toOption = (do a.merge (← b.merge c)).toOption)
      ∧ ∀ t merged : Template,
        t.merge .empty = .ok merged ∨ Template.empty.merge t = .ok merged
            ∨ (Builder.empty.add t).map Builder.build = .ok merged
          → ∀ keepBlanks q, t.compile keepBlanks = .ok q
            → ∃ q', merged.compile keepBlanks = .ok q' ∧ q'.finalQuery = q.finalQuery := by
  refine ⟨?_, ?_, ?_⟩
  . intro c d hfragments hlength
    have hc := c.toOption_eval hlength
    rw [hfragments] at hlength
    rw [hc, d.toOption_eval hlength, hfragments]
    exact ⟨rfl, rfl⟩
  . intro a b c
    have hleft := toOption_eval (.merge (.merge (.fragment a) (.fragment b)) (.fragment c))
      (by simp [fragments])
    have hright := toOption_eval (.merge (.fragment a) (.merge (.fragment b) (.fragment c)))
      (by simp [fragments])
    exact hleft.trans hright.symm
  . intro t merged hmerge keepBlanks q hq
    have hbuild : Builder.empty.build = Template.empty := rfl
    rw [Builder.build_add, hbuild, or_self] at hmerge
    exact Template.compile_of_merge_empty hmerge hq

theorem Combination.eval_eq_filters :
    (eval (.merge (.fragment ⟨"A = \x7b\x7d", [.text "x"]⟩)
          (.plus (.fragment ⟨" OR B", []⟩) (.fragment ⟨" < \x7b00\x7d", [.int 5 none]⟩)))).toOption
        = (eval (.build (.add
          (.add (.fromTemplate (.fragment ⟨"A = \x7b\x7d", [.text "x"]⟩)) (.fragment ⟨" OR B", []⟩))
          (.fragment ⟨" < \x7b00\x7d", [.int 5 none]⟩)))).toOption
      ∧ ∃ q, Template.compile false ⟨"A = \x7b0\x7d", [.text "x"]⟩ = .ok q
        ∧ q.finalQuery = "A = 'x'" := by
  obtain ⟨hfragments, _, hempty⟩ := eval_eq_of_fragments_eq
  constructor
  . refine (hfragments _ _ ?_ ?_).left
    . rfl
    . decide
  . have hquery : Template.compile false ⟨"A = \x7b\x7d", [.text "x"]⟩
        = .ok ⟨"A = \x7b0\x7d", "A = 'x'"⟩ :=
      toOption_eq_some_iff.1 (by decide +kernel)
    have hhead : renumber "" 0 = .ok "" :=
      toOption_eq_some_iff.1 (by decide +kernel)
    have htail : renumber "A = \x7b\x7d" 0 = .ok "A = \x7b0\x7d" :=
      toOption_eq_some_iff.1 (by decide +kernel)
    refine hempty ⟨"A = \x7b\x7d", [.text "x"]⟩ _ (.inr (.inr ?_)) false _ hquery
    rw [Builder.build_add]
    simp [Builder.build, Builder.empty, Template.empty, Template.merge, hhead, htail]

end Soql
