import Soql.Proofs.Query.Plan
import Soql.Proofs.Query.Parts

/-!
This module contains which values and templates have a query, and the error for each of those that
have none.
-/

namespace Soql

def Value.hasRule : Value → Bool
  | .octets .. | .table .. | .builder .. | .compiled .. | .foreign .. => false
  | _ => true

/--
Whether the pattern of a placeholder, if there is one, applies to the argument, if that heeds it.
-/
def Placeholder.Applies (arguments : List Value) (p : Placeholder) : Prop :=
  ∀ v, arguments[p.index.toNat]? = some v → p.spec ≠ [] → v.heedsPattern = true
    → ∃ text, v.patterned? (String.ofList p.spec) = some (.ok text)

mutual

inductive Value.Escapable : Value → Prop where
  | null : Value.Escapable .null
  | bool {b : Bool} : Value.Escapable (.bool b)
  | int {n : Int} {label : Option Label} (h : isWritable n = true) : Value.Escapable (.int n label)
  | float {x : Binary64} {label : Option Label} (h : x.isFinite = true)
    : Value.Escapable (.float x label)
  | decimal {d : Decimal} (h : d.isFinite = true) : Value.Escapable (.decimal d)
  | date {d : Date} : Value.Escapable (.date d)
  | dateTime {d : DateTime} : Value.Escapable (.dateTime d)
  | text {t : Text} : Value.Escapable (.text t)
  | wrappedText {t : Text} : Value.Escapable (.wrappedText t)
  | fragment {t : Text} : Value.Escapable (.fragment t)
  | phrase {t : Text} : Value.Escapable (.phrase t)
  | template {format : String} {arguments : List Value}
    (h : Template.Compilable ⟨format, arguments⟩) : Value.Escapable (.template format arguments)
  | sequence {kind : SequenceKind} {items : List Value} (h : ∀ v ∈ items, Value.Escapable v)
    : Value.Escapable (.sequence kind items)
  | range {start stop step : Int}
    (h : ∀ n ∈ Value.rangeItems start stop step, isWritable n = true)
    : Value.Escapable (.range start stop step)

inductive Template.Compilable : Template → Prop where
  | intro {t : Template} {segments : List Segment}
    (readable : Segment.parse t.format = .ok segments)
    (supplied : ∀ p ∈ Token.holes (Segment.tokensAll segments), p.index < t.arguments.length)
    (escapable : ∀ v ∈ t.arguments, Value.Escapable v)
    (applies : ∀ p ∈ Token.holes (Segment.tokensAll segments), p.Applies t.arguments)
    : Template.Compilable t

end

mutual

inductive Value.FailsWith : Value → Error → Prop where
  | int {n : Int} {label : Option Label} (h : isWritable n = false)
    : Value.FailsWith (.int n label) .integerTooLong
  | float {x : Binary64} {label : Option Label} (h : x.isFinite = false)
    : Value.FailsWith (.float x label) (Value.notFinite label x)
  | decimal {d : Decimal} (h : d.isFinite = false)
    : Value.FailsWith (.decimal d) (.unescapable "Decimal" (.notFinite d.shown))
  | template {format : String} {arguments : List Value} {e : Error}
    (h : Template.FailsWith ⟨format, arguments⟩ e) : Value.FailsWith (.template format arguments) e
  | sequence {kind : SequenceKind} {items before after : List Value} {v : Value} {e : Error}
    (split : items = before ++ v :: after) (escapable : ∀ w ∈ before, w.Escapable)
    (fails : Value.FailsWith v e)
    : Value.FailsWith (.sequence kind items) e
  | range {start stop step n : Int} (mem : n ∈ Value.rangeItems start stop step)
    (h : isWritable n = false)
    : Value.FailsWith (.range start stop step) .integerTooLong
  | cycle {kind : ExtensibleKind} {items before after : List Value} {v : Value} {e : Error}
    (split : items = before ++ v :: after) (escapable : ∀ w ∈ before, w.Escapable)
    (fails : Value.FailsWith v e)
    : Value.FailsWith (.cycle kind items) e
  | containsItself {kind : ExtensibleKind} {items : List Value} (h : ∀ v ∈ items, v.Escapable)
    : Value.FailsWith (.cycle kind items) (.unescapable kind.toSequenceKind.name .containsItself)
  | withoutRule {v : Value} (h : v.hasRule = false)
    : Value.FailsWith v (.unescapable v.kind .withoutRule)

/--
Why a template is not compilable. Each reason takes for granted that none of those above it applies,
here or further to the left.
-/
inductive Template.FailsWith : Template → Error → Prop where
  | unreadable {t : Template} {e : Error} (h : Segment.parse t.format = .error e)
    : Template.FailsWith t e
  | noArgument {t : Template} {segments : List Segment} {before after : List Placeholder}
    {p : Placeholder}
    (readable : Segment.parse t.format = .ok segments)
    (split : Token.holes (Segment.tokensAll segments) = before ++ p :: after)
    (supplied : ∀ q ∈ before, q.index < t.arguments.length)
    (fails : t.arguments.length ≤ p.index)
    : Template.FailsWith t (.badFormat t.format (.noArgument p.index t.arguments.length))
  | argument {t : Template} {segments : List Segment} {before after : List Value} {v : Value}
    {e : Error}
    (readable : Segment.parse t.format = .ok segments)
    (supplied : ∀ p ∈ Token.holes (Segment.tokensAll segments), p.index < t.arguments.length)
    (split : t.arguments = before ++ v :: after)
    (escapable : ∀ w ∈ before, w.Escapable)
    (fails : Value.FailsWith v e)
    : Template.FailsWith t e
  | pattern {t : Template} {segments : List Segment} {before after : List Placeholder}
    {p : Placeholder} {v : Value} {e : Error}
    (readable : Segment.parse t.format = .ok segments)
    (supplied : ∀ p ∈ Token.holes (Segment.tokensAll segments), p.index < t.arguments.length)
    (escapable : ∀ v ∈ t.arguments, v.Escapable)
    (split : Token.holes (Segment.tokensAll segments) = before ++ p :: after)
    (applies : ∀ q ∈ before, q.Applies t.arguments)
    (argument : t.arguments[p.index.toNat]? = some v)
    (spec : p.spec ≠ [])
    (fails : v.patterned? (String.ofList p.spec) = some (.error e))
    : Template.FailsWith t e

end

namespace Plan

variable {bindings : List (Value × Text)}

theorem exists_fill_iff {ts : List Token} :
    (∃ text, fill bindings ts = .ok text)
      ↔ ∀ p ∈ Token.holes ts, ∃ s, substitute bindings p = .ok s := by
  induction ts with
  | nil => simp [fill]
  | cons t ts ih =>
    cases t with
    | char c =>
      rw [Token.holes_char, ← ih, fill]
      cases fill bindings ts <;> simp
    | hole p =>
      rw [Token.holes_hole, List.forall_mem_cons, ← ih, fill]
      cases substitute bindings p with
      | error e => simp
      | ok s => cases fill bindings ts <;> simp

theorem fill_eq_error_iff {ts : List Token} {e : Error} :
    fill bindings ts = .error e ↔ FirstError (substitute bindings) (Token.holes ts) e := by
  induction ts with
  | nil => simp [fill, not_firstError_nil]
  | cons t ts ih =>
    cases t with
    | char c =>
      rw [Token.holes_char, ← ih, fill]
      cases fill bindings ts <;> simp
    | hole p =>
      rw [Token.holes_hole, firstError_cons, ← ih, fill]
      cases substitute bindings p with
      | error e => simp
      | ok s => cases fill bindings ts <;> simp

section

variable {arguments : List Value} {escaped : List Text} {p : Placeholder}

theorem substitute_zip (hlength : escaped.length = arguments.length) (hnonneg : 0 ≤ p.index)
    (hsupplied : p.index < arguments.length)
    : ∃ v s, arguments[p.index.toNat]? = some v
        ∧ substitute (arguments.zip escaped) p
          = if p.spec.isEmpty then .ok s
            else (v.patterned? (String.ofList p.spec)).getD (.ok s) := by
  have hindex : p.index.toNat < arguments.length := by omega
  have hindex' : p.index.toNat < escaped.length := by omega
  have hzip : (arguments.zip escaped)[p.index.toNat]?
      = some (arguments[p.index.toNat], escaped[p.index.toNat]) := by
    rw [List.getElem?_zip_eq_some]
    exact ⟨List.getElem?_eq_getElem hindex, List.getElem?_eq_getElem hindex'⟩
  refine ⟨_, escaped[p.index.toNat], List.getElem?_eq_getElem hindex, ?_⟩
  unfold substitute
  rw [hzip]

theorem exists_substitute_iff (hlength : escaped.length = arguments.length)
    (hnonneg : 0 ≤ p.index) (hsupplied : p.index < arguments.length)
    : (∃ s, substitute (arguments.zip escaped) p = .ok s) ↔ p.Applies arguments := by
  obtain ⟨v, s, hv, hsubstitute⟩ := substitute_zip hlength hnonneg hsupplied
  have hsome := v.isSome_patterned? (String.ofList p.spec)
  rw [hsubstitute]
  unfold Placeholder.Applies
  rw [hv]
  by_cases hspec : p.spec = []
  . simp [hspec]
  . cases hpattern : v.patterned? (String.ofList p.spec) with
    | none =>
      rw [hpattern] at hsome
      simp [hspec, ← hsome]
    | some result =>
      rw [hpattern] at hsome
      simp [hspec, hpattern, ← hsome]

theorem substitute_eq_error_iff (hlength : escaped.length = arguments.length)
    (hnonneg : 0 ≤ p.index) (hsupplied : p.index < arguments.length) {e : Error}
    : substitute (arguments.zip escaped) p = .error e
        ↔ ∃ v, arguments[p.index.toNat]? = some v ∧ p.spec ≠ []
          ∧ v.patterned? (String.ofList p.spec) = some (.error e) := by
  obtain ⟨v, s, hv, hsubstitute⟩ := substitute_zip hlength hnonneg hsupplied
  rw [hsubstitute, hv]
  by_cases hspec : p.spec = []
  . simp [hspec]
  . cases hpattern : v.patterned? (String.ofList p.spec) with
    | none => simp [hspec, hpattern]
    | some result => simp [hspec, hpattern]

end

theorem missing?_eq_some_iff {supplied : Nat} {segments : List Segment} {index : Int} :
    missing? supplied segments = some index
      ↔ ∃ (before : List Placeholder) (p : Placeholder) (after : List Placeholder),
        Token.holes (Segment.tokensAll segments) = before ++ p :: after
          ∧ (∀ q ∈ before, q.index < supplied) ∧ supplied ≤ p.index ∧ p.index = index := by
  rw [missing?_eq, List.find?_map, Option.map_eq_some_iff]
  constructor
  . rintro ⟨p, hp, hindex⟩
    rw [List.find?_eq_some_iff_append] at hp
    obtain ⟨hp, before, after, hsplit, hbefore⟩ := hp
    refine ⟨before, p, after, hsplit, ?_, by simpa using hp, hindex⟩
    intro q hq
    simpa using hbefore q hq
  . rintro ⟨before, p, after, hsplit, hbefore, hp, hindex⟩
    refine ⟨p, ?_, hindex⟩
    rw [List.find?_eq_some_iff_append]
    refine ⟨by simpa using hp, before, after, hsplit, ?_⟩
    intro q hq
    simpa using hbefore q hq

end Plan

theorem exists_escapeAll_iff {keepBlanks : Bool} {vs : List Value} :
    (∃ texts, escapeAll keepBlanks vs = .ok texts)
      ↔ ∀ v ∈ vs, ∃ s, escape keepBlanks v = .ok s := by
  induction vs with
  | nil => simp [escapeAll]
  | cons v vs ih =>
    rw [List.forall_mem_cons, ← ih, escapeAll]
    cases escape keepBlanks v with
    | error e => simp
    | ok s => cases escapeAll keepBlanks vs <;> simp

theorem escapeAll_eq_error_iff {keepBlanks : Bool} {vs : List Value} {e : Error} :
    escapeAll keepBlanks vs = .error e ↔ FirstError (escape keepBlanks) vs e := by
  induction vs with
  | nil => simp [escapeAll, not_firstError_nil]
  | cons v vs ih =>
    rw [firstError_cons, ← ih, escapeAll]
    cases escape keepBlanks v with
    | error e => simp
    | ok s => cases escapeAll keepBlanks vs <;> simp

theorem Template.compile_eq_error_iff {keepBlanks : Bool} {t : Template} {e : Error} :
    t.compile keepBlanks = .error e
      ↔ Segment.parse t.format = .error e
        ∨ ∃ segments, Segment.parse t.format = .ok segments
          ∧ ((∃ index, Plan.missing? t.arguments.length segments = some index
              ∧ .badFormat t.format (.noArgument index t.arguments.length) = e)
            ∨ Plan.missing? t.arguments.length segments = none
              ∧ (escapeAll keepBlanks t.arguments = .error e
                ∨ ∃ escaped, escapeAll keepBlanks t.arguments = .ok escaped
                  ∧ Plan.fill (t.arguments.zip escaped)
                    (Plan.layout keepBlanks (Segment.tokensAll segments)) = .error e)) := by
  rw [compile_eq, bind_eq_error_iff]
  apply or_congr_right
  apply exists_congr
  intro segments
  apply and_congr_right
  intro hparse
  cases Plan.missing? t.arguments.length segments with
  | some index => simp
  | none =>
    simp only [bind_eq_error_iff]
    simp

namespace Value

structure IsDecided (keepBlanks : Bool) (v : Value) : Prop where
  ok_iff : (∃ s, escape keepBlanks v = .ok s) ↔ v.Escapable
  error_iff : ∀ e, escape keepBlanks v = .error e ↔ v.FailsWith e

variable {keepBlanks : Bool} {v : Value}

theorem isDecided_of_ok {t : Text} (hok : escape keepBlanks v = .ok t) (hv : v.Escapable)
    (hfails : ∀ e, ¬v.FailsWith e)
    : IsDecided keepBlanks v := by
  constructor
  . simp [hok, hv]
  . simp [hok, hfails]

theorem isDecided_of_error {e : Error} (herror : escape keepBlanks v = .error e)
    (hv : ¬v.Escapable) (hfails : v.FailsWith e) (hunique : ∀ e', v.FailsWith e' → e = e')
    : IsDecided keepBlanks v := by
  constructor
  . simp [herror, hv]
  . intro e'
    rw [herror, Except.error.injEq]
    constructor
    . rintro rfl
      exact hfails
    . exact hunique e'

theorem isDecided_withoutRule (h : v.hasRule = false) : IsDecided keepBlanks v := by
  have herror : escape keepBlanks v = .error (.unescapable v.kind .withoutRule) := by
    unfold hasRule at h
    split at h
    . rfl
    . rfl
    . rfl
    . rfl
    . rfl
    . cases h
  apply isDecided_of_error herror
  . intro hv
    cases hv <;> cases h
  . exact .withoutRule h
  . intro e he
    cases he with
    | withoutRule => rfl
    | _ => cases h

theorem isDecided_of_check (passes : Bool) (e : Error)
    (hok : passes = true → ∃ s, escape keepBlanks v = .ok s)
    (herror : passes = false → escape keepBlanks v = .error e)
    (hescapable : v.Escapable ↔ passes = true)
    (hfails : ∀ e', v.FailsWith e' ↔ passes = false ∧ e = e')
    : IsDecided keepBlanks v := by
  cases passes with
  | true =>
    obtain ⟨s, hs⟩ := hok rfl
    apply isDecided_of_ok hs
    . exact hescapable.2 rfl
    . simp [hfails]
  | false =>
    apply isDecided_of_error (herror rfl)
    . simp [hescapable]
    . exact (hfails e).2 ⟨rfl, rfl⟩
    . intro e' he
      exact ((hfails e').1 he).right

theorem isDecided_int (n : Int) (label : Option Label) : IsDecided keepBlanks (.int n label) := by
  apply isDecided_of_check (isWritable n) .integerTooLong
  . intro h
    simp only [escape, intLiteral, h]
    exact ⟨_, rfl⟩
  . intro h
    simp only [escape, intLiteral, h]
    rfl
  . constructor
    . intro hv
      cases hv with
      | int h => exact h
    . exact .int
  . intro e
    constructor
    . intro he
      cases he with
      | int h => exact ⟨h, rfl⟩
      | withoutRule h => cases h
    . rintro ⟨h, rfl⟩
      exact .int h

theorem isDecided_float (x : Binary64) (label : Option Label) :
    IsDecided keepBlanks (.float x label) := by
  apply isDecided_of_check x.isFinite (notFinite label x)
  . intro h
    simp only [escape, floatLiteral, h]
    exact ⟨_, rfl⟩
  . intro h
    simp only [escape, floatLiteral, h]
    rfl
  . constructor
    . intro hv
      cases hv with
      | float h => exact h
    . exact .float
  . intro e
    constructor
    . intro he
      cases he with
      | float h => exact ⟨h, rfl⟩
      | withoutRule h => cases h
    . rintro ⟨h, rfl⟩
      exact .float h

theorem isDecided_decimal (d : Decimal) : IsDecided keepBlanks (.decimal d) := by
  apply isDecided_of_check d.isFinite (.unescapable "Decimal" (.notFinite d.shown))
  . intro h
    cases d with
    | finite negative coefficient exponent => exact ⟨_, rfl⟩
    | _ => cases h
  . intro h
    show decimalLiteral d = .error (.unescapable "Decimal" (.notFinite d.shown))
    unfold decimalLiteral
    split
    . cases h
    . rfl
  . constructor
    . intro hv
      cases hv with
      | decimal h => exact h
    . exact .decimal
  . intro e
    constructor
    . intro he
      cases he with
      | decimal h => exact ⟨h, rfl⟩
      | withoutRule h => cases h
    . rintro ⟨h, rfl⟩
      exact .decimal h

section

variable {vs : List Value} (hvs : ∀ v ∈ vs, IsDecided keepBlanks v)
include hvs

theorem exists_escapeAll_iff_escapable :
    (∃ texts, escapeAll keepBlanks vs = .ok texts) ↔ ∀ v ∈ vs, v.Escapable := by
  rw [exists_escapeAll_iff]
  apply forall₂_congr
  intro v hv
  exact (hvs v hv).ok_iff

theorem escapeAll_eq_error_iff_failsWith {e : Error} :
    escapeAll keepBlanks vs = .error e
      ↔ ∃ before v after, vs = before ++ v :: after ∧ (∀ w ∈ before, w.Escapable)
        ∧ v.FailsWith e := by
  rw [escapeAll_eq_error_iff]
  constructor
  . rintro ⟨before, v, after, rfl, hbefore, herror⟩
    refine ⟨before, v, after, rfl, ?_, ?_⟩
    . intro w hw
      exact (hvs w (by simp [hw])).ok_iff.1 (hbefore w hw)
    . exact ((hvs v (by simp)).error_iff e).1 herror
  . rintro ⟨before, v, after, rfl, hbefore, hfails⟩
    refine ⟨before, v, after, rfl, ?_, ?_⟩
    . intro w hw
      exact (hvs w (by simp [hw])).ok_iff.2 (hbefore w hw)
    . exact ((hvs v (by simp)).error_iff e).2 hfails

end

theorem isDecided_range (start stop step : Int) :
    IsDecided keepBlanks (.range start stop step) := by
  have hitems : ∀ v ∈ (rangeItems start stop step).map fun n => int n none,
      IsDecided keepBlanks v := by
    intro v hv
    obtain ⟨n, _, rfl⟩ := List.mem_map.1 hv
    exact isDecided_int n none
  -- A range is written like the list of its numbers.
  have hall := exists_escapeAll_iff_escapable hitems
  have hfirst := @escapeAll_eq_error_iff_failsWith _ _ hitems
  rw [escapeAll_map_int] at hall
  simp only [escapeAll_map_int] at hfirst
  cases h : (rangeItems start stop step).mapM intLiteral with
  | ok texts =>
    have hwritable : ∀ n ∈ rangeItems start stop step, isWritable n = true := by
      intro n hn
      have hn := hall.1 ⟨texts, h⟩ (.int n none) (List.mem_map_of_mem hn)
      cases hn with
      | int h => exact h
    apply isDecided_of_ok
    . simp only [escape, h]
      rfl
    . exact .range hwritable
    . intro e he
      cases he with
      | range hmem h' => simp [hwritable _ hmem] at h'
      | withoutRule h' => cases h'
  | error e =>
    obtain ⟨before, v, after, hsplit, _, hfails⟩ := hfirst.1 h
    obtain ⟨n, hn, rfl⟩ := List.mem_map.1 (hsplit ▸ List.mem_append_cons_self : v ∈ _)
    cases hfails with
    | withoutRule h' => cases h'
    | int h' =>
      apply isDecided_of_error
      . simp only [escape, h]
        rfl
      . intro hv
        cases hv with
        | range hwritable => simp [hwritable n hn] at h'
      . exact .range hn h'
      . intro e he
        cases he with
        | range => rfl
        | withoutRule h' => cases h'

theorem isDecided_sequence {kind : SequenceKind} {items : List Value}
    (hitems : ∀ v ∈ items, IsDecided keepBlanks v)
    : IsDecided keepBlanks (.sequence kind items) := by
  have hall := exists_escapeAll_iff_escapable hitems
  have hfirst := @escapeAll_eq_error_iff_failsWith _ _ hitems
  constructor
  . rw [escape]
    constructor
    . rintro ⟨s, hs⟩
      obtain ⟨texts, htexts, _⟩ := bind_eq_ok_iff.1 hs
      exact .sequence (hall.1 ⟨texts, htexts⟩)
    . intro hv
      cases hv with
      | sequence h =>
        obtain ⟨texts, htexts⟩ := hall.2 h
        exact ⟨sequenceText texts, by rw [htexts]; rfl⟩
  . intro e
    rw [escape, bind_eq_error_iff]
    constructor
    . rintro (h | ⟨texts, _, h⟩)
      . obtain ⟨before, v, after, hsplit, hbefore, hfails⟩ := hfirst.1 h
        exact .sequence hsplit hbefore hfails
      . cases h
    . intro hfails
      cases hfails with
      | sequence hsplit hbefore hfails => exact .inl (hfirst.2 ⟨_, _, _, hsplit, hbefore, hfails⟩)
      | withoutRule h => cases h

theorem isDecided_cycle {kind : ExtensibleKind} {items : List Value}
    (hitems : ∀ v ∈ items, IsDecided keepBlanks v)
    : IsDecided keepBlanks (.cycle kind items) := by
  have hall := exists_escapeAll_iff_escapable hitems
  have hfirst := @escapeAll_eq_error_iff_failsWith _ _ hitems
  constructor
  . rw [escape]
    constructor
    . rintro ⟨s, hs⟩
      obtain ⟨texts, _, h⟩ := bind_eq_ok_iff.1 hs
      cases h
    . intro hv
      cases hv
  . intro e
    rw [escape, bind_eq_error_iff]
    constructor
    . rintro (h | ⟨texts, htexts, h⟩)
      . obtain ⟨before, v, after, hsplit, hbefore, hfails⟩ := hfirst.1 h
        exact .cycle hsplit hbefore hfails
      . cases h
        exact .containsItself (hall.1 ⟨texts, htexts⟩)
    . intro hfails
      cases hfails with
      | cycle hsplit hbefore hfails => exact .inl (hfirst.2 ⟨_, _, _, hsplit, hbefore, hfails⟩)
      | containsItself h =>
        obtain ⟨texts, htexts⟩ := hall.2 h
        exact .inr ⟨texts, htexts, rfl⟩
      | withoutRule h => cases h

end Value

namespace Template

variable {keepBlanks : Bool} {t : Template}

theorem exists_compile_iff (h : ∀ v ∈ t.arguments, v.IsDecided keepBlanks) :
    (∃ q, t.compile keepBlanks = .ok q) ↔ t.Compilable := by
  have hall := Value.exists_escapeAll_iff_escapable h
  constructor
  . rintro ⟨q, hq⟩
    obtain ⟨segments, escaped, text, ⟨hparse, hsupplied, hescaped, hfill⟩, _⟩ :=
      compile_eq_ok_iff.1 hq
    have hlength := length_escapeAll hescaped
    refine .intro hparse hsupplied (hall.1 ⟨escaped, hescaped⟩) ?_
    intro p hp
    have hnonneg := (Segment.isValid_of_parse hparse p hp).index_nonneg
    rw [← Plan.exists_substitute_iff hlength hnonneg (hsupplied p hp)]
    rw [← Plan.holes_layout keepBlanks] at hp
    exact Plan.exists_fill_iff.1 ⟨text, hfill⟩ p hp
  . rintro ⟨hparse, hsupplied, hescapable, happlies⟩
    obtain ⟨escaped, hescaped⟩ := hall.2 hescapable
    have hlength := length_escapeAll hescaped
    have hfill := (@Plan.exists_fill_iff (t.arguments.zip escaped)
      (Plan.layout keepBlanks (Segment.tokensAll _))).2 (by
        intro p hp
        rw [Plan.holes_layout] at hp
        have hnonneg := (Segment.isValid_of_parse hparse p hp).index_nonneg
        rw [Plan.exists_substitute_iff hlength hnonneg (hsupplied p hp)]
        exact happlies p hp)
    obtain ⟨text, htext⟩ := hfill
    exact ⟨_, compile_eq_ok_iff.2 ⟨_, escaped, text, ⟨hparse, hsupplied, hescaped, htext⟩, rfl⟩⟩

theorem fill_eq_error_iff {segments : List Segment} {escaped : List Text}
    (hparse : Segment.parse t.format = .ok segments)
    (hsupplied : ∀ p ∈ Token.holes (Segment.tokensAll segments), p.index < t.arguments.length)
    (hlength : escaped.length = t.arguments.length) {e : Error}
    : Plan.fill (t.arguments.zip escaped) (Plan.layout keepBlanks (Segment.tokensAll segments))
          = .error e
        ↔ ∃ before p after v, Token.holes (Segment.tokensAll segments) = before ++ p :: after
          ∧ (∀ q ∈ before, q.Applies t.arguments) ∧ t.arguments[p.index.toNat]? = some v
          ∧ p.spec ≠ [] ∧ v.patterned? (String.ofList p.spec) = some (.error e) := by
  have hvalid := Segment.isValid_of_parse hparse
  have happlies (q : Placeholder) (hq : q ∈ Token.holes (Segment.tokensAll segments)) :=
    Plan.exists_substitute_iff hlength (hvalid q hq).index_nonneg (hsupplied q hq)
  have hfails (q : Placeholder) (hq : q ∈ Token.holes (Segment.tokensAll segments)) :=
    @Plan.substitute_eq_error_iff _ _ _ hlength (hvalid q hq).index_nonneg (hsupplied q hq) e
  rw [Plan.fill_eq_error_iff, Plan.holes_layout]
  constructor
  . rintro ⟨before, p, after, hsplit, hbefore, herror⟩
    rw [hsplit] at happlies hfails
    obtain ⟨v, hv, hspec, hpattern⟩ := (hfails p (by simp)).1 herror
    refine ⟨before, p, after, v, hsplit, ?_, hv, hspec, hpattern⟩
    intro q hq
    exact (happlies q (by simp [hq])).1 (hbefore q hq)
  . rintro ⟨before, p, after, v, hsplit, hbefore, hv, hspec, hpattern⟩
    rw [hsplit] at happlies hfails
    refine ⟨before, p, after, hsplit, ?_, (hfails p (by simp)).2 ⟨v, hv, hspec, hpattern⟩⟩
    intro q hq
    exact (happlies q (by simp [hq])).2 (hbefore q hq)

theorem compile_eq_error_iff_failsWith (h : ∀ v ∈ t.arguments, v.IsDecided keepBlanks)
    {e : Error} : t.compile keepBlanks = .error e ↔ t.FailsWith e := by
  have hall := Value.exists_escapeAll_iff_escapable h
  have hfirst := @Value.escapeAll_eq_error_iff_failsWith _ _ h
  rw [compile_eq_error_iff]
  constructor
  . rintro (hparse | ⟨segments, hparse, ⟨index, hmissing, rfl⟩ | ⟨hmissing, herror⟩⟩)
    . exact .unreadable hparse
    . obtain ⟨before, p, after, hsplit, hbefore, hp, rfl⟩ := Plan.missing?_eq_some_iff.1 hmissing
      exact .noArgument hparse hsplit hbefore hp
    . have hsupplied := Plan.missing?_eq_none_iff.1 hmissing
      rcases herror with herror | ⟨escaped, hescaped, herror⟩
      . obtain ⟨before, v, after, hsplit, hbefore, hfails⟩ := hfirst.1 herror
        exact .argument hparse hsupplied hsplit hbefore hfails
      . rw [fill_eq_error_iff hparse hsupplied (length_escapeAll hescaped)] at herror
        obtain ⟨before, p, after, v, hsplit, hbefore, hv, hspec, hpattern⟩ := herror
        have hescapable := hall.1 ⟨escaped, hescaped⟩
        exact .pattern hparse hsupplied hescapable hsplit hbefore hv hspec hpattern
  . intro hfails
    cases hfails with
    | unreadable hparse => exact .inl hparse
    | noArgument hparse hsplit hbefore hp =>
      refine .inr ⟨_, hparse, .inl ⟨_, ?_, rfl⟩⟩
      exact Plan.missing?_eq_some_iff.2 ⟨_, _, _, hsplit, hbefore, hp, rfl⟩
    | argument hparse hsupplied hsplit hbefore hfails =>
      refine .inr ⟨_, hparse, .inr ⟨Plan.missing?_eq_none_iff.2 hsupplied, .inl ?_⟩⟩
      exact hfirst.2 ⟨_, _, _, hsplit, hbefore, hfails⟩
    | pattern hparse hsupplied hescapable hsplit hbefore hv hspec hpattern =>
      obtain ⟨escaped, hescaped⟩ := hall.2 hescapable
      refine .inr ⟨_, hparse, .inr ⟨Plan.missing?_eq_none_iff.2 hsupplied, .inr ⟨_, hescaped, ?_⟩⟩⟩
      rw [fill_eq_error_iff hparse hsupplied (length_escapeAll hescaped)]
      exact ⟨_, _, _, _, hsplit, hbefore, hv, hspec, hpattern⟩

end Template

namespace Value

variable {keepBlanks : Bool}

theorem isDecided_template {format : String} {arguments : List Value}
    (h : ∀ v ∈ arguments, v.IsDecided keepBlanks) :
    IsDecided keepBlanks (.template format arguments) := by
  have hok := @Template.exists_compile_iff keepBlanks ⟨format, arguments⟩ h
  have herror := @Template.compile_eq_error_iff_failsWith keepBlanks ⟨format, arguments⟩ h
  constructor
  . rw [escape_template]
    simp only [map_eq_ok_iff]
    constructor
    . rintro ⟨s, q, hq, _⟩
      exact .template (hok.1 ⟨q, hq⟩)
    . intro hv
      cases hv with
      | template h =>
        obtain ⟨q, hq⟩ := hok.2 h
        exact ⟨q.finalQuery, q, hq, rfl⟩
  . intro e
    rw [escape_template, map_eq_error_iff, herror]
    constructor
    . exact .template
    . intro hfails
      cases hfails with
      | template h => exact h
      | withoutRule h => cases h

theorem isDecided (keepBlanks : Bool) (v : Value) : IsDecided keepBlanks v := by
  induction v using induct with
  | h v ih =>
    cases v with
    | null => exact isDecided_of_ok rfl .null (by rintro e ⟨⟩; contradiction)
    | bool b => exact isDecided_of_ok rfl .bool (by rintro e ⟨⟩; contradiction)
    | int n label => exact isDecided_int n label
    | float x label => exact isDecided_float x label
    | decimal d => exact isDecided_decimal d
    | date d => exact isDecided_of_ok rfl .date (by rintro e ⟨⟩; contradiction)
    | dateTime d => exact isDecided_of_ok rfl .dateTime (by rintro e ⟨⟩; contradiction)
    | text s => exact isDecided_of_ok rfl .text (by rintro e ⟨⟩; contradiction)
    | wrappedText s => exact isDecided_of_ok rfl .wrappedText (by rintro e ⟨⟩; contradiction)
    | fragment s => exact isDecided_of_ok rfl .fragment (by rintro e ⟨⟩; contradiction)
    | phrase s => exact isDecided_of_ok rfl .phrase (by rintro e ⟨⟩; contradiction)
    | template format arguments => exact isDecided_template ih
    | sequence kind items => exact isDecided_sequence ih
    | range start stop step => exact isDecided_range start stop step
    | cycle kind items => exact isDecided_cycle ih
    | _ => exact isDecided_withoutRule rfl

end Value

/--
Compilation is decided by the template alone: whether there is a query, and the error if not. So is
what becomes of a value.
-/
theorem Template.compile_decided (keepBlanks : Bool) (t : Template) :
    ((∃ q, t.compile keepBlanks = .ok q) ↔ t.Compilable)
      ∧ (∀ e, t.compile keepBlanks = .error e ↔ t.FailsWith e)
      ∧ ∀ v, ((∃ s, escape keepBlanks v = .ok s) ↔ v.Escapable)
        ∧ ∀ e, escape keepBlanks v = .error e ↔ v.FailsWith e := by
  have h := Value.isDecided keepBlanks
  refine ⟨?_, ?_, ?_⟩
  . exact exists_compile_iff fun v _ => h v
  . intro e
    exact compile_eq_error_iff_failsWith fun v _ => h v
  . intro v
    exact ⟨(h v).ok_iff, (h v).error_iff⟩

end Soql
