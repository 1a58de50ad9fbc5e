import Soql.Proofs.Query.Enclosed
import Soql.Proofs.Query.Isolation

/-!
This module contains how a sequence is read back from a query: its items are what lies between the
commas in its own parentheses. A comma or a parenthesis inside of an item is in a string literal or
in further parentheses.
-/

namespace Soql

structure Nesting where
  /-- How many parentheses are open. -/
  depth : Int
  /-- In a string literal, whether a backslash stands in front. -/
  literal : Option Bool
  deriving DecidableEq

namespace Nesting

def outside (depth : Int) : Nesting :=
  ⟨depth, none⟩

def inLiteral (depth : Int) : Nesting :=
  ⟨depth, some false⟩

def step (n : Nesting) (s : Symbol) : Nesting :=
  match n.literal with
  | none =>
    if s = .char '\'' then inLiteral n.depth
    else if s = .char '(' then outside (n.depth + 1)
    else if s = .char ')' then outside (n.depth - 1)
    else n
  | some true => inLiteral n.depth
  | some false =>
    if s = .char '\\' then { n with literal := some true }
    else if s = .char '\'' then outside n.depth
    else n

def run (n : Nesting) (t : Text) : Nesting :=
  t.foldl step n

def trace : Nesting → Text → List (Nesting × Symbol)
  | _, [] => []
  | n, s :: t => (n, s) :: (n.step s).trace t

def separates (depth : Int) (n : Nesting) (s : Symbol) : Bool :=
  s == .char ',' && n == outside depth

def splitAt (depth : Int) : Nesting → Text → List Text
  | _, [] => [[]]
  | n, s :: t =>
    if separates depth n s then [] :: splitAt depth (n.step s) t
    else (splitAt depth (n.step s) t).modifyHead (s :: ·)

def items (inside : Text) : List Text :=
  if inside.isEmpty then [] else splitAt 1 (outside 1) inside

@[simp]
theorem run_nil (n : Nesting) : n.run [] = n := rfl

@[simp]
theorem run_cons (n : Nesting) (s : Symbol) (t : Text) : n.run (s :: t) = (n.step s).run t := rfl

theorem run_append (n : Nesting) (t u : Text) : n.run (t ++ u) = (n.run t).run u :=
  List.foldl_append

@[simp]
theorem trace_nil (n : Nesting) : n.trace [] = [] := rfl

@[simp]
theorem trace_cons (n : Nesting) (s : Symbol) (t : Text) :
    n.trace (s :: t) = (n, s) :: (n.step s).trace t := rfl

theorem trace_append (n : Nesting) (t u : Text) :
    n.trace (t ++ u) = n.trace t ++ (n.run t).trace u := by
  induction t generalizing n with
  | nil => rfl
  | cons s t ih => rw [List.cons_append, trace_cons, trace_cons, ih, run_cons, List.cons_append]

theorem mem_trace (n : Nesting) (before : Text) (s : Symbol) (after : Text) :
    (n.run before, s) ∈ n.trace (before ++ s :: after) := by
  rw [trace_append, trace_cons]
  exact List.mem_append_cons_self

theorem splitAt_append {depth : Int} {n : Nesting} {t : Text}
    (h : ∀ p ∈ n.trace t, separates depth p.1 p.2 = false) (u : Text)
    : splitAt depth n (t ++ u) = (splitAt depth (n.run t) u).modifyHead (t ++ ·) := by
  induction t generalizing n with
  | nil => cases hsplit : splitAt depth n u <;> simp [hsplit]
  | cons s t ih =>
    rw [trace_cons, List.forall_mem_cons] at h
    rw [List.cons_append, splitAt, if_neg (by simp [h.1]), ih h.2, List.modifyHead_modifyHead]
    rfl

/--
Whether a text that begins outside of string literals at some depth ends so, too, and in between
neither closes a parenthesis that it has not opened nor has a comma of that depth.
-/
structure Keeps (depth : Int) (t : Text) : Prop where
  run_eq : (outside depth).run t = outside depth
  le_depth : ∀ p ∈ (outside depth).trace t, depth ≤ p.1.depth
  separates_eq : ∀ p ∈ (outside depth).trace t, separates depth p.1 p.2 = false

def isInert (s : Symbol) : Bool :=
  !s.satisfies "'(,)".toList.contains

theorem isInert_char_eq_false_iff {c : Char} :
    isInert (.char c) = false ↔ c = '\'' ∨ c = '(' ∨ c = ',' ∨ c = ')' := by
  simp [isInert, Symbol.satisfies, Decidable.or_iff_not_imp_left]

theorem isInert_of_isNumeric {s : Symbol} (hs : s.isNumeric = true) : isInert s = true := by
  cases h : isInert s with
  | true => rfl
  | false =>
    cases s with
    | surrogate => cases hs
    | char c =>
      rcases isInert_char_eq_false_iff.1 h with rfl | rfl | rfl | rfl <;>
        exact absurd hs (by decide)

theorem step_of_isInert {s : Symbol} (h : isInert s = true) (depth : Int) :
    (outside depth).step s = outside depth := by
  have hne (d : Symbol) (hd : isInert d = false) : s ≠ d :=
    ne_of_apply_ne isInert (by simp [h, hd])
  have hquote := hne (.char '\'') (by decide)
  have hopen := hne (.char '(') (by decide)
  have hclose := hne (.char ')') (by decide)
  simp [step, outside, hquote, hopen, hclose]

theorem keeps_nil (depth : Int) : Keeps depth [] :=
  ⟨rfl, by simp, by simp⟩

theorem keeps_of_isInert {t : Text} (h : Text.MadeOf isInert t) (depth : Int) :
    Keeps depth t := by
  induction t with
  | nil => exact keeps_nil depth
  | cons s t ih =>
    obtain ⟨hs, ht⟩ := Text.MadeOf.cons_iff.1 h
    have hstep := step_of_isInert hs depth
    have hcomma : s ≠ .char ',' := ne_of_apply_ne isInert (by rw [hs]; decide)
    have ih := ih ht
    constructor
    . rw [run_cons, hstep, ih.run_eq]
    . rw [trace_cons, hstep, List.forall_mem_cons]
      exact ⟨Int.le_refl depth, ih.le_depth⟩
    . rw [trace_cons, hstep, List.forall_mem_cons]
      exact ⟨by simp [separates, hcomma], ih.separates_eq⟩

theorem inLiteral_backslash (depth : Int) (t : Text) :
    (inLiteral depth).run (backslash isQuoteSpecial t) = inLiteral depth
      ∧ ∀ p ∈ (inLiteral depth).trace (backslash isQuoteSpecial t),
        p.1.depth = depth ∧ p.1.literal ≠ none := by
  induction t with
  | nil => simp [backslash]
  | cons s t ih =>
    rw [backslash_cons]
    cases h : s.satisfies isQuoteSpecial with
    | true => simpa [step, inLiteral] using ih
    | false =>
      have hslash : s ≠ .char '\\' := Symbol.ne_of_not_satisfies rfl h
      have hquote : s ≠ .char '\'' := Symbol.ne_of_not_satisfies rfl h
      simpa [step, inLiteral, hslash, hquote] using ih

theorem keeps_quote (t : Text) (depth : Int) : Keeps depth (quote t) := by
  obtain ⟨hrun, htrace⟩ := inLiteral_backslash depth t
  have hopen : (outside depth).step (.char '\'') = inLiteral depth := rfl
  have hclose : (inLiteral depth).step (.char '\'') = outside depth := rfl
  rw [quote]
  constructor
  . rw [List.cons_append, run_cons, hopen, run_append, hrun, run_cons, hclose, run_nil]
  . rw [List.cons_append, trace_cons, hopen, trace_append, hrun, List.forall_mem_cons,
      List.forall_mem_append]
    refine ⟨Int.le_refl depth, ?_, by simp [inLiteral]⟩
    intro p hp
    exact Int.le_of_eq (htrace p hp).1.symm
  . rw [List.cons_append, trace_cons, hopen, trace_append, hrun, List.forall_mem_cons,
      List.forall_mem_append]
    refine ⟨rfl, ?_, by simp [separates]⟩
    intro p hp
    have hne : p.1 ≠ outside depth := ne_of_apply_ne literal (htrace p hp).2
    simp [separates, hne]

theorem step_comma (depth : Int) : (outside depth).step (.char ',') = outside depth := rfl

theorem step_open (depth : Int) : (outside depth).step (.char '(') = outside (depth + 1) := rfl

theorem step_close (depth : Int) : (outside (depth + 1)).step (.char ')') = outside depth := by
  simp [step, outside]

theorem run_intercalate_comma {depth : Int} {items : List Text}
    (h : ∀ t ∈ items, Keeps depth t)
    : (outside depth).run (List.intercalate [.char ','] items) = outside depth
        ∧ ∀ p ∈ (outside depth).trace (List.intercalate [.char ','] items), depth ≤ p.1.depth := by
  induction items with
  | nil => simp
  | cons t items ih =>
    rw [List.forall_mem_cons] at h
    cases items with
    | nil =>
      rw [List.intercalate_singleton]
      exact ⟨h.1.run_eq, h.1.le_depth⟩
    | cons u items =>
      obtain ⟨hrun, htrace⟩ := ih h.2
      rw [List.intercalate_cons_cons, List.append_assoc, List.singleton_append]
      constructor
      . rw [run_append, h.1.run_eq, run_cons, step_comma, hrun]
      . rw [trace_append, h.1.run_eq, trace_cons, step_comma, List.forall_mem_append,
          List.forall_mem_cons]
        exact ⟨h.1.le_depth, Int.le_refl depth, htrace⟩

theorem Keeps.splitAt_append {depth : Int} {t : Text} (h : Keeps depth t) (u : Text) :
    splitAt depth (outside depth) (t ++ u)
      = (splitAt depth (outside depth) u).modifyHead (t ++ ·) := by
  rw [Nesting.splitAt_append h.separates_eq, h.run_eq]

theorem splitAt_intercalate_comma {depth : Int} {items : List Text} (hne : items ≠ [])
    (h : ∀ t ∈ items, Keeps depth t)
    : splitAt depth (outside depth) (List.intercalate [.char ','] items) = items := by
  induction items with
  | nil => exact absurd rfl hne
  | cons t items ih =>
    rw [List.forall_mem_cons] at h
    cases items with
    | nil =>
      rw [List.intercalate_singleton, ← List.append_nil t, h.1.splitAt_append]
      rfl
    | cons u items =>
      rw [List.intercalate_cons_cons, List.append_assoc, List.singleton_append]
      rw [h.1.splitAt_append, splitAt, if_pos (by simp [separates]), step_comma, ih (by simp) h.2]
      simp

section

variable {depth : Int} {items : List Text} (h : ∀ t ∈ items, Keeps (depth + 1) t)
include h

theorem run_sequenceText : (outside depth).run (sequenceText items) = outside depth := by
  obtain ⟨hrun, _⟩ := run_intercalate_comma h
  rw [sequenceText, List.cons_append, run_cons, step_open, run_append, hrun, run_cons]
  rw [step_close, run_nil]

theorem depth_lt_of_mem_trace {p : Nesting × Symbol}
    (hp : p ∈ (outside (depth + 1)).trace (List.intercalate [.char ','] items ++ [.char ')']))
    : depth < p.1.depth := by
  obtain ⟨hrun, htrace⟩ := run_intercalate_comma h
  rw [trace_append, hrun, List.mem_append] at hp
  rcases hp with hp | hp
  . exact htrace p hp
  . cases List.mem_singleton.1 hp
    exact Int.lt_succ depth

theorem keeps_sequenceText : Keeps depth (sequenceText items) := by
  constructor
  . exact run_sequenceText h
  . rw [sequenceText, List.cons_append, trace_cons, step_open, List.forall_mem_cons]
    refine ⟨Int.le_refl depth, ?_⟩
    intro p hp
    exact Int.le_of_lt (depth_lt_of_mem_trace h hp)
  . rw [sequenceText, List.cons_append, trace_cons, step_open, List.forall_mem_cons]
    refine ⟨rfl, ?_⟩
    intro p hp
    have hdepth := depth_lt_of_mem_trace h hp
    have hne : p.1 ≠ outside depth := ne_of_apply_ne Nesting.depth (Int.ne_of_gt hdepth)
    simp [separates, hne]

theorem depth_run_eq_iff {before after : Text} (htext : sequenceText items = before ++ after) :
    ((outside depth).run before).depth = depth ↔ before = [] ∨ after = [] := by
  constructor
  . intro hdepth
    cases before with
    | nil => exact .inl rfl
    | cons b before =>
      cases after with
      | nil => exact .inr rfl
      | cons c after =>
        rw [sequenceText, List.cons_append, List.cons_append, List.cons.injEq] at htext
        obtain ⟨rfl, htext⟩ := htext
        have hmem := mem_trace (outside (depth + 1)) before c after
        rw [← htext] at hmem
        rw [run_cons, step_open] at hdepth
        have hdeep : depth < ((outside (depth + 1)).run before).depth :=
          depth_lt_of_mem_trace h hmem
        omega
  . rintro (rfl | rfl)
    . rfl
    . rw [List.append_nil] at htext
      rw [← htext, run_sequenceText h]
      rfl

end

structure IsItem (t : Text) : Prop where
  ne_nil : t ≠ []
  keeps : ∀ depth, Keeps depth t

theorem isItem_of_isInert {t : Text} (hne : t ≠ []) (h : Text.MadeOf isInert t) :
    IsItem t :=
  ⟨hne, keeps_of_isInert h⟩

theorem isItem_of_isNumeric {t : Text} (hne : t ≠ []) (h : Text.MadeOf Symbol.isNumeric t) :
    IsItem t := by
  apply isItem_of_isInert hne
  rw [Text.MadeOf.iff_forall_mem] at *
  intro s hs
  exact isInert_of_isNumeric (h s hs)

theorem isItem_quote (t : Text) : IsItem (quote t) where
  ne_nil := by simp [quote]
  keeps := keeps_quote t

theorem isItem_sequenceText {items : List Text} (h : ∀ t ∈ items, IsItem t) :
    IsItem (sequenceText items) where
  ne_nil := by simp [sequenceText]
  keeps depth := keeps_sequenceText fun t ht => (h t ht).keeps (depth + 1)

theorem items_intercalate_comma {items : List Text} (h : ∀ t ∈ items, IsItem t) :
    Nesting.items (List.intercalate [.char ','] items) = items := by
  unfold Nesting.items
  cases items with
  | nil => rfl
  | cons t items =>
    have hinside : List.intercalate [.char ','] (t :: items) ≠ [] := by
      rw [List.forall_mem_cons] at h
      cases items with
      | nil =>
        rw [List.intercalate_singleton]
        exact h.1.ne_nil
      | cons u items =>
        rw [List.intercalate_cons_cons]
        simp
    rw [if_neg (by simpa using hinside)]
    apply splitAt_intercalate_comma (by simp)
    intro u hu
    exact (h u hu).keeps 1

theorem sequenceText_inj {items items' : List Text} (h : ∀ t ∈ items, IsItem t)
    (h' : ∀ t ∈ items', IsItem t) (heq : sequenceText items = sequenceText items')
    : items = items' := by
  rw [sequenceText, sequenceText, List.append_cancel_right_eq, List.cons.injEq] at heq
  rw [← items_intercalate_comma h, heq.2, items_intercalate_comma h']

end Nesting

namespace Value

def items? : Value → Option (List Value)
  | .sequence _ items => some items
  | .range start stop step => some ((rangeItems start stop step).map fun n => .int n none)
  | _ => none

theorem escape_of_items? {v : Value} {items : List Value} (h : v.items? = some items)
    (keepBlanks : Bool)
    : escape keepBlanks v = (do
        let texts ← escapeAll keepBlanks items
        return sequenceText texts) := by
  cases v with
  | sequence kind items' =>
    cases h
    rw [escape]
  | range start stop step =>
    cases h
    rw [escape_range, escape]
  | _ => cases h

/--
Whether a value by itself is a truth value, a number, a point in time, a text, a sequence, or none.
-/
def isDatum : Value → Bool
  | .null | .bool _ | .int .. | .float .. | .decimal _ | .date _ | .dateTime _ | .text _
  | .wrappedText _ | .sequence .. | .range .. => true
  | _ => false

def IsData (v : Value) : Prop :=
  ∀ u : Value, u.Within v → u.isDatum = true

theorem IsData.of_mem_parts {v w : Value} (h : v.IsData) (hw : w ∈ v.parts) : w.IsData :=
  fun u hu => h u (.part hw hu)

theorem isData_of_parts {v : Value} (hself : v.isDatum = true) (h : ∀ w ∈ v.parts, w.IsData) :
    v.IsData := by
  intro u hu
  cases hu with
  | self => exact hself
  | part hw hu => exact h _ hw u hu

theorem isData_of_isText {v : Value} (h : v.isText = true) : v.IsData := by
  obtain ⟨s, rfl | rfl⟩ := eq_text_of_isText h
  . exact isData_of_parts rfl (by simp [parts])
  . exact isData_of_parts rfl (by simp [parts])

theorem IsData.of_items? {v : Value} {items : List Value} (h : v.IsData)
    (hitems : v.items? = some items)
    : ∀ w ∈ items, w.IsData := by
  intro w hw
  cases v with
  | sequence kind items' =>
    cases hitems
    exact h.of_mem_parts hw
  | range start stop step =>
    cases hitems
    obtain ⟨n, _, rfl⟩ := List.mem_map.1 hw
    exact isData_of_parts rfl (by simp [parts])
  | _ => cases hitems

section

variable {keepBlanks : Bool}

theorem isItem_of_heedsPattern {v : Value} (hv : v.heedsPattern = true) {s : Text}
    (h : escape keepBlanks v = .ok s)
    : Nesting.IsItem s :=
  Nesting.isItem_of_isNumeric (ne_nil_of_escape hv h) (isNumeric_of_escape hv h)

theorem exists_sequenceText_of_items? {v : Value} {items : List Value}
    (hitems : v.items? = some items)
    (h : ∀ w ∈ items, ∀ s, escape keepBlanks w = .ok s → Nesting.IsItem s) {s : Text}
    (hs : escape keepBlanks v = .ok s)
    : ∃ texts, s = sequenceText texts ∧ (∀ t ∈ texts, Nesting.IsItem t)
        ∧ List.Forall₂ (fun w t => escape keepBlanks w = .ok t) items texts := by
  rw [escape_of_items? hitems, bind_eq_ok_iff] at hs
  obtain ⟨texts, htexts, hs⟩ := hs
  cases hs
  have hescaped := forall₂_of_escapeAll htexts
  refine ⟨texts, rfl, ?_, hescaped⟩
  intro t ht
  obtain ⟨w, hw, hwt⟩ := exists_mem_of_forall₂ hescaped ht
  exact h w hw t hwt

theorem isItem_of_items? {v : Value} {items : List Value} (hitems : v.items? = some items)
    (h : ∀ w ∈ items, ∀ s, escape keepBlanks w = .ok s → Nesting.IsItem s) {s : Text}
    (hs : escape keepBlanks v = .ok s)
    : Nesting.IsItem s := by
  obtain ⟨texts, htext, htexts, _⟩ := exists_sequenceText_of_items? hitems h hs
  rw [htext]
  exact Nesting.isItem_sequenceText htexts

theorem isItem_of_escape (v : Value) :
    v.IsData → ∀ s, escape keepBlanks v = .ok s → Nesting.IsItem s := by
  induction v using induct with
  | h v ih =>
    intro hdata s hs
    have hself := hdata v (.self v)
    cases v with
    | null =>
      cases hs
      exact Nesting.isItem_of_isInert (by decide) rfl
    | bool b =>
      cases hs
      cases b
      . exact Nesting.isItem_of_isInert (by decide) rfl
      . exact Nesting.isItem_of_isInert (by decide) rfl
    | int | float | decimal | date | dateTime => exact isItem_of_heedsPattern rfl hs
    | text t | wrappedText t =>
      cases hs
      exact Nesting.isItem_quote t
    | sequence kind items =>
      apply isItem_of_items? rfl ?_ hs
      intro w hw
      exact ih w hw (hdata.of_mem_parts hw)
    | range start stop step =>
      apply isItem_of_items? rfl ?_ hs
      intro w hw t ht
      obtain ⟨n, _, rfl⟩ := List.mem_map.1 hw
      exact isItem_of_heedsPattern rfl ht
    | _ => cases hself

theorem exists_sequenceText_of_escape {v : Value} {items : List Value}
    (hitems : v.items? = some items)
    (hdata : v.IsData) {s : Text} (hs : escape keepBlanks v = .ok s)
    : ∃ texts, s = sequenceText texts ∧ (∀ t ∈ texts, Nesting.IsItem t)
        ∧ List.Forall₂ (fun w t => escape keepBlanks w = .ok t) items texts := by
  apply exists_sequenceText_of_items? hitems ?_ hs
  intro w hw
  exact isItem_of_escape w (hdata.of_items? hitems w hw)

theorem exists_text?_of_isText {v : Value} (h : v.isText = true) :
    ∃ t, v.text? = some t ∧ ∀ keepBlanks, escape keepBlanks v = .ok (quote t) := by
  obtain ⟨t, rfl | rfl⟩ := eq_text_of_isText h
  . exact ⟨t, rfl, fun _ => rfl⟩
  . exact ⟨t, rfl, fun _ => rfl⟩

theorem text?_eq_of_escape {v v' : Value} (h : v.isText = true) (h' : v'.isText = true) {s : Text}
    (hs : escape keepBlanks v = .ok s) (hs' : escape keepBlanks v' = .ok s)
    : v.text? = v'.text? := by
  obtain ⟨t, ht, hquote⟩ := exists_text?_of_isText h
  obtain ⟨t', ht', hquote'⟩ := exists_text?_of_isText h'
  rw [hquote] at hs
  rw [hquote'] at hs'
  have heq : t = t' := quote_inj.1 (Except.ok.inj (hs.trans hs'.symm))
  rw [ht, ht', heq]

theorem map_text?_eq_of_forall₂ {items items' : List Value} {texts : List Text}
    (h : ∀ w ∈ items, w.isText = true) (h' : ∀ w ∈ items', w.isText = true)
    (hs : List.Forall₂ (fun w t => escape keepBlanks w = .ok t) items texts)
    (hs' : List.Forall₂ (fun w t => escape keepBlanks w = .ok t) items' texts)
    : items.map text? = items'.map text? := by
  induction hs generalizing items' with
  | nil =>
    cases hs'
    rfl
  | cons hw _ ih =>
    cases hs' with
    | cons hw' hs' =>
      rw [List.forall_mem_cons] at h h'
      rw [List.map_cons, List.map_cons, text?_eq_of_escape h.1 h'.1 hw hw', ih h.2 h'.2 hs']

end

/--
A sequence of data is written with its items and nothing else between its two parentheses: outside
of string literals no other parenthesis closes it early, and the commas that stand in it directly
are those between its items. So sequences of texts that are written alike have the same texts.
-/
theorem escape_keeps_items (keepBlanks : Bool) :
    (∀ (v : Value) (items : List Value) (s : Text), v.items? = some items → v.IsData
      → escape keepBlanks v = .ok s
      → ∃ inside, s = .char '(' :: inside ++ [.char ')']
        ∧ (Nesting.outside 0).run s = .outside 0
        ∧ (∀ before after, s = before ++ after
          → (((Nesting.outside 0).run before).depth = 0 ↔ before = [] ∨ after = []))
        ∧ List.Forall₂ (fun w t => escape keepBlanks w = .ok t) items (Nesting.items inside)
        ∧ (items = [] → s = "()"))
    ∧ ∀ (kind kind' : SequenceKind) (items items' : List Value) (s : Text),
      (∀ w ∈ items, w.isText = true) → (∀ w ∈ items', w.isText = true)
      → escape keepBlanks (.sequence kind items) = .ok s
      → escape keepBlanks (.sequence kind' items') = .ok s
      → items.map text? = items'.map text? := by
  constructor
  . intro v items s hitems hdata hs
    obtain ⟨texts, htext, htexts, hescaped⟩ := exists_sequenceText_of_escape hitems hdata hs
    have hkeeps : ∀ t ∈ texts, Nesting.Keeps (0 + 1) t := fun t ht => (htexts t ht).keeps 1
    refine ⟨List.intercalate [.char ','] texts, htext, ?_, ?_, ?_, ?_⟩
    . rw [htext]
      exact Nesting.run_sequenceText hkeeps
    . intro before after hsplit
      rw [htext] at hsplit
      exact Nesting.depth_run_eq_iff hkeeps hsplit
    . rw [Nesting.items_intercalate_comma htexts]
      exact hescaped
    . rintro rfl
      cases hescaped
      exact htext
  . intro kind kind' items items' s h h' hs hs'
    have hdata (kind : SequenceKind) {items : List Value} (h : ∀ w ∈ items, w.isText = true) :
        (sequence kind items).IsData :=
      isData_of_parts rfl fun w hw => isData_of_isText (h w hw)
    obtain ⟨texts, htext, htexts, hescaped⟩ := exists_sequenceText_of_escape rfl (hdata kind h) hs
    obtain ⟨texts', htext', htexts', hescaped'⟩ :=
      exists_sequenceText_of_escape rfl (hdata kind' h') hs'
    obtain rfl := Nesting.sequenceText_inj htexts htexts' (htext.symm.trans htext')
    exact map_text?_eq_of_forall₂ h h' hescaped hescaped'

theorem escape_keeps_items_of_list :
    (∃ inside, Text.ofString "('a\\\\\\',b)',(1,null),(0,1))" = .char '(' :: inside ++ [.char ')']
      ∧ (Nesting.items inside).length = 3)
    ∧ [text "a,b"].map text? = [wrappedText "a,b"].map text? := by
  have htext : IsData (.text "a\\',b)") := isData_of_isText rfl
  have hone : IsData (.int 1 none) := isData_of_parts rfl (by simp [parts])
  have hnull : IsData .null := isData_of_parts rfl (by simp [parts])
  have hrange : IsData (.range 0 2 1) := isData_of_parts rfl (by simp [parts])
  have htuple : IsData (.sequence .tuple [.int 1 none, .null]) := by
    apply isData_of_parts rfl
    simp [parts, hone, hnull]
  have hlist : IsData (.sequence .list [.text "a\\',b)", .sequence .tuple [.int 1 none, .null],
      .range 0 2 1]) := by
    apply isData_of_parts rfl
    simp [parts, htext, htuple, hrange]
  constructor
  . have hescape := toOption_eq_some_iff.1 (show (escape false (.sequence .list [.text "a\\',b)",
      .sequence .tuple [.int 1 none, .null], .range 0 2 1])).toOption
        = some (Text.ofString "('a\\\\\\',b)',(1,null),(0,1))") by decide +kernel)
    obtain ⟨inside, hinside, _, _, hitems, _⟩ :=
      (escape_keeps_items false).1 _ _ _ rfl hlist hescape
    exact ⟨inside, hinside, hitems.length_eq.symm⟩
  . exact (escape_keeps_items false).2 .list .tuple [.text "a,b"] [.wrappedText "a,b"] "('a,b')"
      (by decide) (by decide) (toOption_eq_some_iff.1 (by decide +kernel))
      (toOption_eq_some_iff.1 (by decide +kernel))

end Value
end Soql
