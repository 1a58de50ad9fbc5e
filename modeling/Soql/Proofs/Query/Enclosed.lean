import Soql.Query.Compile
import Soql.Proofs.Query.Region

/-!
This module contains how enclosed text is read back. What was escaped on its way in comes out as it
was, and reading ends where the enclosure does, whatever follows.
-/

namespace Soql
namespace Enclosure

/--
Reads up to the first closing character without a backslash in front: what the text stands for, and
what follows it. The flag says whether a backslash stands in front.
-/
def readFrom (e : Enclosure) : Bool → Text → Option (Text × Text)
  | _, [] => none
  | true, s :: t => (e.readFrom false t).map fun (text, rest) => (s :: text, rest)
  | false, s :: t =>
    if s = .char '\\' then e.readFrom true t
    else if s = .char e.closing then some ([], t)
    else (e.readFrom false t).map fun (text, rest) => (s :: text, rest)

def read? (e : Enclosure) : Text → Option (Text × Text)
  | [] => none
  | s :: t => if s = .char e.opening then e.readFrom false t else none

theorem closing_ne_backslash (e : Enclosure) : e.closing ≠ '\\' := by
  cases e <;> decide

theorem readFrom_backslash_append (e : Enclosure) {special : Char → Bool}
    (hslash : special '\\' = true) (hclosing : special e.closing = true) (t rest : Text)
    : e.readFrom false (backslash special t ++ .char e.closing :: rest) = some (t, rest) := by
  induction t with
  | nil => simp [readFrom, backslash, e.closing_ne_backslash]
  | cons s t ih =>
    rw [backslash_cons, List.append_assoc]
    cases h : s.satisfies special with
    | true => simp [readFrom, ih]
    | false =>
      have hne := Symbol.ne_of_not_satisfies hslash h
      have hne' := Symbol.ne_of_not_satisfies hclosing h
      simp [readFrom, hne, hne', ih]

theorem read?_enclosed_append (e : Enclosure) {special : Char → Bool}
    (hslash : special '\\' = true) (hclosing : special e.closing = true) (t rest : Text)
    : e.read? (.char e.opening :: backslash special t ++ [.char e.closing] ++ rest)
        = some (t, rest) := by
  rw [List.append_assoc, List.cons_append, List.singleton_append, read?, if_pos rfl]
  exact e.readFrom_backslash_append hslash hclosing t rest

end Enclosure

theorem read?_quote_append (t rest : Text) :
    Enclosure.string.read? (quote t ++ rest) = some (t, rest) :=
  Enclosure.string.read?_enclosed_append rfl rfl t rest

theorem eq_of_quote_isPrefix {t t' : Text} (h : quote t <+: quote t') : t = t' := by
  obtain ⟨rest, h⟩ := h
  have hread := read?_quote_append t rest
  rw [h, ← List.append_nil (quote t'), read?_quote_append t' []] at hread
  simp only [Option.some.injEq, Prod.mk.injEq] at hread
  exact hread.1.symm

theorem quote_inj {t t' : Text} : quote t = quote t' ↔ t = t' := by
  constructor
  . intro h
    exact eq_of_quote_isPrefix (h ▸ List.prefix_rfl)
  . rintro rfl
    rfl

/--
One pass over a text for both special characters is one for the backslashes and then one for the
apostrophes, which leaves the added backslashes alone.
-/
theorem backslash_isQuoteSpecial (t : Text) :
    backslash isQuoteSpecial t = backslash (· == '\'') (backslash (· == '\\') t) := by
  induction t with
  | nil => rfl
  | cons s t ih =>
    rw [backslash_cons, backslash_cons, backslash_append, ih]
    congr 1
    cases s with
    | surrogate index => rfl
    | char c =>
      by_cases hslash : c = '\\'
      . subst hslash
        rfl
      . by_cases hquote : c = '\''
        . subst hquote
          rfl
        . simp [isQuoteSpecial, backslash, Symbol.satisfies, hslash, hquote]

/--
Quoting escapes the backslashes first and then the apostrophes, and reading a string literal undoes
both: it ends where the literal does, whatever follows, and gives the text. So texts have different
literals, of which none is the beginning of another.
-/
theorem quote_reads_back :
    (∀ t : Text, quote t
      = .char '\'' :: backslash (· == '\'') (backslash (· == '\\') t) ++ [.char '\''])
    ∧ (∀ t rest : Text, Enclosure.string.read? (quote t ++ rest) = some (t, rest))
    ∧ (∀ t t' : Text, quote t = quote t' → t = t')
    ∧ ∀ t t' : Text, quote t <+: quote t' → quote t = quote t' := by
  refine ⟨?_, read?_quote_append, ?_, ?_⟩
  . intro t
    rw [← backslash_isQuoteSpecial, quote]
  . intro t t' h
    exact quote_inj.1 h
  . intro t t' h
    rw [eq_of_quote_isPrefix h]

/--
The symbols that no backslash escapes, without those backslashes. The flag says whether a backslash
stands in front; at the end of the text it escapes nothing.
-/
def unescapedFrom : Bool → Text → Text
  | false, [] => []
  | true, [] => [.char '\\']
  | true, _ :: t => unescapedFrom false t
  | false, s :: t => if s = .char '\\' then unescapedFrom true t else s :: unescapedFrom false t

def unescaped (t : Text) : Text :=
  unescapedFrom false t

theorem unescaped_backslash {special : Char → Bool} (hslash : special '\\' = true) (t : Text) :
    unescaped (backslash special t) = t.filter fun s => !s.satisfies special := by
  unfold unescaped
  induction t with
  | nil => rfl
  | cons s t ih =>
    rw [backslash_cons]
    cases h : s.satisfies special with
    | true => simp [unescapedFrom, h, ih]
    | false =>
      have hne := Symbol.ne_of_not_satisfies hslash h
      simp [unescapedFrom, h, hne, ih]

/--
A phrase stands between braces, reading which ends where they do, whatever follows, and gives the
phrase. Between them no reserved character goes without a backslash, and phrases are escaped piece
by piece.
-/
theorem escapePhrase_reads_back :
    (∀ (keepBlanks : Bool) (t : Text), ∃ text inside,
      escape keepBlanks (.phrase (escapePhrase t)) = .ok text
        ∧ text = .char '{' :: inside ++ [.char '}']
        ∧ (∀ rest, Enclosure.braces.read? (text ++ rest) = some (t, rest))
        ∧ ∀ s ∈ unescaped inside, s.satisfies isReserved = false)
    ∧ ∀ t t' : Text, escapePhrase (t ++ t') = escapePhrase t ++ escapePhrase t' := by
  refine ⟨?_, backslash_append isReserved⟩
  intro keepBlanks t
  refine ⟨_, escapePhrase t, rfl, rfl, ?_, ?_⟩
  . intro rest
    exact Enclosure.braces.read?_enclosed_append (by decide) (by decide) t rest
  . intro s hs
    rw [escapePhrase, unescaped_backslash (by decide)] at hs
    simpa using (List.mem_filter.1 hs).2

end Soql
