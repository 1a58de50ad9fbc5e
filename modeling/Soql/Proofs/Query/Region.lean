import Soql.Text.Blank
import Soql.Query.Quote
import Soql.Proofs.Query.Alphabet

/-!
This module contains the regions of a query: what stands inside string literals and braces, and the
skeleton that is left outside of them.
-/

namespace Soql

theorem Symbol.ne_of_not_satisfies {special : Char → Bool} {c : Char} (hc : special c = true)
    {s : Symbol} (h : s.satisfies special = false) : s ≠ .char c := by
  rintro rfl
  rw [satisfies, hc] at h
  cases h

inductive Enclosure where
  | string
  | braces
  deriving DecidableEq

namespace Enclosure

def opening : Enclosure → Char
  | string => '\''
  | braces => '{'

def closing : Enclosure → Char
  | string => '\''
  | braces => '}'

def ofOpening? (s : Symbol) : Option Enclosure :=
  if s = .char string.opening then some string
  else if s = .char braces.opening then some braces
  else none

theorem ofOpening?_opening (e : Enclosure) : ofOpening? (.char e.opening) = some e := by
  cases e <;> rfl

theorem ofOpening?_of_isNumeric {s : Symbol} (h : s.isNumeric = true) : ofOpening? s = none := by
  unfold ofOpening?
  rw [if_neg, if_neg]
  . rintro rfl
    revert h
    decide
  . rintro rfl
    revert h
    decide

end Enclosure

inductive Region where
  | outside
  /-- The flag says whether a backslash stands in front. -/
  | inside (e : Enclosure) (escaped : Bool)
  deriving DecidableEq

namespace Region

def step : Region → Symbol → Region
  | outside, s =>
    match Enclosure.ofOpening? s with
    | some e => inside e false
    | none => outside
  | inside e true, _ => inside e false
  | inside e false, s =>
    if s = .char '\\' then inside e true
    else if s = .char e.closing then outside
    else inside e false

def run (r : Region) (t : Text) : Region :=
  t.foldl step r

/--
The text without what stands strictly inside of an enclosure.
-/
def skeleton : Region → Text → Text
  | _, [] => []
  | r, s :: t =>
    if r = outside ∨ r.step s = outside then
      s :: skeleton (r.step s) t
    else
      skeleton (r.step s) t

@[simp]
theorem run_nil (r : Region) : r.run [] = r := rfl

@[simp]
theorem run_cons (r : Region) (s : Symbol) (t : Text) : r.run (s :: t) = (r.step s).run t := rfl

theorem run_append (r : Region) (t u : Text) : r.run (t ++ u) = (r.run t).run u :=
  List.foldl_append

theorem skeleton_append (r : Region) (t u : Text) :
    r.skeleton (t ++ u) = r.skeleton t ++ (r.run t).skeleton u := by
  induction t generalizing r with
  | nil => rfl
  | cons s t ih =>
    rw [List.cons_append, skeleton, skeleton, run_cons, ih]
    split <;> rfl

theorem step_outside_of_none {s : Symbol} (h : Enclosure.ofOpening? s = none) :
    outside.step s = outside := by
  simp [step, h]

theorem step_opening (e : Enclosure) : outside.step (.char e.opening) = inside e false := by
  simp [step, e.ofOpening?_opening]

theorem step_closing (e : Enclosure) : (inside e false).step (.char e.closing) = outside := by
  cases e <;> rfl

theorem step_of_not_special (e : Enclosure) {special : Char → Bool} (hslash : special '\\' = true)
    (hclosing : special e.closing = true) {s : Symbol} (h : s.satisfies special = false)
    : (inside e false).step s = inside e false := by
  rw [step, if_neg (Symbol.ne_of_not_satisfies hslash h)]
  rw [if_neg (Symbol.ne_of_not_satisfies hclosing h)]

theorem inside_backslash (e : Enclosure) {special : Char → Bool} (hslash : special '\\' = true)
    (hclosing : special e.closing = true) (t : Text)
    : (inside e false).run (backslash special t) = inside e false
        ∧ (inside e false).skeleton (backslash special t) = [] := by
  induction t with
  | nil => exact ⟨rfl, rfl⟩
  | cons s t ih =>
    rw [backslash_cons, run_append, skeleton_append]
    cases h : s.satisfies special with
    | true => simpa [step, skeleton] using ih
    | false =>
      have hstep := step_of_not_special e hslash hclosing h
      simpa [skeleton, hstep] using ih

/--
Texts that differ at most inside of enclosures, all of which are closed at the end.
-/
structure Alike (r : Region) (t u : Text) : Prop where
  run_left : r.run t = outside
  run_right : r.run u = outside
  skeleton_eq : r.skeleton t = r.skeleton u

theorem alike_nil : Alike outside [] [] :=
  ⟨rfl, rfl, rfl⟩

theorem alike_self {t : Text} (h : outside.run t = outside) : Alike outside t t :=
  ⟨h, h, rfl⟩

theorem Alike.append {r : Region} {t u t' u' : Text} (h : Alike r t u)
    (h' : Alike outside t' u') : Alike r (t ++ t') (u ++ u') := by
  constructor
  . rw [run_append, h.run_left, h'.run_left]
  . rw [run_append, h.run_right, h'.run_right]
  . rw [skeleton_append, skeleton_append]
    rw [h.run_left, h.run_right, h.skeleton_eq, h'.skeleton_eq]

theorem Alike.cons {r : Region} {s : Symbol} {t u : Text} (h : Alike (r.step s) t u) :
    Alike r (s :: t) (s :: u) := by
  constructor
  . exact h.run_left
  . exact h.run_right
  . rw [skeleton, skeleton, h.skeleton_eq]

theorem run_of_isNumeric {t : Text} (h : Text.MadeOf Symbol.isNumeric t) :
    outside.run t = outside := by
  induction t with
  | nil => rfl
  | cons s t ih =>
    obtain ⟨hs, ht⟩ := Text.MadeOf.cons_iff.1 h
    rw [run_cons, step_outside_of_none (Enclosure.ofOpening?_of_isNumeric hs)]
    exact ih ht

theorem alike_enclosed (e : Enclosure) {special : Char → Bool} (hslash : special '\\' = true)
    (hclosing : special e.closing = true) (t u : Text)
    : Alike outside (.char e.opening :: backslash special t ++ [.char e.closing])
        (.char e.opening :: backslash special u ++ [.char e.closing]) := by
  have hend : Alike (inside e false) [.char e.closing] [.char e.closing] := by
    apply Alike.cons
    rw [step_closing]
    exact alike_nil
  rw [List.cons_append, List.cons_append]
  apply Alike.cons
  rw [step_opening]
  obtain ⟨hrun, hskeleton⟩ := inside_backslash e hslash hclosing t
  obtain ⟨hrun', hskeleton'⟩ := inside_backslash e hslash hclosing u
  constructor
  . rw [run_append, hrun, hend.run_left]
  . rw [run_append, hrun', hend.run_right]
  . rw [skeleton_append, skeleton_append, hrun, hrun', hskeleton, hskeleton']

theorem alike_quote (t t' : Text) : Alike outside (quote t) (quote t') :=
  alike_enclosed .string rfl rfl t t'

def braced (t : Text) : Text :=
  .char '{' :: t ++ [.char '}']

theorem alike_braced_escapePhrase (t t' : Text) :
    Alike outside (braced (escapePhrase t)) (braced (escapePhrase t')) :=
  alike_enclosed .braces (by decide) (by decide) t t'

end Region
end Soql
