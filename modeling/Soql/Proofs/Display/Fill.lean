import Mathlib.Data.List.TakeWhile
import Soql.Display.Template
import Soql.Proofs.Template.Parse

/-!
This module contains the filling of format text that compilation can read, too. Such text is filled
placeholder by placeholder: nothing shows of how its fields were numbered, and nothing that was
filled in is read again.
-/

namespace Soql
namespace Text

theorem le_digitsValue (n : Nat) (ds : List Nat) : n ≤ digitsValue n ds := by
  induction ds generalizing n with
  | nil => exact Nat.le_refl n
  | cons d ds ih =>
    have := ih (10 * n + d)
    simp only [digitsValue, List.foldl_cons] at *
    omega

end Text

def Token.textWith (text : Placeholder → Except ε Text) : List Token → Except ε Text
  | [] => .ok []
  | .char c :: ts => do
    let rest ← textWith text ts
    return .char c :: rest
  | .hole p :: ts => do
    let head ← text p
    let rest ← textWith text ts
    return head ++ rest

theorem Token.textWith_map_char_append {ε : Type} (text : Placeholder → Except ε Text)
    (cs : List Char) (ts : List Token)
    : textWith text (cs.map .char ++ ts) = (textWith text ts).map (Text.ofChars cs ++ ·) := by
  induction cs with
  | nil => cases h : textWith text ts <;> simp [h, Except.map, Text.ofChars]
  | cons c cs ih =>
    rw [List.map_cons, List.cons_append, textWith, ih]
    cases textWith text ts <;> rfl

namespace Display

theorem readIndex.go_digits {n : Nat} {cs : List Char} (h : cs.all Char.isDigit = true)
    (hn : n ≤ NumberPattern.maxCount)
    : go n cs
        = if Text.digitsValue n (Segment.digitValues cs) ≤ NumberPattern.maxCount then
          .ok (some (Text.digitsValue n (Segment.digitValues cs)))
        else
          .error .tooManyDigits := by
  induction cs generalizing n with
  | nil =>
    have hvalue : Text.digitsValue n (Segment.digitValues []) = n := rfl
    rw [hvalue, if_pos hn]
    rfl
  | cons c cs ih =>
    rw [List.all_cons, Bool.and_eq_true] at h
    rw [go, Text.digitValue?_of_isDigit h.1]
    dsimp only
    split
    . next hlarge =>
      -- No value on the way to the last digit is greater than the last one.
      have hle := Text.le_digitsValue (10 * n + (c.toNat - '0'.toNat)) (Segment.digitValues cs)
      rw [if_neg]
      apply Nat.not_le.2
      apply Nat.lt_of_lt_of_le hlarge hle
    . apply ih h.2
      omega

theorem readIndex_digits {cs : List Char} (hne : cs.isEmpty = false)
    (h : cs.all Char.isDigit = true)
    : readIndex cs
        = if Text.digitsValue 0 (Segment.digitValues cs) ≤ NumberPattern.maxCount then
          .ok (some (Text.digitsValue 0 (Segment.digitValues cs)))
        else
          .error .tooManyDigits := by
  unfold readIndex
  rw [hne, if_neg (by decide)]
  apply readIndex.go_digits h
  omega

theorem splitName_of_all_isDigit {name : List Char}
    (h : name.all Char.isDigit = true) : splitName name = (name, [], none) := by
  have hbegins : ∀ c ∈ name, (!beginsAccessor c) = true := by
    intro c hc
    have hdigit := List.all_eq_true.1 h c hc
    unfold beginsAccessor
    rw [Bool.not_eq_true', Bool.or_eq_false_iff, beq_eq_false_iff_ne, beq_eq_false_iff_ne]
    constructor
    . rintro rfl
      contradiction
    . rintro rfl
      contradiction
  unfold splitName
  rw [List.takeWhile_eq_self_iff.2 hbegins, List.dropWhile_eq_nil_iff.2 hbegins]

variable {views : List View} {nested : Filler} {numbering numbering' : Segment.Numbering}

/--
Debug text numbers the fields in the same way as compilation, but counts no further than a word.
-/
theorem argumentOf_eq_or {name : List Char} {n : Nat}
    (h : Segment.number numbering name = .ok (n, numbering'))
    : argumentOf views numbering name
          = (match views[n]? with
            | some v => .ok (v, numbering')
            | none => .error (.noArgument n))
        ∨ (NumberPattern.maxCount < n
          ∧ argumentOf views numbering name = .error .tooManyDigits) := by
  unfold argumentOf
  revert h
  fun_cases Segment.number numbering name with
  | case1 hname | case2 hname =>
    intro h
    rw [List.isEmpty_iff] at hname
    subst hname
    cases h
    exact .inl rfl
  | case8 _ hname hdigits _ hnumbering =>
    intro h
    cases h
    rw [Bool.not_eq_true] at hname
    simp only [Bool.not_eq_true, Bool.not_eq_false'] at hdigits
    rw [readIndex_digits hname hdigits]
    split
    . cases numbering with
      | automatic next => exact absurd rfl (hnumbering next)
      | undecided => exact .inl rfl
      | explicit => exact .inl rfl
    . next hlarge => exact .inr ⟨Nat.not_le.1 hlarge, rfl⟩
  | case3 | case4 | case5 | case6 | case7 =>
    intro h
    cases h

def showPlaceholder (views : List View) (p : Placeholder) : Except Fault Text :=
  match views[p.index.toNat]? with
  | some v => layout (.view v) (Text.ofChars p.spec)
  | none => .error (.noArgument p.index.toNat)

theorem fillField_eq_or {f : Field} {p : Placeholder}
    (h : Segment.placeholder? numbering f = .ok (p, numbering'))
    : fillField views nested numbering f
          = (showPlaceholder views p).map (fun text => (text, numbering'))
        ∨ (NumberPattern.maxCount < p.index
          ∧ fillField views nested numbering f = .error .tooManyDigits) := by
  obtain ⟨hconversion, hspec, n, hnumber, rfl⟩ := Segment.placeholder?_eq_ok_iff.1 h
  have hopen : f.spec.contains '{' = false := by
    rw [List.contains_eq_any_beq, List.any_eq_false]
    intro c hc hopen
    rw [beq_iff_eq] at hopen
    subst hopen
    have := hspec _ hc
    contradiction
  unfold fillField showPlaceholder
  rw [splitName_of_all_isDigit (Segment.all_isDigit_of_number hnumber)]
  dsimp only
  rcases argumentOf_eq_or hnumber with hargument | ⟨hlarge, hargument⟩
  . apply Or.inl
    rw [hargument, hconversion, hopen, Int.toNat_natCast]
    cases views[n]? with
    | none => rfl
    | some v =>
      simp only [ok_bind, pure_eq_ok, follow, Bool.false_eq_true, ↓reduceIte]
      cases layout (.view v) (Text.ofChars f.spec) <;> rfl
  . apply Or.inr
    rw [hargument]
    exact ⟨Int.ofNat_lt.2 hlarge, rfl⟩

theorem fillPieces_eq_or {ps : List Piece} {segments : List Segment}
    (h : Segment.ofPieces numbering ps = .ok segments)
    : (fillPieces views nested none numbering ps).map Prod.fst
          = Token.textWith (showPlaceholder views) (Segment.tokensAll segments)
        ∨ ((∃ p ∈ Token.holes (Segment.tokensAll segments), NumberPattern.maxCount < p.index)
          ∧ ∃ fault, fillPieces views nested none numbering ps = .error fault) := by
  induction ps generalizing numbering segments with
  | nil =>
    cases h
    exact .inl rfl
  | cons piece ps ih =>
    rcases piece with ⟨literal, field⟩
    cases field with
    | none =>
      obtain ⟨rest, hrest, h⟩ := bind_eq_ok_iff.1 h
      cases h
      have htokens : Segment.tokensAll (⟨literal, none⟩ :: rest)
          = literal.map .char ++ Segment.tokensAll rest := by
        simp [Segment.tokens]
      rw [htokens, Token.textWith_map_char_append, Token.holes_append, Token.holes_map_char,
        List.nil_append, fillPieces]
      rcases ih hrest with heq | ⟨hlarge, fault, hfault⟩
      . apply Or.inl
        rw [← heq]
        cases fillPieces views nested none numbering ps <;> rfl
      . apply Or.inr
        rw [hfault]
        exact ⟨hlarge, fault, rfl⟩
    | some f =>
      obtain ⟨⟨p, numbering'⟩, hp, h⟩ := bind_eq_ok_iff.1 h
      obtain ⟨rest, hrest, h⟩ := bind_eq_ok_iff.1 h
      cases h
      have htokens : Segment.tokensAll (⟨literal, some p⟩ :: rest)
          = literal.map .char ++ .hole p :: Segment.tokensAll rest := by
        simp [Segment.tokens]
      rw [htokens, Token.textWith_map_char_append, Token.textWith, Token.holes_append,
        Token.holes_map_char, List.nil_append, Token.holes_hole, fillPieces]
      rcases fillField_eq_or hp with hfield | ⟨hlarge, hfield⟩
      . rw [hfield]
        cases showPlaceholder views p with
        | error fault => exact .inl rfl
        | ok text =>
          dsimp only [Except.map, ok_bind]
          rcases ih hrest with heq | ⟨⟨q, hq, hlarge⟩, fault, hfault⟩
          . apply Or.inl
            rw [← heq]
            cases fillPieces views nested none numbering' ps with
            | error fault => rfl
            | ok result => simp [Except.map]
          . apply Or.inr
            rw [hfault]
            exact ⟨⟨q, List.mem_cons_of_mem p hq, hlarge⟩, fault, rfl⟩
      . apply Or.inr
        rw [hfield]
        exact ⟨⟨p, List.mem_cons_self, hlarge⟩, .tooManyDigits, rfl⟩

section

variable {format : String} {segments : List Segment} (h : Segment.parse format = .ok segments)
include h

theorem templateText_eq_or :
    templateText format views
          = Token.textWith (showPlaceholder views) (Segment.tokensAll segments)
        ∨ ((∃ p ∈ Token.holes (Segment.tokensAll segments), NumberPattern.maxCount < p.index)
          ∧ ∃ fault, templateText format views = .error fault) := by
  obtain ⟨ps, hscan, hps⟩ := Segment.parse_eq_ok_iff.1 h
  unfold templateText fill
  rw [hscan]
  dsimp only
  rcases fillPieces_eq_or hps with heq | ⟨hlarge, fault, hfault⟩
  . apply Or.inl
    rw [← heq]
    cases fillPieces views (fill views 1) none .undecided ps <;> rfl
  . apply Or.inr
    rw [hfault]
    exact ⟨hlarge, fault, rfl⟩

theorem templateText_eq
    (hmax : ∀ p ∈ Token.holes (Segment.tokensAll segments), p.index ≤ NumberPattern.maxCount)
    : templateText format views
        = Token.textWith (showPlaceholder views) (Segment.tokensAll segments) := by
  rcases templateText_eq_or h with heq | ⟨⟨p, hp, hlarge⟩, _⟩
  . exact heq
  . exact absurd (hmax p hp) (Int.not_le.2 hlarge)

theorem textWith_of_templateText {text : Text} (htext : templateText format views = .ok text) :
    Token.textWith (showPlaceholder views) (Segment.tokensAll segments) = .ok text := by
  rcases templateText_eq_or h with heq | ⟨_, fault, hfault⟩
  . rw [← heq, htext]
  . rw [htext] at hfault
    cases hfault

end
end Display
end Soql
