import Soql.Proofs.Template.Parse

/-!
This module contains the normalization of blanks as an operation on tokens, and what it does to a
text that is put together from two.
-/

namespace Soql
namespace Token

/--
Every run of blanks becomes one space. The flag says whether the previous token was blank.
-/
def collapse : Bool → List Token → List Token
  | _, [] => []
  | inRun, t :: ts =>
    if t.isBlank then
      if inRun then collapse true ts else .char ' ' :: collapse true ts
    else
      t :: collapse false ts

/--
Every run of blanks between other tokens becomes one space, and no blank is left at either end. The
flags say whether there was another token, and whether blanks have followed it.
-/
def tidyFrom : Bool → Bool → List Token → List Token
  | _, _, [] => []
  | started, pending, t :: ts =>
    if t.isBlank then
      tidyFrom started true ts
    else
      (if started && pending then [.char ' '] else []) ++ t :: tidyFrom true false ts

def tidy (ts : List Token) : List Token :=
  tidyFrom false false ts

theorem holes_of_isBlank {t : Token} (h : t.isBlank = true) (ts : List Token) :
    holes (t :: ts) = holes ts := by
  cases t with
  | char c => rfl
  | hole p => contradiction

theorem holes_cons (t : Token) (ts : List Token) :
    holes (t :: ts) = t.hole?.toList ++ holes ts := by
  cases t <;> rfl

theorem holes_tidyFrom (started pending : Bool) (ts : List Token) :
    holes (tidyFrom started pending ts) = holes ts := by
  induction ts generalizing started pending with
  | nil => rfl
  | cons t ts ih =>
    unfold tidyFrom
    split
    . next hblank => rw [ih, holes_of_isBlank hblank]
    . rw [holes_append, holes_cons, ih, ← holes_cons]
      split <;> rfl

theorem holes_tidy (ts : List Token) : holes (tidy ts) = holes ts :=
  holes_tidyFrom false false ts

theorem isValid_tidy {ts : List Token} (h : IsValid ts) : IsValid (tidy ts) := by
  unfold IsValid
  rw [holes_tidy]
  exact h

theorem exists_render_eq {t : Token} (h : t.isBlank = false) :
    ∃ c cs d ds, Text.isBlank c = false ∧ Text.isBlank d = false
      ∧ t.render = c :: cs ∧ t.render = ds ++ [d] := by
  cases t with
  | char c =>
    rw [render_char]
    split
    . exact ⟨c, [c], c, [c], h, h, rfl, rfl⟩
    . exact ⟨c, [], c, [], h, h, rfl, rfl⟩
  | hole p => exact ⟨'{', _, '}', _, by decide, by decide, rfl, rfl⟩

theorem render_space : render (char ' ') = [' '] := rfl

theorem trimLeft_render_append {t : Token} (h : t.isBlank = false) (cs : List Char) :
    Text.trimLeft (t.render ++ cs) = t.render ++ cs := by
  obtain ⟨c, ds, _, _, hc, _, hrender, _⟩ := exists_render_eq h
  rw [hrender]
  exact Text.trimLeft_cons_of_not_blank c _ hc

theorem trimRight_append (cs ds : List Char) :
    Text.trimRight (cs ++ ds)
      = if (Text.trimRight ds).isEmpty then Text.trimRight cs else cs ++ Text.trimRight ds := by
  unfold Text.trimRight
  rw [List.reverse_append, List.dropWhile_append]
  simp only [List.isEmpty_reverse]
  split <;> simp

theorem trimRight_render_append {t : Token} (h : t.isBlank = false) (cs : List Char) :
    Text.trimRight (t.render ++ cs) = t.render ++ Text.trimRight cs := by
  obtain ⟨_, _, d, ds, _, hd, _, hrender⟩ := exists_render_eq h
  have hkeep : Text.trimRight t.render = t.render := by
    rw [hrender]
    simp [Text.trimRight, hd]
  rw [trimRight_append, hkeep]
  split
  . next hempty => rw [List.isEmpty_iff.1 hempty, List.append_nil]
  . rfl

theorem trimRight_space_render_append {t : Token} (h : t.isBlank = false) (cs : List Char) :
    Text.trimRight (' ' :: (t.render ++ cs)) = ' ' :: (t.render ++ Text.trimRight cs) := by
  obtain ⟨c, ds, _, _, _, _, hrender, _⟩ := exists_render_eq h
  rw [← List.singleton_append, trimRight_append, trimRight_render_append h]
  rw [if_neg (by simp [hrender])]
  rfl

theorem collapse_of_isBlank {t : Token} (h : t.isBlank = true) (inRun : Bool) (ts : List Token) :
    collapse inRun (t :: ts) = (if inRun then [] else [char ' ']) ++ collapse true ts := by
  cases inRun <;> simp [collapse, h]

theorem collapse_of_not_isBlank {t : Token} (h : t.isBlank = false) (inRun : Bool)
    (ts : List Token)
    : collapse inRun (t :: ts) = t :: collapse false ts := by
  simp [collapse, h]

/--
Behind a token that is not blank. A space that was written stays only if such a token follows, so
the two statements need each other.
-/
theorem trimRight_renderAll_collapse (ts : List Token) :
    Text.trimRight (renderAll (collapse false ts)) = renderAll (tidyFrom true false ts)
      ∧ Text.trimRight (' ' :: renderAll (collapse true ts))
        = renderAll (tidyFrom true true ts) := by
  induction ts with
  | nil => decide
  | cons t ts ih =>
    cases h : t.isBlank with
    | true =>
      constructor
      . rw [collapse_of_isBlank h, tidyFrom, if_pos h]
        exact ih.2
      . rw [collapse_of_isBlank h, tidyFrom, if_pos h]
        exact ih.2
    | false =>
      constructor
      . rw [collapse_of_not_isBlank h, tidyFrom, if_neg (by simp [h])]
        rw [renderAll_cons, trimRight_render_append h, ih.1]
        rfl
      . rw [collapse_of_not_isBlank h, tidyFrom, if_neg (by simp [h])]
        rw [renderAll_cons, trimRight_space_render_append h, ih.1]
        rfl

theorem trim_renderAll_collapse (ts : List Token) (inRun pending : Bool) :
    Text.trim (renderAll (collapse inRun ts)) = renderAll (tidyFrom false pending ts) := by
  induction ts generalizing inRun pending with
  | nil => rfl
  | cons t ts ih =>
    cases h : t.isBlank with
    | true =>
      rw [collapse_of_isBlank h, tidyFrom, if_pos h, ← ih true true]
      cases inRun with
      | true => rfl
      | false =>
        rw [renderAll_append]
        have : Text.isBlank ' ' = true := by decide
        simp [renderAll, render_space, Text.trim, Text.trimLeft, this]
    | false =>
      rw [collapse_of_not_isBlank h, tidyFrom, if_neg (by simp [h])]
      rw [renderAll_cons, Text.trim, trimLeft_render_append h, trimRight_render_append h]
      rw [(trimRight_renderAll_collapse ts).1]
      rfl

theorem isBlank_shift (offset : Int) (t : Token) : (t.shift offset).isBlank = t.isBlank := by
  cases t <;> rfl

theorem tidyFrom_map_shift (offset : Int) (started pending : Bool) (ts : List Token) :
    tidyFrom started pending (ts.map (shift offset))
      = (tidyFrom started pending ts).map (shift offset) := by
  induction ts generalizing started pending with
  | nil => rfl
  | cons t ts ih =>
    rw [List.map_cons, tidyFrom, tidyFrom, isBlank_shift, ih, ih]
    split
    . rfl
    . split <;> rfl

theorem tidy_map_shift (offset : Int) (ts : List Token) :
    tidy (ts.map (shift offset)) = (tidy ts).map (shift offset) :=
  tidyFrom_map_shift offset false false ts

theorem isEmpty_tidyFrom (started pending : Bool) (ts : List Token) :
    (tidyFrom started pending ts).isEmpty = ts.all isBlank := by
  induction ts generalizing started pending with
  | nil => rfl
  | cons t ts ih =>
    unfold tidyFrom
    split
    . next h => simp [h, ih]
    . next h => simp [h]

theorem tidyFrom_false (pending : Bool) (ts : List Token) :
    tidyFrom false pending ts = tidy ts := by
  unfold tidy
  cases ts with
  | nil => rfl
  | cons t ts => simp [tidyFrom]

theorem tidyFrom_true (pending : Bool) (ts : List Token) :
    tidyFrom true pending ts
      = (if !(tidy ts).isEmpty && (pending || headIs isBlank ts) then [.char ' '] else [])
        ++ tidy ts := by
  induction ts generalizing pending with
  | nil => rfl
  | cons t ts ih =>
    unfold tidy
    rw [tidyFrom, tidyFrom]
    split
    . next h =>
      rw [ih true, tidyFrom_false]
      simp [h]
    . next h => simp [h]

theorem tidyFrom_append (started pending : Bool) (ts us : List Token) :
    tidyFrom started pending (ts ++ us)
      = tidyFrom started pending ts
        ++ tidyFrom (started || !ts.all isBlank) (if ts.isEmpty then pending else lastIs isBlank ts)
          us := by
  induction ts generalizing started pending with
  | nil => simp [tidyFrom]
  | cons t ts ih =>
    rw [List.cons_append, tidyFrom, tidyFrom, lastIs_cons]
    split
    . next h =>
      rw [ih]
      simp [h]
    . next h =>
      rw [ih]
      simp [h]

theorem tidyFrom_tidyFrom (started pending : Bool) (ts : List Token) :
    tidyFrom started false (tidyFrom started pending ts) = tidyFrom started pending ts := by
  have hspace : isBlank (.char ' ') = true := by decide
  induction ts generalizing started pending with
  | nil => rfl
  | cons t ts ih =>
    rw [tidyFrom]
    split
    . exact ih started true
    . next h =>
      split
      . next hboth =>
        rw [Bool.and_eq_true] at hboth
        rw [hboth.1]
        simp [tidyFrom, hspace, h, ih]
      . simp [tidyFrom, h, ih]

theorem tidy_tidy (ts : List Token) : tidy (tidy ts) = tidy ts :=
  tidyFrom_tidyFrom false false ts

/--
Whether the tidy form of two texts has a space between theirs: where there are blanks at the seam,
unless one of the texts is blank altogether.
-/
def isSpaced (ts us : List Token) : Bool :=
  !(tidy ts).isEmpty && !(tidy us).isEmpty && (lastIs isBlank ts || headIs isBlank us)

theorem tidy_append (ts us : List Token) :
    tidy (ts ++ us) = tidy ts ++ (if isSpaced ts us then [.char ' '] else []) ++ tidy us := by
  unfold isSpaced
  have hempty : (tidy ts).isEmpty = ts.all isBlank := isEmpty_tidyFrom false false ts
  conv => lhs; unfold tidy
  rw [tidyFrom_append, ← tidy, Bool.false_or, ← hempty, List.append_assoc]
  congr 1
  cases h : (tidy ts).isEmpty with
  | true =>
    rw [Bool.not_true, tidyFrom_false]
    rfl
  | false =>
    have hne : ts.isEmpty = false := by
      rw [hempty] at h
      cases ts with
      | nil => contradiction
      | cons t ts => rfl
    rw [Bool.not_false, tidyFrom_true, hne]
    rfl

end Token

namespace Segment

def collapseFrom (inRun : Bool) : List Segment → List Token
  | [] => []
  | s :: segments =>
    (Text.collapse.go inRun s.literal).map .char ++ (s.placeholder.map Token.hole).toList
      ++ tokensAll (segments.map collapse)

theorem collapseFrom_false (segments : List Segment) :
    collapseFrom false segments = tokensAll (segments.map collapse) := by
  cases segments <;> rfl

theorem collapseFrom_consLiteral (inRun : Bool) (c : Char) (segments : List Segment) :
    collapseFrom inRun (consLiteral c segments)
      = (if Text.isBlank c then
          (if inRun then [] else [.char ' ']) ++ collapseFrom true segments
        else
          .char c :: collapseFrom false segments) := by
  cases h : Text.isBlank c with
  | true =>
    cases segments <;> cases inRun <;> simp [consLiteral, collapseFrom, Text.collapse.go, h]
  | false => cases segments <;> simp [consLiteral, collapseFrom, Text.collapse.go, h]

theorem collapseFrom_ofTokens (inRun : Bool) (ts : List Token) :
    collapseFrom inRun (ofTokens ts) = Token.collapse inRun ts := by
  induction ts generalizing inRun with
  | nil => rfl
  | cons t ts ih =>
    cases t with
    | hole p =>
      rw [ofTokens, collapseFrom, ← collapseFrom_false, ih]
      rfl
    | char c =>
      unfold ofTokens
      split
      . next hc =>
        have hblank := isBlank_of_isBrace hc
        rw [collapseFrom, ← collapseFrom_false, ih]
        rw [Text.collapse.go_cons_of_not_blank _ _ _ hblank]
        rw [Token.collapse_of_not_isBlank (by exact hblank)]
        rfl
      . rw [collapseFrom_consLiteral, ih, ih]
        cases h : Text.isBlank c with
        | true => rw [Token.collapse_of_isBlank (by exact h), if_pos rfl]
        | false => rw [Token.collapse_of_not_isBlank (by exact h), if_neg (by simp)]

theorem trim_flatMap_render {segments : List Segment}
    (h : ofTokens (tokensAll segments) = segments)
    : Text.trim (segments.map collapse |>.flatMap render)
        = Token.renderAll (Token.tidy (tokensAll segments)) := by
  rw [flatMap_render, ← collapseFrom_false, ← h]
  rw [collapseFrom_ofTokens, tokensAll_ofTokens]
  exact Token.trim_renderAll_collapse _ false false

end Segment

theorem normalize_eq (keepBlanks : Bool) {format : String} {segments : List Segment}
    (h : Segment.parse format = .ok segments)
    : normalize keepBlanks format
        = .ok (if keepBlanks then format
          else String.ofList (Token.renderAll (Token.tidy (Segment.tokensAll segments)))) := by
  unfold normalize
  cases keepBlanks with
  | true => rfl
  | false =>
    rw [h, ok_bind, Segment.trim_flatMap_render (Segment.isReadFrom_of_parse h).ofTokens_eq]
    rfl

end Soql
