import Soql.Proofs.Template.Tidy

/-!
This module contains the literal texts around the placeholders of a format text, and what its
normalization makes of them.
-/

namespace Soql
namespace Token

/--
The literal texts in front of the first placeholder, between any two, and behind the last: one more
than there are placeholders.
-/
def gaps : List Token → List (List Char)
  | [] => [[]]
  | .char c :: ts => (gaps ts).modifyHead (c :: ·)
  | .hole _ :: ts => [] :: gaps ts

theorem exists_gaps_eq (ts : List Token) : ∃ text texts, gaps ts = text :: texts := by
  induction ts with
  | nil => exact ⟨[], [], rfl⟩
  | cons t ts ih =>
    obtain ⟨text, texts, h⟩ := ih
    cases t with
    | char c => exact ⟨c :: text, texts, by rw [gaps, h]; rfl⟩
    | hole p => exact ⟨[], gaps ts, rfl⟩

end Token

namespace Text

def trimLast : List (List Char) → List (List Char)
  | [] => []
  | [text] => [trimRight text]
  | text :: texts => text :: trimLast texts

def trimOuter (texts : List (List Char)) : List (List Char) :=
  trimLast (texts.modifyHead trimLeft)

theorem trimLast_cons {texts : List (List Char)} (h : texts ≠ []) (text : List Char) :
    trimLast (text :: texts) = text :: trimLast texts := by
  cases texts with
  | nil => contradiction
  | cons _ _ => rfl

theorem trimRight_append_cons {c : Char} (h : isBlank c = false) (front cs : List Char) :
    trimRight (front ++ c :: cs) = front ++ c :: trimRight cs := by
  have hkept : trimRight (c :: cs) = c :: trimRight cs := by
    rw [← List.singleton_append, Token.trimRight_append]
    split
    . next hempty =>
      rw [List.isEmpty_iff.1 hempty]
      simp [trimRight, h]
    . rfl
  rw [Token.trimRight_append, hkept]
  rfl

theorem trimLast_modifyHead {c : Char} (h : isBlank c = false) (front : List Char)
    (texts : List (List Char))
    : trimLast (texts.modifyHead (front ++ c :: ·))
        = (trimLast texts).modifyHead (front ++ c :: ·) := by
  rcases texts with _ | ⟨text, _ | ⟨text', texts⟩⟩
  . rfl
  . simp [trimLast, trimRight_append_cons h]
  . rfl

theorem collapse_cons_of_blank {c : Char} (h : isBlank c = true) (cs : List Char) :
    collapse (c :: cs) = ' ' :: collapse.go true cs := by
  simp [collapse, collapse.go, h]

theorem collapse_cons_cons_of_blank {c d : Char} (hc : isBlank c = true) (hd : isBlank d = true)
    (cs : List Char) : collapse (c :: d :: cs) = collapse (d :: cs) := by
  rw [collapse_cons_of_blank hc, collapse_cons_of_blank hd]
  simp [collapse.go, hd]

theorem trimLeft_collapse_cons_of_blank {c : Char} (h : isBlank c = true) (cs : List Char) :
    trimLeft (collapse (c :: cs)) = trimLeft (collapse cs) := by
  have hspace : isBlank ' ' = true := by decide
  rw [collapse_cons_of_blank h]
  cases cs with
  | nil => simp [trimLeft, hspace, collapse.go]
  | cons d cs => cases hd : isBlank d <;> simp [trimLeft, collapse, collapse.go, hspace, hd]

end Text

namespace Token

def space (pending : Bool) : List Char :=
  if pending then [' '] else []

theorem collapse_space_append_cons_of_blank (pending : Bool) {c : Char}
    (h : Text.isBlank c = true) (cs : List Char)
    : Text.collapse (space pending ++ c :: cs) = Text.collapse (' ' :: cs) := by
  have hspace : Text.isBlank ' ' = true := by decide
  have hone : Text.collapse (c :: cs) = Text.collapse (' ' :: cs) := by
    rw [Text.collapse_cons_of_blank h, Text.collapse_cons_of_blank hspace]
  cases pending with
  | true => exact (Text.collapse_cons_cons_of_blank hspace h cs).trans hone
  | false => exact hone

theorem collapse_space_append_cons_of_not_blank (pending : Bool) {c : Char}
    (h : Text.isBlank c = false) (cs : List Char)
    : Text.collapse (space pending ++ c :: cs) = space pending ++ c :: Text.collapse cs := by
  have hspace : Text.isBlank ' ' = true := by decide
  cases pending with
  | true => simp [space, Text.collapse, Text.collapse.go, hspace, h]
  | false => exact Text.collapse_cons_of_not_blank c cs h

theorem collapse_space (pending : Bool) : Text.collapse (space pending) = space pending := by
  cases pending <;> decide

theorem gaps_map_char_append (cs : List Char) (ts : List Token) :
    gaps (cs.map .char ++ ts) = (gaps ts).modifyHead (cs ++ ·) := by
  obtain ⟨text, texts, h⟩ := exists_gaps_eq ts
  induction cs with
  | nil => simp [h]
  | cons c cs ih => rw [List.map_cons, List.cons_append, gaps, ih, h]; rfl

theorem gaps_tidyFrom_true (pending : Bool) (ts : List Token) :
    gaps (tidyFrom true pending ts)
      = Text.trimLast (((gaps ts).modifyHead (space pending ++ ·)).map Text.collapse) := by
  induction ts generalizing pending with
  | nil => cases pending <;> decide
  | cons t ts ih =>
    obtain ⟨text, texts, h⟩ := exists_gaps_eq ts
    have hwritten : (if true && pending then [char ' '] else []) = (space pending).map char := by
      cases pending <;> rfl
    cases t with
    | hole p =>
      rw [tidyFrom, if_neg (by simp [isBlank]), hwritten, gaps_map_char_append]
      rw [gaps, gaps, ih false]
      simp only [List.modifyHead_cons, List.map_cons, List.append_nil, collapse_space]
      rw [Text.trimLast_cons (by simp [h])]
      simp [space, h]
    | char c =>
      cases hc : Text.isBlank c with
      | true =>
        rw [tidyFrom, if_pos (by exact hc), ih true, gaps, h]
        simp only [List.modifyHead_cons, List.map_cons]
        rw [collapse_space_append_cons_of_blank pending hc]
        rfl
      | false =>
        rw [tidyFrom, if_neg (by simp [isBlank, hc]), hwritten, gaps_map_char_append]
        rw [gaps, ih false]
        rw [List.modifyHead_modifyHead, gaps, h]
        simp only [List.modifyHead_cons, List.map_cons]
        rw [collapse_space_append_cons_of_not_blank pending hc]
        exact (Text.trimLast_modifyHead hc (space pending) _).symm

theorem gaps_tidyFrom_true_false (ts : List Token) :
    gaps (tidyFrom true false ts) = Text.trimLast ((gaps ts).map Text.collapse) := by
  obtain ⟨text, texts, h⟩ := exists_gaps_eq ts
  rw [gaps_tidyFrom_true, h]
  rfl

theorem gaps_tidy (ts : List Token) :
    gaps (tidy ts) = Text.trimOuter ((gaps ts).map Text.collapse) := by
  unfold Text.trimOuter
  induction ts with
  | nil => decide
  | cons t ts ih =>
    obtain ⟨text, texts, h⟩ := exists_gaps_eq ts
    cases t with
    | hole p =>
      rw [tidy, tidyFrom, if_neg (by simp [isBlank])]
      simp only [Bool.false_and, Bool.false_eq_true, ↓reduceIte, List.nil_append]
      rw [gaps, gaps_tidyFrom_true_false, gaps, List.map_cons, List.modifyHead_cons]
      rw [Text.trimLast_cons (by simp [h])]
      rfl
    | char c =>
      cases hc : Text.isBlank c with
      | true =>
        rw [tidy, tidyFrom, if_pos (by exact hc), tidyFrom_false, ih, gaps, h]
        simp only [List.modifyHead_cons, List.map_cons]
        rw [Text.trimLeft_collapse_cons_of_blank hc]
      | false =>
        rw [tidy, tidyFrom, if_neg (by simp [isBlank, hc])]
        simp only [Bool.false_and, Bool.false_eq_true, ↓reduceIte, List.nil_append]
        rw [gaps, gaps_tidyFrom_true_false, gaps, h]
        simp only [List.modifyHead_cons, List.map_cons]
        rw [Text.collapse_cons_of_not_blank c text hc, Text.trimLeft_cons_of_not_blank c _ hc]
        exact (Text.trimLast_modifyHead hc [] (Text.collapse text :: texts.map Text.collapse)).symm

end Token
end Soql
