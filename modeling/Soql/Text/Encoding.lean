import Soql.Text.Symbol

/-!
This module contains which texts have a form in UTF-8: those that are strings. All others are
refused at their first surrogate.
-/

namespace Soql
namespace Text

/--
The first run of surrogates in a text.
-/
structure Unencodable where
  position : Nat
  first : Fin 2048
  /-- How many surrogates follow the first one at once. -/
  more : Nat
  deriving DecidableEq

namespace Unencodable

def ofRun (position : Nat) (first : Fin 2048) (rest : Text) : Unencodable :=
  ⟨position, first, (rest.takeWhile Symbol.isSurrogate).length⟩

def message (u : Unencodable) : String :=
  let place (n : Nat) := String.ofList (Nat.toDigits 10 n)
  let what :=
    if u.more = 0 then
      "character '\\u" ++ String.ofList (Nat.toDigits 16 (Symbol.surrogate u.first).codePoint)
        ++ "' in position " ++ place u.position
    else
      "characters in position " ++ place u.position ++ "-" ++ place (u.position + u.more)
  "'utf-8' codec can't encode " ++ what ++ ": surrogates not allowed"

end Unencodable

def leading : Text → List Char
  | .char c :: t => c :: leading t
  | _ => []

def encode (t : Text) : Except Unencodable String :=
  match t.drop t.leading.length with
  | .surrogate k :: rest => .error (.ofRun t.leading.length k rest)
  | _ => .ok (String.ofList t.leading)

theorem leading_ofChars_append (cs : List Char) (t : Text) :
    leading (ofChars cs ++ t) = cs ++ leading t := by
  induction cs with
  | nil => rfl
  | cons c cs ih => exact congrArg (c :: ·) ih

theorem encode_ofString (s : String) : encode (ofString s) = .ok s := by
  have hleading : leading (ofString s) = s.toList := by
    simpa [ofString, leading] using leading_ofChars_append s.toList []
  have hdrop : (ofString s).drop s.toList.length = [] :=
    List.drop_eq_nil_of_le (by simp [ofString, ofChars])
  unfold encode
  rw [hleading, hdrop]
  simp

theorem encode_of_surrogate (cs : List Char) (k : Fin 2048) (rest : Text) :
    encode (ofChars cs ++ .surrogate k :: rest) = .error (.ofRun cs.length k rest) := by
  have hleading : leading (ofChars cs ++ .surrogate k :: rest) = cs := by
    simp [leading_ofChars_append, leading]
  have hdrop : (ofChars cs ++ .surrogate k :: rest).drop cs.length = .surrogate k :: rest :=
    List.drop_left' (by simp [ofChars])
  unfold encode
  rw [hleading, hdrop]

theorem eq_ofChars_or_surrogate (t : Text) :
    (∃ cs, t = ofChars cs) ∨ ∃ cs k rest, t = ofChars cs ++ .surrogate k :: rest := by
  induction t with
  | nil => exact .inl ⟨[], rfl⟩
  | cons s t ih =>
    cases s with
    | surrogate k => exact .inr ⟨[], k, t, rfl⟩
    | char c =>
      rcases ih with ⟨cs, rfl⟩ | ⟨cs, k, rest, rfl⟩
      . exact .inl ⟨c :: cs, rfl⟩
      . exact .inr ⟨c :: cs, k, rest, rfl⟩

theorem encode_eq_ok_iff {t : Text} {s : String} : encode t = .ok s ↔ t = ofString s := by
  constructor
  . intro h
    rcases eq_ofChars_or_surrogate t with ⟨cs, rfl⟩ | ⟨cs, k, rest, rfl⟩
    . rw [← ofString_ofList, encode_ofString] at h
      cases h
      exact (ofString_ofList cs).symm
    . rw [encode_of_surrogate] at h
      cases h
  . rintro rfl
    exact encode_ofString s

theorem encode_eq_error_iff {t : Text} {u : Unencodable} :
    encode t = .error u
      ↔ ∃ cs k rest, t = ofChars cs ++ .surrogate k :: rest ∧ u = .ofRun cs.length k rest := by
  constructor
  . intro h
    rcases eq_ofChars_or_surrogate t with ⟨cs, rfl⟩ | ⟨cs, k, rest, rfl⟩
    . rw [← ofString_ofList, encode_ofString] at h
      cases h
    . rw [encode_of_surrogate] at h
      cases h
      exact ⟨cs, k, rest, rfl, rfl⟩
  . rintro ⟨cs, k, rest, rfl, rfl⟩
    exact encode_of_surrogate cs k rest

end Text
end Soql
