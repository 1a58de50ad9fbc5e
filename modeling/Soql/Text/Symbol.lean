/-!
This module contains texts. They are made of characters, but a text can also have one half of a
surrogate pair by itself. Such a text has no form in UTF-8, so that no string holds it.
-/

namespace Soql

inductive Symbol where
  | char (c : Char)
  /-- The code points between the last character below them and the first one above. -/
  | surrogate (index : Fin 2048)
  deriving DecidableEq

namespace Symbol

instance : Coe Char Symbol := ⟨char⟩

def firstSurrogate : Nat := 0xD800

def codePoint : Symbol → Nat
  | char c => c.toNat
  | surrogate index => firstSurrogate + index

def ofCodePoint (n : Nat) : Symbol :=
  if n.isValidChar then char (Char.ofNat n) else surrogate (Fin.ofNat 2048 (n - firstSurrogate))

theorem codePoint_ofCodePoint {n : Nat} (h : n < 0x110000) : (ofCodePoint n).codePoint = n := by
  unfold ofCodePoint
  split
  . next hn =>
    rw [codePoint, Char.ofNat, dif_pos hn]
    rfl
  . next hn =>
    simp only [Nat.isValidChar, not_or, not_and, Nat.not_lt] at hn
    simp only [codePoint, firstSurrogate, Fin.ofNat]
    omega

def isSurrogate : Symbol → Bool
  | char _ => false
  | surrogate _ => true

def satisfies (P : Char → Bool) : Symbol → Bool
  | char c => P c
  | surrogate _ => false

end Symbol

abbrev Text := List Symbol

namespace Text

def ofChars (cs : List Char) : Text :=
  cs.map .char

def ofString (s : String) : Text :=
  ofChars s.toList

instance : Coe String Text := ⟨ofString⟩

@[simp]
theorem ofString_empty : ofString "" = [] := rfl

theorem ofString_ofList (cs : List Char) : ofString (String.ofList cs) = ofChars cs := by
  rw [ofString, String.toList_ofList]

theorem ofChars_injective {cs ds : List Char} (h : ofChars cs = ofChars ds) : cs = ds :=
  List.map_inj_right (fun _ _ => Symbol.char.inj) |>.1 h

end Text
end Soql
