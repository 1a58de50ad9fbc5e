import Soql.Url.Percent
import Soql.Proofs.Url.Reference

/-!
This module contains the decoding of percent-encoded text, and that it gives back every text that
was encoded, whatever characters it has.
-/

namespace Soql
namespace Url

def hexValue? (c : Char) : Option Nat :=
  if c.isDigit then some (c.toNat - '0'.toNat)
  else if 'A' ≤ c && c ≤ 'F' then some (c.toNat - 'A'.toNat + 10)
  else if 'a' ≤ c && c ≤ 'f' then some (c.toNat - 'a'.toNat + 10)
  else none

/--
The bytes of a text. A percent sign stands for one byte with the two digits behind it, and for
itself without them.
-/
def octets : List Char → List UInt8
  | [] => []
  | '%' :: high :: low :: cs =>
    match hexValue? high, hexValue? low with
    | some h, some l => UInt8.ofNat (16 * h + l) :: octets cs
    | _, _ => String.utf8EncodeChar '%' ++ octets (high :: low :: cs)
  | c :: cs => String.utf8EncodeChar c ++ octets cs

def percentDecode (cs : List Char) : Option String :=
  String.fromUTF8? (octets cs).toByteArray

def isCapitalHexDigit (c : Char) : Bool :=
  c.isDigit || ('A' ≤ c && c ≤ 'F')

inductive IsEncoded : List Char → Prop where
  | nil : IsEncoded []
  | plain {c : Char} {cs : List Char} (hc : isUnreserved c = true) (h : IsEncoded cs) :
    IsEncoded (c :: cs)
  | byte {high low : Char} {cs : List Char} (hhigh : isCapitalHexDigit high = true)
    (hlow : isCapitalHexDigit low = true) (h : IsEncoded cs) :
    IsEncoded ('%' :: high :: low :: cs)

theorem IsEncoded.append {cs ds : List Char} (hcs : IsEncoded cs) (hds : IsEncoded ds) :
    IsEncoded (cs ++ ds) := by
  induction hcs with
  | nil => exact hds
  | plain hc _ ih => exact .plain hc ih
  | byte hhigh hlow _ ih => exact .byte hhigh hlow ih

theorem IsEncoded.flatMap {f : α → List Char} {as : List α} (h : ∀ a ∈ as, IsEncoded (f a)) :
    IsEncoded (as.flatMap f) := by
  induction as with
  | nil => exact .nil
  | cons a as ih =>
    rw [List.forall_mem_cons] at h
    rw [List.flatMap_cons]
    apply IsEncoded.append h.1
    apply ih h.2

theorem isCapitalHexDigit_hexDigit {n : Nat} (h : n < 16) :
    isCapitalHexDigit (hexDigit n) = true := by
  have hall : ∀ n < 16, isCapitalHexDigit (hexDigit n) = true := by decide
  apply hall n h

theorem isEncoded_percentByte (b : UInt8) : IsEncoded (percentByte b) := by
  have hb : b.toNat < 256 := b.toNat_lt
  unfold percentByte
  apply IsEncoded.byte
  . apply isCapitalHexDigit_hexDigit
    omega
  . apply isCapitalHexDigit_hexDigit
    omega
  . apply IsEncoded.nil

theorem isEncoded_percentChars (cs : List Char) : IsEncoded (percentChars cs) := by
  unfold percentChars
  apply IsEncoded.flatMap
  intro c _
  unfold percentChar
  split
  . next hc => exact .plain hc .nil
  . apply IsEncoded.flatMap
    intro b _
    apply isEncoded_percentByte

theorem hexValue?_hexDigit {n : Nat} (h : n < 16) : hexValue? (hexDigit n) = some n := by
  have hall : ∀ n < 16, hexValue? (hexDigit n) = some n := by decide
  apply hall n h

theorem octets_percentByte_append (b : UInt8) (rest : List Char) :
    octets (percentByte b ++ rest) = b :: octets rest := by
  have hb : b.toNat < 256 := b.toNat_lt
  have hhigh : b.toNat / 16 < 16 := by omega
  have hlow : b.toNat % 16 < 16 := by omega
  have hvalue : 16 * (b.toNat / 16) + b.toNat % 16 = b.toNat := by omega
  unfold percentByte
  simp only [List.cons_append, List.nil_append]
  rw [octets, hexValue?_hexDigit hhigh, hexValue?_hexDigit hlow]
  dsimp only
  rw [hvalue, UInt8.ofNat_toNat]

theorem octets_flatMap_percentByte_append (bytes : List UInt8) (rest : List Char) :
    octets (bytes.flatMap percentByte ++ rest) = bytes ++ octets rest := by
  induction bytes with
  | nil => rfl
  | cons b bytes ih =>
    rw [List.flatMap_cons, List.append_assoc, octets_percentByte_append, ih]
    rfl

theorem octets_cons_of_ne {c : Char} (h : c ≠ '%') (cs : List Char) :
    octets (c :: cs) = String.utf8EncodeChar c ++ octets cs := by
  rw [octets]
  simp [h]

theorem octets_percentChar_append (c : Char) (rest : List Char) :
    octets (percentChar c ++ rest) = String.utf8EncodeChar c ++ octets rest := by
  unfold percentChar
  split
  . next hc => exact octets_cons_of_ne (ne_of_holds hc (by decide)) rest
  . apply octets_flatMap_percentByte_append

theorem octets_percentChars (cs : List Char) :
    octets (percentChars cs) = cs.flatMap String.utf8EncodeChar := by
  unfold percentChars
  induction cs with
  | nil => rfl
  | cons c cs ih => rw [List.flatMap_cons, List.flatMap_cons, octets_percentChar_append, ih]

theorem percentDecode_percentChars (s : String) :
    percentDecode (percentChars s.toList) = some s := by
  have hbytes : (s.toList.flatMap String.utf8EncodeChar).toByteArray = s.toByteArray :=
    String.utf8Encode_toList
  unfold percentDecode String.fromUTF8?
  rw [octets_percentChars, hbytes, dif_pos s.isValidUTF8]
  rfl

theorem percentEncode_eq_ok_iff {t : Text} {encoded : List Char} :
    percentEncode t = .ok encoded
      ↔ ∃ s : String, t = Text.ofString s ∧ percentChars s.toList = encoded := by
  unfold percentEncode
  simp only [bind_eq_ok_iff, Text.encode_eq_ok_iff, pure_eq_ok, Except.ok.injEq]

theorem percentEncode_eq_error_iff {t : Text} {u : Text.Unencodable} :
    percentEncode t = .error u ↔ t.encode = .error u := by
  unfold percentEncode
  simp [bind_eq_error_iff]

theorem percentEncode_ofString (s : String) :
    percentEncode (Text.ofString s) = .ok (percentChars s.toList) :=
  percentEncode_eq_ok_iff.2 ⟨s, rfl, rfl⟩

section

variable {t : Text} {encoded : List Char} (h : percentEncode t = .ok encoded)
include h

theorem isEncoded_of_percentEncode : IsEncoded encoded := by
  obtain ⟨s, _, rfl⟩ := percentEncode_eq_ok_iff.1 h
  apply isEncoded_percentChars

theorem percentDecode_of_percentEncode :
    (percentDecode encoded).map Text.ofString = some t := by
  obtain ⟨s, rfl, rfl⟩ := percentEncode_eq_ok_iff.1 h
  rw [percentDecode_percentChars, Option.map_some]

theorem percentEncode_inj {t' : Text} {encoded' : List Char}
    (h' : percentEncode t' = .ok encoded') : encoded' = encoded ↔ t' = t := by
  constructor
  . rintro rfl
    have hdecoded := percentDecode_of_percentEncode h
    rw [percentDecode_of_percentEncode h', Option.some.injEq] at hdecoded
    exact hdecoded
  . rintro rfl
    rw [h, Except.ok.injEq] at h'
    exact h'.symm

end

end Url
end Soql
