import Soql.Text.Encoding

/-!
This module contains percent-encoding: every byte of the UTF-8 form of a text that is not an
unreserved character becomes a percent sign and two hexadecimal digits.
-/

namespace Soql
namespace Url

def isAsciiLetter (c : Char) : Bool :=
  ('a' ≤ c && c ≤ 'z') || ('A' ≤ c && c ≤ 'Z')

def isUnreserved (c : Char) : Bool :=
  isAsciiLetter c || c.isDigit || c == '_' || c == '.' || c == '-' || c == '~'

def hexDigit (n : Nat) : Char :=
  if n < 10 then Char.ofNat ('0'.toNat + n) else Char.ofNat ('A'.toNat + (n - 10))

def percentByte (b : UInt8) : List Char :=
  ['%', hexDigit (b.toNat / 16), hexDigit (b.toNat % 16)]

def percentChar (c : Char) : List Char :=
  if isUnreserved c then [c] else (String.utf8EncodeChar c).flatMap percentByte

def percentChars (cs : List Char) : List Char :=
  cs.flatMap percentChar

def percentEncode (t : Text) : Except Text.Unencodable (List Char) := do
  let s ← t.encode
  return percentChars s.toList

theorem isUnreserved_hexDigit {n : Nat} (h : n < 16) : isUnreserved (hexDigit n) = true := by
  have hall : ∀ n < 16, isUnreserved (hexDigit n) = true := by decide
  exact hall n h

theorem isUnreserved_of_mem_percentChars {cs : List Char} {c : Char} (h : c ∈ percentChars cs) :
    isUnreserved c = true ∨ c = '%' := by
  obtain ⟨d, -, hc⟩ := List.mem_flatMap.1 h
  unfold percentChar at hc
  split at hc
  . next hd =>
    rw [List.mem_singleton.1 hc]
    exact .inl hd
  . obtain ⟨b, -, hc⟩ := List.mem_flatMap.1 hc
    have hb : b.toNat < 256 := b.toNat_lt
    simp only [percentByte, List.mem_cons, List.not_mem_nil, or_false] at hc
    rcases hc with rfl | rfl | rfl
    . exact .inr rfl
    . exact .inl (isUnreserved_hexDigit (by omega))
    . exact .inl (isUnreserved_hexDigit (by omega))

end Url
end Soql
