import Soql.Proofs.Number.Alphabet

/-!
This module contains the reading of digits: all of them are read, up to the first character that is
none.
-/

namespace Soql
namespace Text

theorem isDigit_toDigits (n : Nat) : MadeOf Char.isDigit (Nat.toDigits 10 n) := by
  rw [MadeOf.iff_forall_mem]
  intro c hc
  exact Nat.isDigit_of_mem_toDigits (by omega) (by omega) hc

theorem takeDigits_append {cs rest : List Char} (h : MadeOf Char.isDigit cs)
    (hrest : takeDigits rest = ([], rest))
    : takeDigits (cs ++ rest) = (Segment.digitValues cs, rest) := by
  induction cs with
  | nil => exact hrest
  | cons c cs ih =>
    obtain ⟨hc, hcs⟩ := MadeOf.cons_iff.1 h
    rw [List.cons_append, takeDigits, digitValue?_of_isDigit hc]
    dsimp only
    rw [ih hcs]
    rfl

theorem takeDigits_eq {cs : List Char} (h : MadeOf Char.isDigit cs) :
    takeDigits cs = (Segment.digitValues cs, []) := by
  have htake : takeDigits (cs ++ []) = (Segment.digitValues cs, []) := takeDigits_append h rfl
  rwa [List.append_nil] at htake

end Text
end Soql
