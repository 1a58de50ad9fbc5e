import Soql.Proofs.Template.Parse

/-!
This module contains the format text whose reading fails without a fault in the text: one that has a
numeral with too many digits, or more placeholders than can be numbered. No text of fewer characters
than there are such numbers has too many placeholders.
-/

namespace Soql
namespace Segment

def TooLong (text : List Char) (count : Nat) : Prop :=
  ∃ digits, digits <:+: text ∧ digits.all Char.isDigit = true ∧ maxDecimalDigits < digits.length
    ∧ digits.length = count

def Fault.IsDue (tooLong : Nat → Prop) (tooMany : Prop) : Fault → Prop
  | .format _ => True
  | .tooLong count => tooLong count
  | .tooMany => tooMany

def Numbering.count : Numbering → Nat
  | .automatic next => next
  | _ => 0

@[simp]
theorem count_undecided : Numbering.undecided.count = 0 := rfl

theorem le_of_isWritable_eq_false {n : Nat} (h : isWritable n = false) :
    Nat.pow 10 maxDecimalDigits ≤ n := by
  unfold isWritable at h
  exact Nat.le_of_not_lt (of_decide_eq_false h)

section

variable {tooLong : Nat → Prop} {limit : Nat}

theorem number_yields {numbering : Numbering} (hcount : numbering.count ≤ limit) {name : List Char}
    (hname : name.all Char.isDigit = true → maxDecimalDigits < name.length → tooLong name.length)
    : Yields (fun r => r.2.count ≤ numbering.count + 1)
      (Fault.IsDue tooLong (Nat.pow 10 maxDecimalDigits ≤ limit)) (number numbering name) := by
  fun_cases number numbering name with
  | case1 | case2 => exact .ok (Nat.le_refl _)
  | case3 _ next hnext =>
    rw [Bool.not_eq_true] at hnext
    exact .error (Nat.le_trans (le_of_isWritable_eq_false hnext) hcount)
  | case4 | case5 | case7 => exact .error trivial
  | case6 _ _ hdigits hlong =>
    rw [Bool.not_eq_true, Bool.not_eq_false'] at hdigits
    exact .error (hname hdigits hlong)
  | case8 => exact .ok (Nat.zero_le _)

theorem placeholder?_yields {numbering : Numbering} (hcount : numbering.count ≤ limit) {f : Field}
    (hname : f.name.all Char.isDigit = true → maxDecimalDigits < f.name.length
      → tooLong f.name.length)
    : Yields (fun r => r.2.count ≤ numbering.count + 1)
      (Fault.IsDue tooLong (Nat.pow 10 maxDecimalDigits ≤ limit)) (placeholder? numbering f) := by
  unfold placeholder?
  split
  . exact .error trivial
  . split
    . exact .error trivial
    . exact (number_yields hcount hname).bind fun r hr => .ok hr

theorem ofPieces_yields {numbering : Numbering} {ps : List Piece}
    (hcount : numbering.count + (Piece.fields ps).length ≤ limit)
    (hname : ∀ f ∈ Piece.fields ps, f.name.all Char.isDigit = true
      → maxDecimalDigits < f.name.length → tooLong f.name.length)
    : Yields (fun _ => True) (Fault.IsDue tooLong (Nat.pow 10 maxDecimalDigits ≤ limit))
      (ofPieces numbering ps) := by
  fun_induction ofPieces numbering ps with
  | case1 => exact .ok trivial
  | case2 numbering literal ps ih => exact (ih hcount hname).bind fun _ _ => .ok trivial
  | case3 numbering literal field ps ih =>
    rw [Piece.fields_some, List.length_cons] at hcount
    rw [Piece.fields_some, List.forall_mem_cons] at hname
    refine (placeholder?_yields (by omega) hname.1).bind fun r hr => ?_
    exact (ih r.2 (by omega) hname.2).bind fun _ _ => .ok trivial

end

theorem parse_eq_error {format : String} {e : Error} (h : parse format = .error e) :
    (∃ fault, e = .badFormat format fault)
      ∨ (∃ count, TooLong format.toList count ∧ e = .numeralTooLong count)
      ∨ Nat.pow 10 maxDecimalDigits ≤ format.length ∧ e = .integerTooLong := by
  unfold parse at h
  split at h
  . cases h
    exact .inl ⟨_, rfl⟩
  . next pieces hpieces =>
    have hreads := Piece.reads_of_scan hpieces
    have hlength : Numbering.undecided.count + (Piece.fields pieces).length ≤ format.length := by
      have := hreads.length_fields_le
      rw [String.length_toList] at this
      rw [count_undecided]
      omega
    have hname : ∀ f ∈ Piece.fields pieces, f.name.all Char.isDigit = true
        → maxDecimalDigits < f.name.length → TooLong format.toList f.name.length :=
      fun f hf hall hlong => ⟨f.name, hreads.isInfix_name f hf, hall, hlong, rfl⟩
    have hyields := ofPieces_yields hlength hname
    split at h
    . cases h
    . cases h
      exact .inl ⟨_, rfl⟩
    . next count hcount =>
      cases h
      rw [hcount] at hyields
      exact .inr (.inl ⟨count, hyields.of_error, rfl⟩)
    . next hmany =>
      cases h
      rw [hmany] at hyields
      exact .inr (.inr ⟨hyields.of_error, rfl⟩)

theorem parse_ne_integerTooLong {format : String}
    (h : format.length < Nat.pow 10 maxDecimalDigits) : parse format ≠ .error .integerTooLong := by
  intro herror
  rcases parse_eq_error herror with ⟨fault, h⟩ | ⟨count, _, h⟩ | ⟨hlong, _⟩
  . cases h
  . cases h
  . omega

end Segment
end Soql
