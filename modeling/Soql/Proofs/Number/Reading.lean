import Soql.Number.Pattern.Decimal
import Soql.Proofs.Outcome

/-!
This module contains what a number pattern has from its text: its code is the last character of the
text or the default, and its fill character stands in the text or is a zero or a space.
-/

namespace Soql

namespace NumberPattern

def FillsFrom (text : Text) (p : NumberPattern) : Prop :=
  p.fill ∈ text ∨ p.fill = .char '0' ∨ p.fill = .char ' '

def CodesFrom (text : Text) (default : Option Char) (p : NumberPattern) : Prop :=
  p.code = default ∨ ∃ c, [.char c] <:+ text ∧ p.code = some c

def Leaves {α : Type} (text : Text) (r : α × Text) : Prop :=
  r.2 <:+ text

section Readers

variable {text t : Text}

theorem readAlign_leaves (h : t <:+ text) : (readAlign t).2.2 <:+ text := by
  refine List.IsSuffix.trans ?_ h
  fun_cases readAlign t with
  | case1 | case2 | case3 => simp
  | case4 s s' t => exact (List.suffix_cons s' t).trans (List.suffix_cons s _)
  | case5 s s' t => exact List.suffix_cons s _
  | case6 => exact List.suffix_rfl

theorem mem_of_readAlign {fill : Symbol} (h : (readAlign t).1 = some fill) : fill ∈ t := by
  revert h
  fun_cases readAlign t with
  | case4 s s' t =>
    rintro ⟨⟩
    exact List.mem_cons_self
  | case1 | case2 | case3 | case5 | case6 => simp

theorem readSign_leaves (h : t <:+ text) : Leaves text (readSign t) := by
  refine List.IsSuffix.trans ?_ h
  fun_cases readSign t with
  | case1 | case3 => exact List.suffix_rfl
  | case2 s t => exact List.suffix_cons s t

theorem readMark_leaves (mark : Char) (h : t <:+ text) : Leaves text (readMark mark t) := by
  refine List.IsSuffix.trans ?_ h
  fun_cases readMark mark t with
  | case1 | case3 => exact List.suffix_rfl
  | case2 s t => exact List.suffix_cons s t

theorem readCount_leaves (h : t <:+ text) :
    Yields (Leaves text) (fun _ => True) (readCount t) := by
  unfold readCount
  split
  . exact .ok h
  . dsimp only
    split
    . exact .ok ((List.drop_suffix _ t).trans h)
    . exact .error trivial

theorem readSeparator_leaves (h : t <:+ text) :
    Yields (Leaves text) (fun _ => True) (readSeparator t) := by
  have hcomma := readMark_leaves ',' h
  have hunderscore := readMark_leaves '_' hcomma
  unfold readSeparator
  dsimp only
  split
  . exact .error trivial
  . split
    . exact .error trivial
    . split
      . exact .ok hunderscore
      . split
        . exact .ok hunderscore
        . exact .ok hunderscore

theorem readPrecision_leaves (h : t <:+ text) :
    Yields (Leaves text) (fun _ => True) (readPrecision t) := by
  have hpoint := readMark_leaves '.' h
  unfold readPrecision
  dsimp only
  split
  . refine (readCount_leaves hpoint).bind ?_
    rintro ⟨count, rest⟩ hrest
    cases count with
    | none => exact .error trivial
    | some n => exact .ok hrest
  . exact .ok h

end Readers

theorem takeCode_yields (kind : String) (default : Option Char) {pattern t : Text}
    (h : t <:+ pattern)
    : Yields (fun code => code = default.map .char ∨ ∃ s, [s] <:+ pattern ∧ code = some s)
      (fun _ => True) (takeCode kind default pattern t) := by
  fun_cases takeCode kind default pattern t with
  | case1 => exact .ok (.inl rfl)
  | case2 s => exact .ok (.inr ⟨s, h, rfl⟩)
  | case3 => exact .error trivial

theorem charCode_yields (kind : String) (code : Option Symbol) :
    Yields (fun c? => code = c?.map .char) (fun _ => True) (charCode kind code) := by
  fun_cases charCode kind code with
  | case1 => exact .ok rfl
  | case2 c => exact .ok rfl
  | case3 => exact .error trivial

theorem codesFrom_map {text : Text} {default c? : Option Char} {code : Option Symbol}
    (h : code = default.map .char ∨ ∃ s, [s] <:+ text ∧ code = some s) (hc : code = c?.map .char) :
    c? = default ∨ ∃ c, [.char c] <:+ text ∧ c? = some c := by
  rw [hc] at h
  rcases h with h | ⟨s, hs, h⟩
  . exact .inl (Option.map_injective (fun _ _ => Symbol.char.inj) h)
  . obtain ⟨c, hc, rfl⟩ := Option.map_eq_some_iff.1 h
    exact .inr ⟨c, hs, hc⟩

theorem fillsFrom_getD {text : Text} {fill : Option Symbol}
    (h : ∀ s, fill = some s → s ∈ text) (zeros : Bool) :
    fill.getD (if zeros then .char '0' else .char ' ') ∈ text
      ∨ fill.getD (if zeros then .char '0' else .char ' ') = .char '0'
      ∨ fill.getD (if zeros then .char '0' else .char ' ') = .char ' ' := by
  cases fill with
  | some s => exact .inl (h s rfl)
  | none =>
    cases zeros with
    | true => exact .inr (.inl rfl)
    | false => exact .inr (.inr rfl)

theorem read_from (kind : String) (defaultAlign : Align) (default : Option Char) (pattern : Text) :
    Yields (fun p => FillsFrom pattern p ∧ CodesFrom pattern default p) (fun _ => True)
      (read kind defaultAlign default pattern) := by
  have hfill (s : Symbol) (h : (readAlign pattern).1 = some s) := mem_of_readAlign h
  have halign := readAlign_leaves (List.suffix_refl pattern)
  have hmarks := readMark_leaves '#' (readMark_leaves 'z' (readSign_leaves halign))
  unfold read
  dsimp -zeta only
  generalize readAlign pattern = aligned at *
  generalize readMark '#' _ = marked at *
  have hzeros : Leaves pattern
      (if aligned.1.isNone then readMark '0' marked.2 else (false, marked.2)) := by
    split
    . exact readMark_leaves '0' hmarks
    . exact hmarks
  refine (readCount_leaves hzeros).bind ?_
  rintro ⟨width, t⟩ hwidth
  refine (readSeparator_leaves hwidth).bind ?_
  rintro ⟨separator, t⟩ hseparator
  refine (readPrecision_leaves hseparator).bind ?_
  rintro ⟨precision, t⟩ hprecision
  refine (takeCode_yields kind default hprecision).bind fun code hcode => ?_
  refine .bind_of_forall (fun _ => trivial) fun _ => ?_
  refine (charCode_yields kind code).bind fun c? hc => ?_
  exact .ok ⟨fillsFrom_getD hfill _, codesFrom_map hcode hc⟩

theorem takePositiveZero_subset (cs : List Char) : (takePositiveZero cs).2 ⊆ cs := by
  unfold takePositiveZero
  extract_lets first place
  split
  . exact List.eraseIdx_subset
  . exact List.Subset.refl _

theorem untilNul_subset (cs : List Char) : untilNul cs ⊆ cs := by
  unfold untilNul
  split
  . next cs =>
    split
    . exact List.cons_subset_cons _ (List.takeWhile_sublist _).subset
    . exact List.cons_subset_cons _ (List.nil_subset _)
  . exact (List.takeWhile_sublist _).subset

theorem readDecimal_from (pattern : String) :
    Yields (FillsFrom (Text.ofString pattern)) (fun _ => True) (readDecimal pattern) := by
  have hfill (s : Symbol)
      (h : (readAlign (Text.ofChars (untilNul (takePositiveZero pattern.toList).2))).1 = some s)
      : s ∈ Text.ofString pattern := by
    have hsubset := List.Subset.trans (untilNul_subset _) (takePositiveZero_subset pattern.toList)
    exact List.map_subset _ hsubset (mem_of_readAlign h)
  unfold readDecimal
  dsimp -zeta only
  generalize readAlign _ = aligned at *
  extract_lets afterZeros
  have hrest (u : Unit) :
      Yields (FillsFrom (Text.ofString pattern)) (fun _ => True) (afterZeros u) := by
    refine .bind_of_forall (fun _ => trivial) fun width => ?_
    refine .bind_of_forall (fun _ => trivial) fun precision => ?_
    extract_lets finish
    have hfinish (code : Char) :
        Yields (FillsFrom (Text.ofString pattern)) (fun _ => True) (finish code) :=
      .ok (fillsFrom_getD hfill _)
    split
    . exact hfinish 'G'
    . next c _ =>
      split
      . exact hfinish c
      . split
        . exact hfinish 'g'
        . split
          . exact hfinish 'G'
          . exact .error trivial
    . exact .error trivial
  split
  . exact .error trivial
  . exact hrest ()

end NumberPattern
end Soql
