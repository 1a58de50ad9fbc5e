import Soql.Proofs.Number.Layout
import Soql.Proofs.Query.Alphabet

/-!
This module contains what a date pattern can make of a point in time. The text has plain characters
and those of the pattern, except that the directive `%Z` brings in the name of a zone.
-/

namespace Soql

open Text

variable {P : Char → Bool}

section Texts

variable (hP : HasPlain P)
include hP

theorem madeOf_digits (count n : Nat) : MadeOf P (Date.digits count n) :=
  hP.hasNumerals.madeOf (Date.isNumeric_digits count n)

theorem madeOf_clockText (t : TimeOfDay) : MadeOf P t.clockText :=
  hP.hasNumerals.madeOf t.isNumeric_clockText

theorem madeOf_getD_names {names : List String} (h : names.all (·.toList.all isPlain) = true)
    (index : Nat) : MadeOf P (names.getD index "").toList := by
  rw [List.getD_eq_getElem?_getD]
  cases hname : names[index]? with
  | none => exact .nil
  | some name => exact madeOf_of_isPlain hP (List.all_eq_true.1 h name (List.mem_of_getElem? hname))

end Texts

namespace DateTime

section FillZone

theorem madeOf_doublePercents (hpercent : P '%' = true) {cs : List Char} (h : MadeOf P cs) :
    MadeOf P (doublePercents cs) := by
  rw [MadeOf.iff_forall_mem] at *
  intro c hc
  obtain ⟨d, hd, hc⟩ := List.mem_flatMap.1 hc
  split at hc
  . simp only [List.mem_cons, List.not_mem_nil, or_false, or_self] at hc
    exact hc ▸ hpercent
  . exact List.mem_singleton.1 hc ▸ h d hd

/--
Whether the name of the zone belongs to the class, where the pattern has a place for it.
-/
def Admits (P : Char → Bool) (d : DateTime) (pattern : List Char) : Prop :=
  ['%', 'Z'] <:+: pattern → ∀ name, d.zone.name? = some name → MadeOf P name.toList

theorem Admits.of_suffix {d : DateTime} {cs ds : List Char} (h : d.Admits P ds)
    (hsuffix : cs <:+ ds) : d.Admits P cs :=
  fun hzone => h (hzone.trans hsuffix.isInfix)

theorem madeOf_fillZone (hP : HasPlain P) {d : DateTime} {pattern : List Char}
    (h : MadeOf P pattern) (hname : d.Admits P pattern) : MadeOf P (d.fillZone pattern) := by
  fun_induction fillZone d pattern with
  | case1 cs ih =>
    have hcs : cs <:+ '%' :: 'z' :: cs := ⟨['%', 'z'], rfl⟩
    refine MadeOf.append_iff.2 ⟨?_, ih (h.of_suffix hcs) (hname.of_suffix hcs)⟩
    cases d.zone.offset? with
    | none => exact .nil
    | some offset => exact hP.hasNumerals.madeOf (Offset.isNumeric_text .nil offset)
  | case2 cs ih =>
    have hcs : cs <:+ '%' :: 'Z' :: cs := ⟨['%', 'Z'], rfl⟩
    refine MadeOf.append_iff.2 ⟨?_, ih (h.of_suffix hcs) (hname.of_suffix hcs)⟩
    apply madeOf_doublePercents (hP '%' rfl)
    cases hzone : d.zone.name? with
    | none => exact .nil
    | some name => exact hname ⟨[], cs, rfl⟩ name hzone
  | case3 cs ih =>
    have hcs : cs <:+ '%' :: 'f' :: cs := ⟨['%', 'f'], rfl⟩
    have hrest := ih (h.of_suffix hcs) (hname.of_suffix hcs)
    exact MadeOf.append_iff.2 ⟨madeOf_digits hP .., hrest⟩
  | case4 c cs hz hZ hf ih =>
    have hcs : cs <:+ '%' :: c :: cs := ⟨['%', c], rfl⟩
    have hrest := ih (h.of_suffix hcs) (hname.of_suffix hcs)
    simp only [MadeOf.cons_iff] at h ⊢
    exact ⟨h.1, h.2.1, hrest⟩
  | case5 c cs hz hZ hf hpair ih =>
    have hcs : cs <:+ c :: cs := List.suffix_cons c cs
    have hrest := ih (h.of_suffix hcs) (hname.of_suffix hcs)
    simp only [MadeOf.cons_iff] at h ⊢
    exact ⟨h.1, hrest⟩
  | case6 => exact .nil

end FillZone

namespace Directive

theorem readFlags_suffix (t : Directive) (cs : List Char) : (readFlags t cs).2 <:+ cs := by
  fun_induction readFlags t cs with
  | case1 | case7 => exact List.suffix_rfl
  | case2 t cs ih | case3 t cs ih | case4 t cs ih | case5 t cs ih | case6 t cs ih =>
    exact ih.trans (List.suffix_cons _ cs)

theorem readWidth_suffix (limit : Nat) (width : Option Nat) (cs : List Char) :
    (readWidth limit width cs).2 <:+ cs := by
  fun_induction readWidth limit width cs with
  | case1 | case3 => exact List.suffix_rfl
  | case2 width c cs _ ih => exact ih.trans (List.suffix_cons c cs)

theorem readModifier_suffix (cs : List Char) : (readModifier cs).2 <:+ cs := by
  fun_cases readModifier cs with
  | case1 | case3 => exact List.suffix_rfl
  | case2 c cs => exact List.suffix_cons c cs

theorem read_suffix (limit : Nat) (cs : List Char) : (read limit cs).2 <:+ cs := by
  have hflags := readFlags_suffix plain cs
  have hwidth := (readWidth_suffix limit none _).trans hflags
  have hmodifier := (readModifier_suffix _).trans hwidth
  unfold read
  dsimp only
  split
  . exact List.nil_suffix
  . next c rest hrest =>
    rw [hrest] at hmodifier
    exact (List.suffix_cons c rest).trans hmodifier

section Fitting

variable (hP : HasPlain P) (t : Directive)
include hP

theorem madeOf_pad {cs : List Char} (h : MadeOf P cs) : MadeOf P (t.pad cs) := by
  apply h.leftpad
  split
  . exact hP '0' rfl
  . exact hP ' ' rfl

theorem madeOf_fit {cs : List Char} (h : MadeOf P cs) : MadeOf P (t.fit cs) := by
  unfold fit
  apply madeOf_pad hP
  split
  . exact madeOf_map_toUpper hP h
  . exact h

theorem madeOf_number (padding : Padding) (count n : Nat) :
    MadeOf P (t.number padding count n) := by
  have hdigits := madeOf_toDigits hP.hasNumerals n
  unfold number
  dsimp only
  split
  . exact madeOf_pad hP t hdigits
  . exact hdigits.leftpad (hP ' ' rfl) _
  . exact hdigits.leftpad (hP '0' rfl) _

end Fitting
end Directive

section FillCalendar

variable (hP : HasPlain P) (d : DateTime)
include hP

theorem madeOf_weekdayName : MadeOf P d.weekdayName :=
  madeOf_getD_names hP (by decide) _

theorem madeOf_monthName : MadeOf P d.monthName :=
  madeOf_getD_names hP (by decide) _

theorem madeOf_halfOfDay : MadeOf P d.halfOfDay := by
  unfold halfOfDay
  split <;> exact madeOf_of_isPlain hP rfl

theorem madeOf_shortDate : MadeOf P d.shortDate := by
  unfold shortDate
  simp only [MadeOf.append_iff, MadeOf.cons_iff, madeOf_digits hP, hP '/' rfl, and_self]

theorem madeOf_longText : MadeOf P d.longText := by
  have hweekday := (madeOf_weekdayName hP d).of_sublist (List.take_sublist 3 _)
  have hmonth := (madeOf_monthName hP d).of_sublist (List.take_sublist 3 _)
  have hnumerals (n : Nat) := madeOf_toDigits hP.hasNumerals n
  have hday := (hnumerals d.date.day).leftpad (hP ' ' rfl) 2
  unfold longText
  simp only [MadeOf.append_iff, MadeOf.cons_iff, hweekday, hmonth, hday, hnumerals,
    madeOf_clockText hP, hP ' ' rfl, and_self]

theorem madeOf_textOf {code : Char} {text : List Char} (h : d.textOf? code = some text) :
    MadeOf P text := by
  have hweekday := madeOf_weekdayName hP d
  have hmonth := madeOf_monthName hP d
  have hhalf := madeOf_halfOfDay hP d
  have hshortWeekday := hweekday.of_sublist (List.take_sublist 3 _)
  have hshortMonth := hmonth.of_sublist (List.take_sublist 3 _)
  have hsmallHalf := madeOf_map_toLower hP hhalf
  have hmarks : P '%' = true ∧ P '\n' = true ∧ P '\t' = true :=
    ⟨hP '%' rfl, hP '\n' rfl, hP '\t' rfl⟩
  unfold textOf? at h
  split at h
  case h_20 => cases h
  all_goals
    rw [← Option.some.inj h]
    simp only [MadeOf.append_iff, MadeOf.cons_iff, MadeOf.nil, hweekday, hmonth, hhalf,
      hshortWeekday, hshortMonth, hsmallHalf, hmarks, hP '-' rfl, hP ':' rfl, hP ' ' rfl,
      madeOf_toDigits hP.hasNumerals, madeOf_digits hP, madeOf_clockText hP, madeOf_shortDate hP,
      madeOf_longText hP, and_self]

theorem madeOf_directiveText (t : Directive) {source : List Char} (h : MadeOf P source) :
    MadeOf P (d.directiveText t source) := by
  unfold directiveText
  split
  . exact Directive.madeOf_fit hP t h
  . split
    . dsimp only
      apply Directive.madeOf_fit hP
      split
      . exact madeOf_of_isPlain hP rfl
      . exact h
    . split
      . exact Directive.madeOf_number hP t ..
      . split
        . next text htext =>
          have htext := madeOf_textOf hP d htext
          split
          . exact Directive.madeOf_pad hP t (madeOf_map_toLower hP htext)
          . exact Directive.madeOf_fit hP _ htext
        . split
          . exact .nil
          . exact Directive.madeOf_fit hP t h

theorem madeOf_fillCalendar (limit : Nat) {pattern : List Char} (h : MadeOf P pattern) :
    MadeOf P (fillCalendar limit d pattern) := by
  fun_induction fillCalendar limit d pattern with
  | case1 => exact .nil
  | case2 c cs hpercent rest hlength ih =>
    obtain ⟨hc, hcs⟩ := MadeOf.cons_iff.1 h
    have hrest := ih (hcs.of_suffix (Directive.read_suffix limit cs))
    have hsource : MadeOf P ('%' :: cs.take (cs.length - rest.length)) :=
      MadeOf.cons_iff.2 ⟨hP '%' rfl, hcs.of_sublist (List.take_sublist ..)⟩
    exact MadeOf.append_iff.2 ⟨madeOf_directiveText hP d _ hsource, hrest⟩
  | case3 c cs hpercent ih =>
    obtain ⟨hc, hcs⟩ := MadeOf.cons_iff.1 h
    exact MadeOf.cons_iff.2 ⟨hc, ih hcs⟩

end FillCalendar

theorem madeOf_format (hP : HasPlain P) {d : DateTime} {pattern : String}
    (h : MadeOf P pattern.toList) (hname : d.Admits P pattern.toList)
    : MadeOf P (d.format pattern).toList := by
  have huntil (cs : List Char) : cs.takeWhile (· != '\x00') <+: cs := List.takeWhile_prefix _
  have hpattern := h.of_sublist (huntil _).sublist
  have hname : d.Admits P (pattern.toList.takeWhile (· != '\x00')) :=
    fun hzone => hname (hzone.trans (huntil _).isInfix)
  have hfilled := (madeOf_fillZone hP hpattern hname).of_sublist (huntil _).sublist
  unfold format
  dsimp only
  split
  . rw [String.toList_ofList]
    exact madeOf_fillCalendar hP d _ hfilled
  . exact .nil

end DateTime

theorem Date.madeOf_format (hP : HasPlain P) {d : Date} {pattern : String}
    (h : MadeOf P pattern.toList) : MadeOf P (d.format pattern).toList := by
  refine DateTime.madeOf_format hP h ?_
  intro _ name hname
  cases hname

end Soql
