import Mathlib.Data.List.TakeWhile
import Soql.Url.Reference
import Soql.Proofs.Outcome

/-!
This module contains how a URL reference is read part by part, and how it is written behind an
authority.
-/

namespace Soql
namespace Url

theorem forall_bne_of_not_mem {separator : Char} {cs : List Char} (h : separator ∉ cs) :
    ∀ c ∈ cs, (c != separator) = true := by
  intro c hc
  rw [bne_iff_ne]
  rintro rfl
  exact h hc

theorem ne_of_holds {p : Char → Bool} {c d : Char} (h : p c = true) (hd : p d = false) :
    c ≠ d := by
  rintro rfl
  rw [h] at hd
  cases hd

theorem not_mem_of_forall {p : Char → Bool} {cs : List Char} (h : ∀ c ∈ cs, p c = true) {c : Char}
    (hc : p c = false) : c ∉ cs := by
  intro hmem
  exact ne_of_holds (h c hmem) hc rfl

theorem splitFirst_append {separator : Char} {front : List Char} (h : separator ∉ front)
    (rest : List Char)
    : splitFirst separator (front ++ rest)
        = (front ++ (splitFirst separator rest).1, (splitFirst separator rest).2) := by
  have hfront := forall_bne_of_not_mem h
  unfold splitFirst
  rw [List.takeWhile_append_of_pos hfront, List.dropWhile_append_of_pos hfront]

theorem splitFirst_eq_self {separator : Char} {cs : List Char} (h : separator ∉ cs) :
    splitFirst separator cs = (cs, []) := by
  have happend := splitFirst_append h []
  simpa [splitFirst] using happend

theorem splitFirst_append_cons {separator : Char} {front : List Char} (h : separator ∉ front)
    (rest : List Char) : splitFirst separator (front ++ separator :: rest) = (front, rest) := by
  rw [splitFirst_append h]
  simp [splitFirst]

theorem mem_of_mem_splitFirst {separator : Char} {cs : List Char} {c : Char}
    (h : c ∈ (splitFirst separator cs).1) : c ∈ cs ∧ c ≠ separator := by
  have hkept := List.all_eq_true.1 List.all_takeWhile c h
  exact ⟨(List.takeWhile_prefix _).subset h, bne_iff_ne.1 hkept⟩

theorem forall_getLast?_append {p : α → Prop} {as bs : List α} (has : ∀ a ∈ as.getLast?, p a)
    (hbs : ∀ b ∈ bs.getLast?, p b) : ∀ c ∈ (as ++ bs).getLast?, p c := by
  intro c hc
  rw [List.getLast?_append, Option.mem_def, Option.or_eq_some_iff] at hc
  rcases hc with hc | ⟨_, hc⟩
  . exact hbs c hc
  . exact has c hc

theorem exists_slashes_eq (cs : List Char) :
    ∃ front slashes, cs = front ++ slashes ∧ (∀ c ∈ slashes, c = '/')
      ∧ ∀ c ∈ front.getLast?, c ≠ '/' := by
  refine ⟨(cs.reverse.dropWhile (· == '/')).reverse, (cs.reverse.takeWhile (· == '/')).reverse,
    ?_, ?_, ?_⟩
  . rw [← List.reverse_append, List.takeWhile_append_dropWhile, List.reverse_reverse]
  . intro c hc
    simpa using List.mem_takeWhile_imp (List.mem_reverse.1 hc)
  . intro c hc
    rw [List.getLast?_reverse] at hc
    have hnot := List.head?_dropWhile_not (· == '/') cs.reverse
    rw [hc] at hnot
    simpa using hnot

def dropBreaks (cs : List Char) : List Char :=
  cs.filter fun c => c != '\t' && c != '\r' && c != '\n'

theorem dropBreaks_eq_self {cs : List Char} (htab : '\t' ∉ cs) (hreturn : '\r' ∉ cs)
    (hline : '\n' ∉ cs) : dropBreaks cs = cs := by
  unfold dropBreaks
  rw [List.filter_eq_self]
  intro c hc
  rw [forall_bne_of_not_mem htab c hc, forall_bne_of_not_mem hreturn c hc]
  exact forall_bne_of_not_mem hline c hc

theorem head?_dropBreaks {cs : List Char} (h : ∀ c ∈ cs.head?, endsAuthority c = true) :
    ∀ c ∈ (dropBreaks cs).head?, endsAuthority c = true := by
  cases cs with
  | nil => exact h
  | cons c cs =>
    have hc := h c rfl
    have hkept : (c != '\t' && c != '\r' && c != '\n') = true := by
      simp only [endsAuthority, Bool.or_eq_true, beq_iff_eq] at hc
      rcases hc with (rfl | rfl) | rfl <;> decide
    simp only [dropBreaks, List.filter_cons, hkept, ↓reduceIte]
    exact h

def isVisible (c : Char) : Bool :=
  0x20 < c.toNat

theorem clean_append {front : List Char} (hne : front ≠ [])
    (h : ∀ c ∈ front, isVisible c = true) (rest : List Char)
    : clean (front ++ rest) = front ++ dropBreaks rest := by
  have hstart : (front ++ rest).dropWhile (·.toNat ≤ 0x20) = front ++ rest := by
    obtain ⟨c, cs, rfl⟩ := List.exists_cons_of_ne_nil hne
    rw [List.cons_append, List.dropWhile_cons_of_neg]
    have hc := h c (by simp)
    simp only [isVisible, decide_eq_true_eq] at *
    omega
  have hfront : dropBreaks front = front := by
    apply dropBreaks_eq_self
    . exact not_mem_of_forall h (by decide)
    . exact not_mem_of_forall h (by decide)
    . exact not_mem_of_forall h (by decide)
  unfold clean
  rw [hstart, List.filter_append]
  exact congrArg (· ++ dropBreaks rest) hfront

theorem splitScheme_eq_none {front : List Char} (h : ':' ∉ front) (rest : List Char) :
    splitScheme (front ++ '/' :: rest) = (none, front ++ '/' :: rest) := by
  have hslash : '/' ∈ (front ++ '/' :: rest).takeWhile (· != ':') := by
    rw [List.takeWhile_append_of_pos (forall_bne_of_not_mem h)]
    simp
  unfold splitScheme
  split
  . next c scheme rest' htake _ =>
    rw [htake] at hslash
    have hall : (c :: scheme).all isSchemeChar = false := by
      rw [List.all_eq_false]
      exact ⟨'/', hslash, by decide⟩
    simp [hall]
  . rfl

theorem splitAuthority_eq_nil {front rest : List Char} (h : '/' ∉ front)
    (hhead : front = [] → rest.head? ≠ some '/')
    : splitAuthority (front ++ '/' :: rest) = ([], front ++ '/' :: rest) := by
  unfold splitAuthority
  split
  . next cs heq =>
    cases front with
    | nil =>
      rw [List.nil_append, List.cons.injEq] at heq
      simp [heq.2] at hhead
    | cons c front =>
      rw [List.cons_append, List.cons.injEq] at heq
      simp [heq.1] at h
  . rfl

theorem splitAuthority_append {authority : List Char}
    (h : ∀ c ∈ authority, endsAuthority c = false) {rest : List Char}
    (hrest : ∀ c ∈ rest.head?, endsAuthority c = true)
    : splitAuthority ('/' :: '/' :: authority ++ rest) = (authority, rest) := by
  have hauthority : ∀ c ∈ authority, (!endsAuthority c) = true := by
    intro c hc
    rw [h c hc]
    rfl
  simp only [splitAuthority, List.cons_append]
  rw [List.takeWhile_append_of_pos hauthority, List.dropWhile_append_of_pos hauthority]
  cases rest with
  | nil => simp
  | cons c rest => simp [hrest c rfl]

def isHostChar (c : Char) : Bool :=
  isAsciiLetter c || c.isDigit || c == '.' || c == '-'

def isAuthorityChar (c : Char) : Bool :=
  isHostChar c || c == ':'

theorem bounds_of_isAuthorityChar {c : Char} (h : isAuthorityChar c = true) :
    isVisible c = true ∧ c.toNat < 0x80 := by
  have hwithin {first last : Char} (h : first ≤ c) (h' : c ≤ last) (hfirst : 0x20 < first.toNat)
      (hlast : last.toNat < 0x80) : isVisible c = true ∧ c.toNat < 0x80 :=
    ⟨decide_eq_true (Nat.lt_of_lt_of_le hfirst h), Nat.lt_of_le_of_lt h' hlast⟩
  simp only [isAuthorityChar, isHostChar, isAsciiLetter, Char.isDigit, Bool.or_eq_true,
    Bool.and_eq_true, decide_eq_true_eq, beq_iff_eq] at h
  rcases h with ((((⟨h, h'⟩ | ⟨h, h'⟩) | ⟨h, h'⟩) | rfl) | rfl) | rfl
  . exact hwithin h h' (by decide) (by decide)
  . exact hwithin h h' (by decide) (by decide)
  . exact hwithin h h' (by decide) (by decide)
  . decide
  . decide
  . decide

theorem endsAuthority_eq_false {c : Char} (h : isAuthorityChar c = true) :
    endsAuthority c = false := by
  have hslash : c ≠ '/' := ne_of_holds h (by decide)
  have hquery : c ≠ '?' := ne_of_holds h (by decide)
  have hfragment : c ≠ '#' := ne_of_holds h (by decide)
  simp [endsAuthority, hslash, hquery, hfragment]

section

variable {authority : List Char} (h : ∀ c ∈ authority, isAuthorityChar c = true)
include h

theorem checkBrackets_eq_ok : checkBrackets authority = .ok () := by
  have hopening : '[' ∉ authority := not_mem_of_forall h (by decide)
  have hclosing : ']' ∉ authority := not_mem_of_forall h (by decide)
  unfold checkBrackets
  simp [hopening, hclosing]

theorem checkNormalized_eq_ok : checkNormalized authority = .ok () := by
  have hlarge : ∀ n ∈ delimiterLike, 0x80 ≤ n := by decide
  unfold checkNormalized
  rw [if_neg]
  rw [Bool.not_eq_true, List.any_eq_false]
  intro c hc hlike
  rw [List.contains_iff_mem] at hlike
  have := hlarge _ hlike
  have := (bounds_of_isAuthorityChar (h c hc)).2
  omega

end

namespace Reference

def ofPath (scheme authority cs : List Char) : Reference :=
  let (rest, fragment) := splitFirst '#' cs
  let (path, query) := splitFirst '?' rest
  let (path, parameters) := splitParameters path
  ⟨scheme, authority, path, parameters, query, fragment⟩

@[simp]
theorem scheme_ofPath (scheme authority cs : List Char) :
    (ofPath scheme authority cs).scheme = scheme := rfl

theorem parse_eq (defaultScheme cs : List Char) :
    parse defaultScheme cs = do
      let (scheme, rest) := splitScheme (clean cs)
      let (authority, rest) := splitAuthority rest
      checkBrackets authority
      checkNormalized authority
      return ofPath (scheme.getD defaultScheme) authority rest := rfl

theorem parse_eq_ok {defaultScheme cs authority rest rest' : List Char}
    {scheme : Option (List Char)} (hscheme : splitScheme (clean cs) = (scheme, rest))
    (hauthority : splitAuthority rest = (authority, rest'))
    (hplain : ∀ c ∈ authority, isAuthorityChar c = true)
    : parse defaultScheme cs = .ok (ofPath (scheme.getD defaultScheme) authority rest') := by
  rw [parse_eq, hscheme]
  dsimp only
  rw [hauthority]
  dsimp only
  rw [checkBrackets_eq_ok hplain, ok_bind, checkNormalized_eq_ok hplain, ok_bind]
  rfl

end Reference

theorem exists_last_slash {cs : List Char} (h : '/' ∈ cs) :
    ∃ front last, cs = front ++ '/' :: last ∧ '/' ∉ last := by
  obtain ⟨last, front, hsplit, hlast⟩ := List.eq_append_cons_of_mem (List.mem_reverse.2 h)
  refine ⟨front.reverse, last.reverse, ?_, by simpa using hlast⟩
  rw [← List.reverse_reverse cs, hsplit]
  simp

theorem splitParameters_append {last : List Char} (h : '/' ∉ last) (front : List Char) :
    splitParameters (front ++ '/' :: last)
      = (front ++ '/' :: (splitFirst ';' last).1, (splitFirst ';' last).2) := by
  have hlast : ((front ++ '/' :: last).reverse.takeWhile (· != '/')).reverse = last := by
    have hreverse : '/' ∉ last.reverse := by simpa using h
    rw [List.reverse_append, List.reverse_cons, List.append_assoc]
    rw [List.takeWhile_append_of_pos (forall_bne_of_not_mem hreverse)]
    simp
  have htake : (front ++ '/' :: last).take ((front ++ '/' :: last).length - last.length)
      = front ++ ['/'] := by
    rw [List.append_cons front '/' last, List.length_append, Nat.add_sub_cancel, List.take_left]
  unfold splitParameters
  rw [hlast]
  dsimp only
  rw [htake]
  simp

theorem mem_of_mem_splitParameters {path : List Char} {c : Char}
    (h : c ∈ (splitParameters path).1) : c ∈ path := by
  rcases List.mem_append.1 h with h | h
  . exact List.mem_of_mem_take h
  . have hlast := (mem_of_mem_splitFirst h).1
    rw [List.mem_reverse] at hlast
    exact List.mem_reverse.1 ((List.takeWhile_prefix _).subset hlast)

namespace Reference

theorem mem_of_mem_path_ofPath {scheme authority cs : List Char} {c : Char}
    (h : c ∈ (ofPath scheme authority cs).path) : c ∈ cs ∧ c ≠ '?' ∧ c ≠ '#' := by
  have hquery := mem_of_mem_splitFirst (mem_of_mem_splitParameters h)
  have hfragment := mem_of_mem_splitFirst hquery.1
  exact ⟨hfragment.1, hquery.2, hfragment.2⟩

theorem ofPath_directory {front query : List Char} (hquery : '?' ∉ front) (hfragment : '#' ∉ front)
    (hfragment' : '#' ∉ query) (scheme authority : List Char)
    : ofPath scheme authority (front ++ '/' :: '?' :: query)
        = ⟨scheme, authority, front ++ ['/'], [], query, []⟩ := by
  have hwhole : '#' ∉ front ++ '/' :: '?' :: query := by simp [hfragment, hfragment']
  have hpath : '?' ∉ front ++ ['/'] := by simp [hquery]
  have hslash : '/' ∉ ([] : List Char) := List.not_mem_nil
  unfold ofPath
  rw [splitFirst_eq_self hwhole]
  dsimp only
  rw [List.append_cons, splitFirst_append_cons hpath]
  dsimp only
  rw [splitParameters_append hslash]
  rfl

theorem ofPath_base {front : List Char} (hquery : '?' ∉ front) (hfragment : '#' ∉ front)
    (scheme authority : List Char)
    : ofPath scheme authority (front ++ ['/'])
        = ⟨scheme, authority, front ++ ['/'], [], [], []⟩ := by
  have hquery : '?' ∉ front ++ ['/'] := by simp [hquery]
  have hfragment : '#' ∉ front ++ ['/'] := by simp [hfragment]
  have hslash : '/' ∉ ([] : List Char) := List.not_mem_nil
  unfold ofPath
  rw [splitFirst_eq_self hfragment]
  dsimp only
  rw [splitFirst_eq_self hquery]
  dsimp only
  rw [splitParameters_append hslash]
  rfl

theorem exists_path_ofPath {front : List Char} (hquery : '?' ∉ front) (hfragment : '#' ∉ front)
    (scheme authority rest : List Char)
    : ∃ rest', (ofPath scheme authority (front ++ '/' :: rest)).path = front ++ '/' :: rest' := by
  have hquery : '?' ∉ front ++ ['/'] := by simp [hquery]
  have hfragment : '#' ∉ front ++ ['/'] := by simp [hfragment]
  unfold ofPath
  rw [List.append_cons, splitFirst_append hfragment]
  dsimp only
  rw [splitFirst_append hquery]
  dsimp only
  rw [← List.append_cons]
  generalize (splitFirst '?' (splitFirst '#' rest).1).1 = path
  by_cases hslash : '/' ∈ path
  . obtain ⟨front', last, rfl, hlast⟩ := exists_last_slash hslash
    rw [← List.cons_append, ← List.append_assoc, splitParameters_append hlast]
    exact ⟨front' ++ '/' :: (splitFirst ';' last).1, by simp⟩
  . rw [splitParameters_append hslash]
    exact ⟨(splitFirst ';' path).1, rfl⟩

def absolute (path : List Char) : List Char :=
  if path.isEmpty || path.head? == some '/' then path else '/' :: path

theorem exists_absolute_eq {path : List Char} (h : path ≠ []) :
    ∃ rest, absolute path = '/' :: rest := by
  unfold absolute
  split
  . next habsolute =>
    simp only [List.isEmpty_iff, h, Bool.or_eq_true, beq_iff_eq, false_or] at habsolute
    exact List.head?_eq_some_iff.1 habsolute
  . exact ⟨path, rfl⟩

theorem absolute_eq_self {path : List Char} (h : path.head? = some '/') : absolute path = path := by
  unfold absolute
  simp [h]

theorem render_eq {r : Reference} (hscheme : r.scheme ≠ []) (hauthority : r.authority ≠ []) :
    r.render = r.scheme ++ "://".toList ++ r.authority
      ++ (absolute (r.path ++ part ';' r.parameters) ++ part '?' r.query
        ++ part '#' r.fragment) := by
  unfold render absolute
  simp [hscheme, hauthority]

theorem exists_render_eq {r : Reference} (hscheme : r.scheme ≠ []) (hauthority : r.authority ≠ [])
    (hpath : r.path ≠ [])
    : ∃ rest, r.render = r.scheme ++ "://".toList ++ r.authority ++ '/' :: rest := by
  have hpath : r.path ++ part ';' r.parameters ≠ [] := by simp [hpath]
  obtain ⟨rest, habsolute⟩ := exists_absolute_eq hpath
  rw [render_eq hscheme hauthority, habsolute]
  exact ⟨_, rfl⟩

end Reference

theorem mergePaths_ne_nil (base path : List Char) : mergePaths base path ≠ [] := by
  have hjoin (parts : List (List Char)) : joinPath parts ≠ [] := by
    unfold joinPath
    extract_lets _ path
    split
    . simp
    . next h => simpa using h
  unfold mergePaths
  split
  . exact hjoin _
  . exact hjoin _

namespace Reference

theorem under_eq {r : Reference} (hauthority : r.authority = []) (hpath : r.path ≠ [])
    (base : Reference)
    : r.under base
        = { r with authority := base.authority, path := mergePaths base.path r.path } := by
  simp [under, hauthority, hpath]

end Reference
end Url
end Soql
