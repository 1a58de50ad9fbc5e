import Soql.Proofs.Url.Origin

/-!
This module contains which paths a base takes over as they are: those whose segments are all names.
-/

namespace Soql
namespace Url

section

variable {separator : Char}

theorem splitAll_eq_singleton {cs : List Char} (h : separator ∉ cs) :
    splitAll separator cs = [cs] := by
  rw [splitAll_eq_splitOn]
  exact List.splitOn_eq_singleton h

theorem splitAll_append_cons (front rest : List Char) :
    splitAll separator (front ++ separator :: rest)
      = splitAll separator front ++ splitAll separator rest := by
  simp only [splitAll_eq_splitOn]
  exact List.splitOn_append_cons_self front rest

theorem mem_of_mem_splitAll {cs part : List Char} (h : part ∈ splitAll separator cs) {c : Char}
    (hc : c ∈ part) : c ∈ cs ∧ c ≠ separator := by
  rw [splitAll_eq_splitOn] at h
  induction cs generalizing part with
  | nil => simp_all
  | cons d cs ih =>
    rw [List.splitOn_cons_eq_if_modifyHead] at h
    split at h
    . rcases List.mem_cons.1 h with rfl | h
      . cases hc
      . exact ⟨List.mem_cons_of_mem d (ih h hc).1, (ih h hc).2⟩
    . next hd =>
      obtain ⟨first, rest, hsplit⟩ :=
        List.exists_cons_of_ne_nil (List.splitOn_ne_nil separator cs)
      rw [hsplit, List.modifyHead_cons, List.mem_cons] at h
      rw [hsplit] at ih
      rcases h with rfl | h
      . rcases List.mem_cons.1 hc with rfl | hc
        . exact ⟨List.mem_cons_self, by simpa using hd⟩
        . have := ih List.mem_cons_self hc
          exact ⟨List.mem_cons_of_mem d this.1, this.2⟩
      . have := ih (List.mem_cons_of_mem first h) hc
        exact ⟨List.mem_cons_of_mem d this.1, this.2⟩

theorem mem_of_mem_intercalate {parts : List (List Char)} {c : Char}
    (h : c ∈ [separator].intercalate parts) : c = separator ∨ ∃ part ∈ parts, c ∈ part := by
  induction parts with
  | nil => cases h
  | cons part parts ih =>
    cases parts with
    | nil => exact .inr ⟨part, List.mem_cons_self, by simpa using h⟩
    | cons next parts =>
      rw [List.intercalate_cons_cons, List.mem_append, List.mem_append, List.mem_singleton] at h
      rcases h with (h | h) | h
      . exact .inr ⟨part, List.mem_cons_self, h⟩
      . exact .inl h
      . rcases ih h with h | ⟨part', hmem, hc⟩
        . exact .inl h
        . exact .inr ⟨part', List.mem_cons_of_mem part hmem, hc⟩

theorem intercalate_append_nil {parts : List (List Char)} (h : parts ≠ []) :
    [separator].intercalate (parts ++ [[]]) = [separator].intercalate parts ++ [separator] := by
  induction parts with
  | nil => exact absurd rfl h
  | cons part parts ih =>
    cases parts with
    | nil => simp
    | cons next parts =>
      rw [List.cons_append] at *
      rw [List.cons_append, List.intercalate_cons_cons, ih (List.cons_ne_nil next parts)]
      simp

end

/--
Whether a segment of a path names something, and not the directory that it is in or the one above.
-/
def isName (segment : List Char) : Bool :=
  segment != [] && segment != ['.'] && segment != ['.', '.']

theorem dropEmptyMiddle_append (first last : List Char) (middle : List (List Char)) :
    dropEmptyMiddle (first :: middle ++ [last])
      = first :: middle.filter (!·.isEmpty) ++ [last] := by
  cases middle with
  | nil => rfl
  | cons part middle =>
    have hrest : part :: (middle ++ [last]) = (part :: middle) ++ [last] := rfl
    simp only [List.cons_append, dropEmptyMiddle]
    rw [hrest, List.dropLast_concat, List.getLast?_concat]
    rfl

theorem removeDots_append_nil (kept parts : List (List Char)) :
    removeDots kept (parts ++ [[]]) = removeDots kept parts ++ [[]] := by
  induction parts generalizing kept with
  | nil => simp [removeDots]
  | cons part parts ih =>
    rw [List.cons_append, removeDots, removeDots]
    simp only [ih]
    split
    . rfl
    . split <;> rfl

theorem exists_removeDots_eq {parts : List (List Char)} (h : ∀ part ∈ parts, part ≠ [])
    (kept : List (List Char))
    : ∃ kept' names, removeDots kept parts = kept'.reverse ++ names ∧ kept' <:+ kept
      ∧ names.Sublist parts ∧ ∀ name ∈ names, isName name = true := by
  induction parts generalizing kept with
  | nil => exact ⟨kept, [], by simp [removeDots], List.suffix_refl kept, .slnil, by simp⟩
  | cons part parts ih =>
    obtain ⟨hne, hparts⟩ := List.forall_mem_cons.1 h
    rw [removeDots]
    split
    . obtain ⟨kept', names, heq, hkept, hsub, hnames⟩ := ih hparts kept.tail
      exact ⟨kept', names, heq, hkept.trans (List.tail_suffix kept), hsub.cons part, hnames⟩
    . split
      . obtain ⟨kept', names, heq, hkept, hsub, hnames⟩ := ih hparts kept
        exact ⟨kept', names, heq, hkept, hsub.cons part, hnames⟩
      . next hparent hsame =>
        have hname : isName part = true := by
          simp_all [isName]
        obtain ⟨kept', names, heq, hkept, hsub, hnames⟩ := ih hparts (part :: kept)
        rcases List.suffix_cons_iff.1 hkept with rfl | hkept
        . refine ⟨kept, part :: names, ?_, List.suffix_refl kept, hsub.cons_cons part, ?_⟩
          . rw [heq]
            simp
          . exact List.forall_mem_cons.2 ⟨hname, hnames⟩
        . exact ⟨kept', names, heq, hkept, hsub.cons part, hnames⟩

theorem removeDots_of_isName {parts : List (List Char)} (h : ∀ part ∈ parts, isName part = true)
    (kept : List (List Char)) : removeDots kept parts = kept.reverse ++ parts := by
  induction parts generalizing kept with
  | nil => simp [removeDots]
  | cons part parts ih =>
    rw [List.forall_mem_cons] at h
    have hpart := h.1
    simp only [isName, Bool.and_eq_true, bne_iff_ne] at hpart
    simp [removeDots, hpart, ih h.2]

theorem joinPath_append_nil (parts : List (List Char)) :
    joinPath (parts ++ [[]]) = ['/'].intercalate (removeDots [] parts) ++ ['/'] := by
  have hending : joinPath (parts ++ [[]])
      = if (['/'].intercalate (removeDots [] parts ++ [[]])).isEmpty then ['/']
        else ['/'].intercalate (removeDots [] parts ++ [[]]) := by
    unfold joinPath
    rw [List.getLast?_concat]
    simp [removeDots_append_nil]
  rw [hending]
  by_cases hnone : removeDots [] parts = []
  . simp [hnone]
  . rw [intercalate_append_nil hnone]
    simp

def below (names : List (List Char)) : List Char :=
  names.flatMap ('/' :: ·)

theorem below_append (names names' : List (List Char)) :
    below (names ++ names') = below names ++ below names' := by
  simp [below]

theorem head?_below_append (names : List (List Char)) (rest : List Char) :
    (below names ++ '/' :: rest).head? = some '/' := by
  cases names <;> rfl

theorem forall_getLast?_below {names : List (List Char)} (h : ∀ name ∈ names, isName name = true)
    (hslash : ∀ name ∈ names, '/' ∉ name) : ∀ c ∈ (below names).getLast?, c ≠ '/' := by
  induction names with
  | nil => simp [below]
  | cons name names ih =>
    rw [List.forall_mem_cons] at h hslash
    unfold below
    rw [List.flatMap_cons]
    apply forall_getLast?_append
    . cases name with
      | nil => cases h.1
      | cons d ds =>
        rw [List.getLast?_cons_cons]
        intro c hc
        exact ne_of_mem_of_not_mem (List.mem_of_getLast? hc) hslash.1
    . apply ih h.2 hslash.2

theorem intercalate_cons_eq (first : List Char) (names : List (List Char)) :
    ['/'].intercalate (first :: names) = first ++ below names := by
  induction names generalizing first with
  | nil => simp [below]
  | cons name names ih =>
    rw [List.intercalate_cons_cons, ih]
    simp [below]

theorem below_splitAll (path : List Char) : below (splitAll '/' path) = '/' :: path := by
  obtain ⟨first, rest, hsplit⟩ := List.exists_cons_of_ne_nil (List.splitOn_ne_nil '/' path)
  have hjoin : ['/'].intercalate (path.splitOn '/') = path := List.intercalate_splitOn '/'
  rw [hsplit, intercalate_cons_eq] at hjoin
  rw [splitAll_eq_splitOn, hsplit]
  simpa [below] using hjoin

theorem splitAll_below {names : List (List Char)} (h : ∀ name ∈ names, '/' ∉ name) :
    splitAll '/' (below names ++ ['/']) = [] :: names ++ [[]] := by
  have hjoin : below names ++ ['/'] = ['/'].intercalate ([] :: names ++ [[]]) := by
    rw [intercalate_append_nil (List.cons_ne_nil [] names), intercalate_cons_eq]
    rfl
  rw [hjoin, splitAll_eq_splitOn]
  apply List.splitOn_intercalate
  . intro part hpart
    rcases List.mem_append.1 hpart with hpart | hpart
    . rcases List.mem_cons.1 hpart with rfl | hpart
      . exact List.not_mem_nil
      . exact h part hpart
    . rw [List.mem_singleton.1 hpart]
      exact List.not_mem_nil
  . simp

theorem filter_isName {parts : List (List Char)} (h : ∀ part ∈ parts, isName part = true) :
    parts.filter (!·.isEmpty) = parts := by
  rw [List.filter_eq_self]
  intro part hpart
  have hname := h part hpart
  cases part with
  | nil => cases hname
  | cons => rfl

theorem mergePaths_below {names : List (List Char)} {path : List Char}
    (hnames : ∀ name ∈ names, isName name = true ∧ '/' ∉ name)
    (hpath : ∀ segment ∈ splitAll '/' path, isName segment = true)
    (hrelative : (path ++ ['/']).head? ≠ some '/')
    : mergePaths (below names ++ ['/']) (path ++ ['/']) = below names ++ '/' :: path ++ ['/'] := by
  have hall : ∀ part ∈ names ++ splitAll '/' path, isName part = true := by
    intro part hpart
    rcases List.mem_append.1 hpart with hpart | hpart
    . exact (hnames part hpart).1
    . exact hpath part hpart
  have hdirectory : directory (below names ++ ['/']) = [] :: names ++ [[]] := by
    unfold directory
    rw [splitAll_below (fun name hname => (hnames name hname).2)]
    dsimp only
    rw [List.getLast?_concat]
    rfl
  have hsegments : directory (below names ++ ['/']) ++ splitAll '/' (path ++ ['/'])
      = [] :: (names ++ [] :: splitAll '/' path) ++ [[]] := by
    rw [hdirectory, splitAll_append_cons]
    simp [splitAll]
  have hfilter : (names ++ [] :: splitAll '/' path).filter (!·.isEmpty)
      = names ++ splitAll '/' path := by
    rw [← filter_isName hall]
    simp
  have hroot : removeDots [] ([] :: (names ++ splitAll '/' path))
      = [] :: (names ++ splitAll '/' path) :=
    removeDots_of_isName hall [[]]
  unfold mergePaths
  rw [if_neg (by simpa using hrelative), hsegments, dropEmptyMiddle_append, hfilter,
    joinPath_append_nil, hroot, intercalate_cons_eq, below_append, below_splitAll]
  simp

/--
The segments that are left of a path below the root. The root itself is an empty segment.
-/
def rootSegments (path : List Char) : List (List Char) :=
  removeDots [[]] ((splitAll '/' path).filter (!·.isEmpty))

theorem exists_rootSegments_eq (path : List Char) :
    ∃ kept names, rootSegments path = kept ++ names ∧ (kept = [] ∨ kept = [[]])
      ∧ names.Sublist (splitAll '/' path) ∧ ∀ name ∈ names, isName name = true := by
  have hfilter : ∀ part ∈ (splitAll '/' path).filter (!·.isEmpty), part ≠ [] := by
    intro part hpart
    simpa using (List.mem_filter.1 hpart).2
  obtain ⟨kept, names, heq, hkept, hsub, hnames⟩ := exists_removeDots_eq hfilter [[]]
  refine ⟨kept.reverse, names, heq, ?_, hsub.trans List.filter_sublist, hnames⟩
  rcases List.suffix_cons_iff.1 hkept with rfl | hkept
  . exact .inr rfl
  . rw [List.suffix_nil.1 hkept]
    exact .inl rfl

theorem mem_of_mem_rootSegments {path segment : List Char} (h : segment ∈ rootSegments path)
    {c : Char} (hc : c ∈ segment) : c ∈ path ∧ c ≠ '/' := by
  obtain ⟨kept, names, heq, hkept, hsub, -⟩ := exists_rootSegments_eq path
  rw [heq, List.mem_append] at h
  rcases h with h | h
  . rcases hkept with rfl | rfl
    . cases h
    . rw [List.mem_singleton.1 h] at hc
      cases hc
  . exact mem_of_mem_splitAll (hsub.subset h) hc

theorem mem_of_mem_intercalate_rootSegments {path : List Char} {c : Char}
    (h : c ∈ ['/'].intercalate (rootSegments path)) : c = '/' ∨ c ∈ path := by
  rcases mem_of_mem_intercalate h with h | ⟨segment, hsegment, hc⟩
  . exact .inl h
  . exact .inr (mem_of_mem_rootSegments hsegment hc).1

theorem splitAll_rootSegments {path : List Char} (h : rootSegments path ≠ []) :
    splitAll '/' (['/'].intercalate (rootSegments path)) = rootSegments path := by
  rw [splitAll_eq_splitOn]
  apply List.splitOn_intercalate '/' _ h
  intro segment hsegment hslash
  exact (mem_of_mem_rootSegments hsegment hslash).2 rfl

section

variable {path : List Char} (hne : path ≠ []) (hhead : path.head? ≠ some '/')
include hne hhead

theorem head?_append_ne : (path ++ ['/']).head? ≠ some '/' := by
  obtain ⟨c, cs, rfl⟩ := List.exists_cons_of_ne_nil hne
  exact hhead

theorem mergePaths_root :
    mergePaths ['/'] (path ++ ['/']) = ['/'].intercalate (rootSegments path) ++ ['/'] := by
  have hsegments : directory ['/'] ++ splitAll '/' (path ++ ['/'])
      = [] :: ([] :: splitAll '/' path) ++ [[]] := by
    rw [splitAll_append_cons]
    rfl
  unfold mergePaths
  rw [if_neg (by simpa using head?_append_ne hne hhead), hsegments, dropEmptyMiddle_append,
    joinPath_append_nil]
  rfl

theorem exists_absolute_mergePaths_root_eq :
    ∃ front, Reference.absolute (mergePaths ['/'] (path ++ ['/'])) = front ++ ['/']
      ∧ (front = ['/'].intercalate (rootSegments path)
        ∨ front = '/' :: ['/'].intercalate (rootSegments path)) := by
  rw [mergePaths_root hne hhead]
  unfold Reference.absolute
  split
  . exact ⟨_, rfl, .inl rfl⟩
  . exact ⟨_, rfl, .inr rfl⟩

theorem splitAll_ne_nil_cons (names : List (List Char)) : splitAll '/' path ≠ [] :: names := by
  intro hsplit
  obtain ⟨c, cs, rfl⟩ := List.exists_cons_of_ne_nil hne
  have hc : c ≠ '/' := by simpa using hhead
  rw [splitAll_eq_splitOn, List.splitOn_cons_eq_if_modifyHead, if_neg (by simpa using hc)] at hsplit
  obtain ⟨first, rest, hcs⟩ := List.exists_cons_of_ne_nil (List.splitOn_ne_nil '/' cs)
  rw [hcs] at hsplit
  cases hsplit

theorem rootSegments_eq_of_absolute_eq
    (h : Reference.absolute (mergePaths ['/'] (path ++ ['/'])) = '/' :: path ++ ['/'])
    : rootSegments path = splitAll '/' path ∨ rootSegments path = [] :: splitAll '/' path := by
  obtain ⟨front, habsolute, hfront⟩ := exists_absolute_mergePaths_root_eq hne hhead
  rw [habsolute, List.append_cancel_right_eq] at h
  have hsegments : rootSegments path ≠ [] := by
    intro hnone
    simp_all
  have hsplit := splitAll_rootSegments hsegments
  rcases hfront with hfront | hfront
  . rw [← hfront, h, ← List.nil_append ('/' :: path), splitAll_append_cons] at hsplit
    exact .inr hsplit.symm
  . -- Dots that lead above the root take it away, and its slash is written anew.
    rw [hfront, List.cons.injEq] at h
    rw [h.2] at hsplit
    exact .inl hsplit.symm

theorem isName_of_absolute_eq
    (h : Reference.absolute (mergePaths ['/'] (path ++ ['/'])) = '/' :: path ++ ['/'])
    : ∀ segment ∈ splitAll '/' path, isName segment = true := by
  intro segment hsegment
  obtain ⟨kept, names, heq, hkept, -, hnames⟩ := exists_rootSegments_eq path
  suffices segment ∈ names from hnames segment this
  rcases rootSegments_eq_of_absolute_eq hne hhead h with hroot | hroot
  . rcases hkept with rfl | rfl
    . rwa [← List.nil_append names, ← heq, hroot]
    . exact absurd (hroot.symm.trans heq) (splitAll_ne_nil_cons hne hhead names)
  . rw [hroot] at heq
    rcases hkept with rfl | rfl
    . rw [List.nil_append] at heq
      rw [← heq]
      exact List.mem_cons_of_mem [] hsegment
    . rw [List.singleton_append, List.cons.injEq] at heq
      rwa [← heq.2]

theorem absolute_mergePaths_root_eq_iff :
    Reference.absolute (mergePaths ['/'] (path ++ ['/'])) = '/' :: path ++ ['/']
      ↔ ∀ segment ∈ splitAll '/' path, isName segment = true := by
  refine ⟨isName_of_absolute_eq hne hhead, fun h => ?_⟩
  have hmerge := mergePaths_below (by simp : ∀ name ∈ [], _) h (head?_append_ne hne hhead)
  rw [below, List.flatMap_nil, List.nil_append, List.nil_append] at hmerge
  rw [hmerge]
  rfl

end

def isPathChar (c : Char) : Bool :=
  c != '?' && c != '#' && c != '\t' && c != '\r' && c != '\n'

theorem isPathChar_of_isUnreserved {c : Char} (h : isUnreserved c = true) :
    isPathChar c = true := by
  have hquery : c ≠ '?' := ne_of_holds h (by decide)
  have hfragment : c ≠ '#' := ne_of_holds h (by decide)
  have htab : c ≠ '\t' := ne_of_holds h (by decide)
  have hreturn : c ≠ '\r' := ne_of_holds h (by decide)
  have hline : c ≠ '\n' := ne_of_holds h (by decide)
  simp [isPathChar, hquery, hfragment, htab, hreturn, hline]

theorem isPathChar_of_mem_percentChars {cs : List Char} {c : Char} (h : c ∈ percentChars cs) :
    isPathChar c = true := by
  rcases isUnreserved_of_mem_percentChars h with h | rfl
  . exact isPathChar_of_isUnreserved h
  . decide

theorem dropBreaks_eq_self_of_isPathChar {cs : List Char}
    (h : ∀ c ∈ cs, isPathChar c = true ∨ c = '?') : dropBreaks cs = cs := by
  have hnot {c : Char} (hc : isPathChar c = false) (hquery : c ≠ '?') : c ∉ cs := by
    intro hmem
    rcases h c hmem with h | h
    . rw [h] at hc
      cases hc
    . exact hquery h
  exact dropBreaks_eq_self (hnot (by decide) (by decide)) (hnot (by decide) (by decide))
    (hnot (by decide) (by decide))

theorem clean_eq_self_of_isPathChar {cs : List Char} (hhead : ∀ c ∈ cs.head?, isVisible c = true)
    (h : ∀ c ∈ cs, isPathChar c = true ∨ c = '?') : clean cs = cs := by
  cases cs with
  | nil => rfl
  | cons c cs =>
    have hvisible : ∀ d ∈ [c], isVisible d = true := by
      intro d hd
      rw [List.mem_singleton.1 hd]
      exact hhead c rfl
    have hclean := clean_append (List.cons_ne_nil c []) hvisible cs
    rwa [dropBreaks_eq_self_of_isPathChar (List.forall_mem_cons.1 h).2] at hclean

theorem isPathChar_or_of_mem_append {path query : List Char}
    (hpath : ∀ c ∈ path, isPathChar c = true) (hquery : ∀ c ∈ query, isPathChar c = true)
    : ∀ c ∈ path ++ '/' :: '?' :: query, isPathChar c = true ∨ c = '?' := by
  intro c hc
  simp only [List.mem_append, List.mem_cons] at hc
  rcases hc with hc | rfl | rfl | hc
  . exact .inl (hpath c hc)
  . exact .inl (by decide)
  . exact .inr rfl
  . exact .inl (hquery c hc)

section

variable {path query : List Char} (hne : path ≠ []) (hhead : path.head? ≠ some '/')
  (hpath : ∀ c ∈ path, isPathChar c = true) (hquery : ∀ c ∈ query, isPathChar c = true)
include hne hhead hpath hquery

theorem resolve_directory (o : Origin) {front : List Char}
    (hfront : ∀ c ∈ front, isPathChar c = true)
    (hbase : ∀ c ∈ (front ++ ['/']).head?, endsAuthority c = true)
    (hvisible : ∀ c ∈ path.head?, isVisible c = true) (hquery_ne : query ≠ [])
    {start rest : List Char} (h : IsPath (path ++ '/' :: '?' :: query) start rest)
    : resolve (o.text ++ (front ++ ['/'])) (path ++ '/' :: '?' :: query)
        = .ok (o.text
          ++ (Reference.absolute (mergePaths (front ++ ['/']) (path ++ ['/']))
            ++ '?' :: query)) := by
  have hclean : clean (path ++ '/' :: '?' :: query) = path ++ '/' :: '?' :: query := by
    refine clean_eq_self_of_isPathChar ?_ (isPathChar_or_of_mem_append hpath hquery)
    obtain ⟨c, cs, rfl⟩ := List.exists_cons_of_ne_nil hne
    exact hvisible
  have hkept : dropBreaks (front ++ ['/']) = front ++ ['/'] := by
    apply dropBreaks_eq_self_of_isPathChar
    intro c hc
    rcases List.mem_append.1 hc with hc | hc
    . exact .inl (hfront c hc)
    . rw [List.mem_singleton.1 hc]
      exact .inl (by decide)
  have hread : Reference.ofPath o.scheme o.authority (front ++ ['/'])
      = ⟨o.scheme, o.authority, front ++ ['/'], [], [], []⟩ :=
    Reference.ofPath_base (not_mem_of_forall hfront (by decide))
      (not_mem_of_forall hfront (by decide)) o.scheme o.authority
  have hreference : Reference.ofPath o.scheme [] (path ++ '/' :: '?' :: query)
      = ⟨o.scheme, [], path ++ ['/'], [], query, []⟩ :=
    Reference.ofPath_directory (not_mem_of_forall hpath (by decide))
      (not_mem_of_forall hpath (by decide)) (not_mem_of_forall hquery (by decide)) o.scheme []
  rw [h.resolve_eq o hbase, ← h.clean_eq, hclean, hkept, hread, hreference,
    Reference.under_eq rfl (by simp), Reference.render_eq o.scheme_ne_nil o.authority_ne_nil]
  simp [Reference.part, hquery_ne, Origin.text]

theorem parse_directory (o : Origin) (defaultScheme : List Char) :
    Reference.parse defaultScheme (o.text
        ++ (Reference.absolute (mergePaths ['/'] (path ++ ['/'])) ++ '?' :: query))
      = .ok ⟨o.scheme, o.authority, Reference.absolute (mergePaths ['/'] (path ++ ['/'])), [],
          query, []⟩ := by
  obtain ⟨rest, habsolute⟩ := Reference.exists_absolute_eq (mergePaths_ne_nil ['/'] (path ++ ['/']))
  obtain ⟨front, hfront, hsegments⟩ := exists_absolute_mergePaths_root_eq hne hhead
  have hplain : ∀ c ∈ front, isPathChar c = true := by
    intro c hc
    have hmem : c = '/' ∨ c ∈ path := by
      rcases hsegments with rfl | rfl
      . exact mem_of_mem_intercalate_rootSegments hc
      . rcases List.mem_cons.1 hc with rfl | hc
        . exact .inl rfl
        . exact mem_of_mem_intercalate_rootSegments hc
    rcases hmem with rfl | hmem
    . decide
    . exact hpath c hmem
  have hbreaks : dropBreaks (front ++ '/' :: '?' :: query) = front ++ '/' :: '?' :: query :=
    dropBreaks_eq_self_of_isPathChar (isPathChar_or_of_mem_append hplain hquery)
  rw [o.parse_append]
  . rw [hfront, List.append_assoc, List.singleton_append, hbreaks,
      Reference.ofPath_directory (not_mem_of_forall hplain (by decide))
        (not_mem_of_forall hplain (by decide)) (not_mem_of_forall hquery (by decide))]
  . rw [habsolute]
    simp [endsAuthority]

end
end Url
end Soql
