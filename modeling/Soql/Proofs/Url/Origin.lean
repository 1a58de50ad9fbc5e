import Soql.Proofs.Url.Reference

/-!
This module contains where the references lead that name no authority of their own: to the origin of
the base.
-/

namespace Soql
namespace Url

structure Origin where
  secure : Bool
  host : List Char
  port : Option (List Char)
  host_ne_nil : host ≠ []
  host_plain : ∀ c ∈ host, isHostChar c = true
  port_plain : ∀ digits, port = some digits → ∀ c ∈ digits, c.isDigit = true

namespace Origin

def scheme (o : Origin) : List Char :=
  if o.secure then "https".toList else "http".toList

def authority (o : Origin) : List Char :=
  o.host ++ (o.port.map fun digits => ':' :: digits).getD []

def text (o : Origin) : List Char :=
  o.scheme ++ "://".toList ++ o.authority

variable (o : Origin)

theorem scheme_ne_nil : o.scheme ≠ [] := by
  unfold scheme
  split <;> decide

theorem authority_ne_nil : o.authority ≠ [] := by
  simp [authority, o.host_ne_nil]

theorem isHierarchical_scheme : isHierarchical o.scheme = true := by
  unfold scheme
  split <;> decide

theorem isAuthorityChar_of_mem : ∀ c ∈ o.authority, isAuthorityChar c = true := by
  unfold authority isAuthorityChar
  intro c hc
  rcases List.mem_append.1 hc with hc | hc
  . rw [o.host_plain c hc, Bool.true_or]
  . cases hport : o.port with
    | none => simp [hport] at hc
    | some digits =>
      simp only [hport, Option.map_some, Option.getD_some, List.mem_cons] at hc
      rcases hc with rfl | hc
      . decide
      . simp [isHostChar, o.port_plain digits hport c hc]

theorem text_ne_nil : o.text ≠ [] := by
  simp [text]

theorem isVisible_of_mem_text : ∀ c ∈ o.text, isVisible c = true := by
  have hscheme : ∀ c ∈ o.scheme ++ "://".toList, isVisible c = true := by
    rw [← List.all_eq_true]
    unfold scheme
    cases o.secure <;> decide
  intro c hc
  rcases List.mem_append.1 hc with hc | hc
  . exact hscheme c hc
  . exact (bounds_of_isAuthorityChar (o.isAuthorityChar_of_mem c hc)).1

theorem getLast?_text_ne : ∀ c ∈ o.text.getLast?, c ≠ '/' := by
  unfold text
  rw [List.getLast?_append, Option.or_of_isSome (by simpa using o.authority_ne_nil)]
  intro c hc
  exact ne_of_holds (o.isAuthorityChar_of_mem c (List.mem_of_getLast? hc)) (by decide)

theorem splitScheme_append (cs : List Char) :
    splitScheme (o.text ++ cs) = (some o.scheme, '/' :: '/' :: o.authority ++ cs) := by
  unfold text scheme
  cases o.secure with
  | true => rfl
  | false => rfl

theorem parse_append {cs : List Char} (h : ∀ c ∈ cs.head?, endsAuthority c = true)
    (defaultScheme : List Char)
    : Reference.parse defaultScheme (o.text ++ cs)
        = .ok (.ofPath o.scheme o.authority (dropBreaks cs)) := by
  have hends : ∀ c ∈ o.authority, endsAuthority c = false := by
    intro c hc
    exact endsAuthority_eq_false (o.isAuthorityChar_of_mem c hc)
  have hscheme : splitScheme (clean (o.text ++ cs))
      = (some o.scheme, '/' :: '/' :: o.authority ++ dropBreaks cs) := by
    rw [clean_append o.text_ne_nil o.isVisible_of_mem_text, splitScheme_append]
  have hauthority := splitAuthority_append hends (head?_dropBreaks h)
  exact Reference.parse_eq_ok hscheme hauthority o.isAuthorityChar_of_mem

end Origin

/--
A reference to nothing but a path on the same host: no colon stands in front of its first slash, and
no second slash behind it if it is the first character.
-/
structure IsPath (cs front rest : List Char) : Prop where
  clean_eq : clean cs = front ++ '/' :: rest
  front_plain : ∀ c ∈ front, isUnreserved c = true
  second : front = [] → rest.head? ≠ some '/'

theorem isPath_of_slash {cs : List Char} (hsecond : cs.head? ≠ some '/')
    (htab : '\t' ∉ cs) (hreturn : '\r' ∉ cs) (hline : '\n' ∉ cs)
    : IsPath ('/' :: cs) [] cs where
  clean_eq := by
    have hclean := clean_append (by decide : ['/'] ≠ []) (List.all_eq_true.1 (by decide)) cs
    rwa [dropBreaks_eq_self htab hreturn hline] at hclean
  front_plain := by simp
  second _ := hsecond

namespace IsPath

variable {cs front rest : List Char} (h : IsPath cs front rest)
include h

theorem not_mem_front {c : Char} (hc : isUnreserved c = false) : c ∉ front :=
  not_mem_of_forall h.front_plain hc

theorem parse_eq (defaultScheme : List Char) :
    Reference.parse defaultScheme cs
      = .ok (.ofPath defaultScheme [] (front ++ '/' :: rest)) := by
  have hscheme : splitScheme (clean cs) = (none, front ++ '/' :: rest) := by
    rw [h.clean_eq]
    exact splitScheme_eq_none (h.not_mem_front (by decide)) rest
  have hauthority := splitAuthority_eq_nil (h.not_mem_front (by decide)) h.second
  exact Reference.parse_eq_ok hscheme hauthority (by simp)

theorem ne_nil : cs ≠ [] := by
  rintro rfl
  have hlength := congrArg List.length h.clean_eq
  simp [clean] at hlength

theorem path_ne_nil (scheme authority : List Char) :
    (Reference.ofPath scheme authority (front ++ '/' :: rest)).path ≠ [] := by
  obtain ⟨rest', hpath⟩ := Reference.exists_path_ofPath (h.not_mem_front (by decide))
    (h.not_mem_front (by decide)) scheme authority rest
  simp [hpath]

section

variable (o : Origin) {base : List Char} (hbase : ∀ c ∈ base.head?, endsAuthority c = true)
include hbase

theorem resolve_eq :
    resolve (o.text ++ base) cs
      = .ok ((Reference.ofPath o.scheme [] (front ++ '/' :: rest)).under
          (.ofPath o.scheme o.authority (dropBreaks base))).render := by
  have hne := h.ne_nil
  unfold resolve
  rw [o.parse_append hbase, ok_bind, Reference.scheme_ofPath, h.parse_eq, ok_bind]
  simp [hne, o.isHierarchical_scheme]

theorem exists_resolve_eq : ∃ rest, resolve (o.text ++ base) cs = .ok (o.text ++ '/' :: rest) := by
  simp only [h.resolve_eq o hbase, Reference.under_eq rfl (h.path_ne_nil _ _), Except.ok.injEq]
  exact Reference.exists_render_eq o.scheme_ne_nil o.authority_ne_nil (mergePaths_ne_nil _ _)

end

end IsPath
end Url
end Soql
