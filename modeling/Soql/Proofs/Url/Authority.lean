import Soql.Proofs.Url.Origin

/-!
This module contains which references cannot be resolved: only those against a base whose authority
is refused.
-/

namespace Soql
namespace Url

def authorityOf (cs : List Char) : List Char :=
  (splitAuthority (splitScheme (clean cs)).2).1

def checkAuthority (authority : List Char) : Except Fault Unit := do
  checkBrackets authority
  checkNormalized authority

def isAddress (host : List Char) : Bool :=
  if host.head? == some 'v' then isFutureAddress host else !isIPv4 host && isIPv6 host

theorem checkBracketed_eq_ok_iff {host : List Char} :
    checkBracketed host = .ok () ↔ isAddress host = true := by
  unfold checkBracketed isAddress
  split
  . cases isFutureAddress host <;> simp
  . cases isIPv4 host <;> cases isIPv6 host <;> simp

/--
An authority has brackets only around an address, and no character that looks like a delimiter.
-/
structure IsAuthority (cs : List Char) : Prop where
  brackets : '[' ∈ cs ↔ ']' ∈ cs
  address : '[' ∈ cs → ∃ host, hostOf cs = .ok host ∧ isAddress host = true
  unlike : ∀ c ∈ cs, c.toNat ∉ delimiterLike

theorem checkBrackets_eq_ok_iff {cs : List Char} :
    checkBrackets cs = .ok ()
      ↔ ('[' ∈ cs ↔ ']' ∈ cs)
        ∧ ('[' ∈ cs → ∃ host, hostOf cs = .ok host ∧ isAddress host = true) := by
  unfold checkBrackets
  cases hopening : cs.contains '[' with
  | false =>
    cases hclosing : cs.contains ']' with
    | false => simp_all
    | true => simp_all
  | true =>
    cases hclosing : cs.contains ']' with
    | false => simp_all
    | true =>
      rw [List.contains_iff_mem] at hopening hclosing
      simp [hopening, hclosing, bind_eq_ok_iff, checkBracketed_eq_ok_iff]

theorem checkNormalized_eq_ok_iff {cs : List Char} :
    checkNormalized cs = .ok () ↔ ∀ c ∈ cs, c.toNat ∉ delimiterLike := by
  unfold checkNormalized
  simp

theorem checkAuthority_eq_ok_iff {cs : List Char} :
    checkAuthority cs = .ok () ↔ IsAuthority cs := by
  unfold checkAuthority
  rw [bind_eq_ok_iff]
  constructor
  . rintro ⟨_, hbrackets, hnormalized⟩
    obtain ⟨hbrackets, haddress⟩ := checkBrackets_eq_ok_iff.1 hbrackets
    exact ⟨hbrackets, haddress, checkNormalized_eq_ok_iff.1 hnormalized⟩
  . rintro ⟨hbrackets, haddress, hunlike⟩
    refine ⟨(), checkBrackets_eq_ok_iff.2 ⟨hbrackets, haddress⟩, ?_⟩
    apply checkNormalized_eq_ok_iff.2 hunlike

theorem Reference.exists_parse_eq_map (defaultScheme cs : List Char) :
    ∃ r, parse defaultScheme cs = (checkAuthority (authorityOf cs)).map fun _ => r := by
  refine ⟨ofPath ((splitScheme (clean cs)).1.getD defaultScheme) (authorityOf cs)
    (splitAuthority (splitScheme (clean cs)).2).2, ?_⟩
  rw [parse_eq]
  unfold checkAuthority authorityOf
  dsimp only
  cases checkBrackets (splitAuthority (splitScheme (clean cs)).2).1 with
  | error fault => rfl
  | ok => cases checkNormalized (splitAuthority (splitScheme (clean cs)).2).1 <;> rfl

theorem IsPath.exists_resolve_eq_map {cs front rest : List Char} (h : IsPath cs front rest)
    (base : List Char)
    : ∃ url, resolve base cs = (checkAuthority (authorityOf base)).map fun _ => url := by
  obtain ⟨b, hb⟩ := Reference.exists_parse_eq_map [] base
  have hne : ¬cs.isEmpty = true := by simpa using h.ne_nil
  unfold resolve
  rw [if_neg hne, hb]
  cases checkAuthority (authorityOf base) with
  | error fault => exact ⟨[], rfl⟩
  | ok =>
    simp only [Except.map, ok_bind, h.parse_eq]
    split
    . exact ⟨_, rfl⟩
    . exact ⟨_, rfl⟩

theorem takeWhile_append_of_head? {p : α → Bool} {bs : List α} (h : ∀ b ∈ bs.head?, p b = false)
    (as : List α) : (as ++ bs).takeWhile p = as.takeWhile p := by
  induction as with
  | nil =>
    cases bs with
    | nil => rfl
    | cons b bs => simp [h b rfl]
  | cons a as ih => rw [List.cons_append, List.takeWhile_cons, List.takeWhile_cons, ih]

def leadingAuthority (cs : List Char) : List Char :=
  (dropBreaks cs).takeWhile (!endsAuthority ·)

theorem leadingAuthority_append {rest : List Char} (h : ∀ c ∈ rest.head?, endsAuthority c = true)
    (cs : List Char) : leadingAuthority (cs ++ rest) = leadingAuthority cs := by
  unfold leadingAuthority dropBreaks
  rw [List.filter_append, takeWhile_append_of_head?]
  intro c hc
  rw [head?_dropBreaks h c hc]
  rfl

theorem authorityOf_append {scheme : List Char}
    (h : scheme = "https".toList ∨ scheme = "http".toList) (cs : List Char)
    : authorityOf (scheme ++ "://".toList ++ cs) = leadingAuthority cs := by
  have hvisible : ∀ c ∈ scheme ++ "://".toList, isVisible c = true := by
    rcases h with rfl | rfl
    . exact List.all_eq_true.1 (by decide)
    . exact List.all_eq_true.1 (by decide)
  unfold authorityOf
  rw [clean_append (by simp) hvisible]
  rcases h with rfl | rfl
  . rfl
  . rfl

end Url
end Soql
