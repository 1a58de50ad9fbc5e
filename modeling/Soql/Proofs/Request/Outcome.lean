import Soql.Proofs.Request.Version
import Soql.Proofs.Url.Authority

/-!
This module contains what becomes of a request: it is logged as soon as its template is compiled,
and fails after that only for a surrogate in its query and for the authority of its connection.
-/

namespace Soql

theorem InstanceUrl.exists_text_eq (url : InstanceUrl) :
    ∃ scheme rest, (scheme = "https".toList ∨ scheme = "http".toList)
      ∧ url.text.toList = scheme ++ "://".toList ++ rest := by
  have hvalid := url.valid
  unfold isHttpUrl at hvalid
  rw [Bool.or_eq_true, List.isPrefixOf_iff_prefix, List.isPrefixOf_iff_prefix] at hvalid
  rcases hvalid with ⟨rest, hrest⟩ | ⟨rest, hrest⟩
  . exact ⟨"https".toList, rest, .inl rfl, hrest.symm⟩
  . exact ⟨"http".toList, rest, .inr rfl, hrest.symm⟩

namespace ClientConfig

theorem authorityOf_base (config : ClientConfig) :
    Url.authorityOf config.base = Url.authorityOf config.instanceUrl.text.toList := by
  obtain ⟨scheme, rest, hscheme, htext⟩ := config.instanceUrl.exists_text_eq
  obtain ⟨kept, slashes, rfl, hslashes, hkept⟩ := Url.exists_slashes_eq rest
  have hhead : ∀ c ∈ slashes.head?, Url.endsAuthority c = true := by
    intro c hc
    rw [hslashes c (List.mem_of_mem_head? hc)]
    decide
  rw [htext, Url.authorityOf_append hscheme, Url.leadingAuthority_append hhead]
  cases kept with
  | nil =>
    -- The slashes behind the scheme are at the end, too, and no authority is left.
    have hsplit : config.instanceUrl.text.toList = scheme ++ [':'] ++ '/' :: '/' :: slashes := by
      rw [htext]
      simp
    rw [base_eq_of_text_eq hsplit (by simpa using hslashes) (by simp)]
    rcases hscheme with rfl | rfl
    . decide
    . decide
  | cons c cs =>
    have hsplit : config.instanceUrl.text.toList
        = scheme ++ "://".toList ++ c :: cs ++ slashes := by
      rw [htext, List.append_assoc _ (c :: cs)]
    have hlast : ∀ d ∈ (scheme ++ "://".toList ++ c :: cs).getLast?, d ≠ '/' := by
      rw [List.getLast?_append, Option.or_of_isSome (by simp)]
      exact hkept
    rw [base_eq_of_text_eq hsplit hslashes hlast, List.append_assoc,
      Url.authorityOf_append hscheme, Url.leadingAuthority_append]
    simp [Url.endsAuthority]

end ClientConfig

namespace Request

variable (kind : RequestKind) (config : ClientConfig) (version : ApiVersion)

theorem exists_describe_eq {compiled : CompiledQuery} {query : String}
    (h : compiled.finalQuery.encode = .ok query)
    : ∃ request, describe kind config version compiled
        = ((Url.checkAuthority (Url.authorityOf config.instanceUrl.text.toList)).map
            fun _ => request).mapError .url := by
  have hencoded : Url.percentEncode compiled.finalQuery = .ok (Url.percentChars query.toList) :=
    Url.percentEncode_eq_ok_iff.2 ⟨query, Text.encode_eq_ok_iff.1 h, rfl⟩
  obtain ⟨front, hpath⟩ := exists_isPath_pathOf kind version (Url.percentChars query.toList)
  obtain ⟨url, hurl⟩ := hpath.exists_resolve_eq_map config.base
  rw [config.authorityOf_base] at hurl
  refine ⟨⟨kind, compiled, version.text,
    String.ofList (pathOf kind version (Url.percentChars query.toList)), String.ofList url⟩, ?_⟩
  unfold describe
  rw [hencoded]
  simp only [mapError_ok, ok_bind]
  rw [hurl]
  cases Url.checkAuthority (Url.authorityOf config.instanceUrl.text.toList) <;> rfl

/--
A query is logged once if its template compiles, and nothing is logged otherwise. For a query that
was logged there is a request, unless it has a surrogate, or the URL of the connection has no
authority that can be read: the check of these URLs looks at their beginning only.
-/
theorem build_logs (t : Template) (options : Option RequestOptions) :
    (∀ compiled, t.compile (options.getD .default).skipTrim = .ok compiled
        → ∃ outcome, build kind (some t) (some config) options
            = ([logRecord kind compiled], outcome)
          ∧ ((∃ request, outcome = .ok request)
            ↔ (∃ query : String, compiled.finalQuery = Text.ofString query)
              ∧ Url.IsAuthority (Url.authorityOf config.instanceUrl.text.toList))
          ∧ ∀ e, outcome = .error e
            ↔ (∃ u, e = .encoding u ∧ compiled.finalQuery.encode = .error u)
              ∨ ∃ fault, e = .url fault
                ∧ (∃ query : String, compiled.finalQuery = Text.ofString query)
                ∧ Url.checkAuthority (Url.authorityOf config.instanceUrl.text.toList)
                  = .error fault)
      ∧ ∀ e, t.compile (options.getD .default).skipTrim = .error e
        → build kind (some t) (some config) options = ([], .error (.compile e)) := by
  constructor
  . intro compiled hcompiled
    refine ⟨_, build_eq hcompiled, ?_⟩
    simp only [← Text.encode_eq_ok_iff]
    cases hquery : compiled.finalQuery.encode with
    | error u =>
      rw [describe_eq_encoding hquery]
      simp [eq_comm]
    | ok query =>
      obtain ⟨request, hrequest⟩ :=
        exists_describe_eq kind config (config.versionFor options) hquery
      rw [hrequest, ← Url.checkAuthority_eq_ok_iff]
      cases Url.checkAuthority (Url.authorityOf config.instanceUrl.text.toList) with
      | error fault => simp [Except.map, eq_comm]
      | ok => simp [Except.map]
  . intro e he
    apply build_eq_error he

/--
A bracket that is never closed passes the check of the URL, but the request fails once it is logged.
-/
theorem build_fails_logged :
    InstanceUrl.read (.text "https://[") = .ok ⟨"https://[", by decide⟩
      ∧ build .query (some ⟨"SELECT Id FROM A", []⟩)
          (some ⟨⟨"https://[", by decide⟩, ⟨"v58.0", by decide⟩⟩) none
        = ([logRecord .query ⟨"SELECT Id FROM A", "SELECT Id FROM A"⟩],
          .error (.url .misplacedBrackets)) := by
  let config : ClientConfig := ⟨⟨"https://[", by decide⟩, ⟨"v58.0", by decide⟩⟩
  have hread : InstanceUrl.read (.text "https://[") = .ok config.instanceUrl :=
    toOption_eq_some_iff.1 (by decide +kernel)
  have hlogged : (build .query (some ⟨"SELECT Id FROM A", []⟩) (some config) none).1
      = [logRecord .query ⟨"SELECT Id FROM A", "SELECT Id FROM A"⟩] := by
    decide +kernel
  have hfault : error? (build .query (some ⟨"SELECT Id FROM A", []⟩) (some config) none).2
      = some (.url .misplacedBrackets) := by
    decide +kernel
  exact ⟨hread, Prod.ext hlogged (error?_eq_some_iff.1 hfault)⟩

end Request
end Soql
