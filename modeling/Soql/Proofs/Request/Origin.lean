import Soql.Request.Build
import Soql.Proofs.Url.Origin
import Soql.Proofs.Url.Percent

/-!
This module contains where requests go: to the host of the connection, whatever the version, the
query and the references to further pages are.
-/

namespace Soql
namespace ClientConfig

def versionFor (config : ClientConfig) (options : Option RequestOptions) : ApiVersion :=
  (options.getD .default).apiVersion.getD config.apiVersion

theorem base_eq_of_text_eq {config : ClientConfig} {front slashes : List Char}
    (h : config.instanceUrl.text.toList = front ++ slashes) (hslashes : ∀ c ∈ slashes, c = '/')
    (hfront : ∀ c ∈ front.getLast?, c ≠ '/')
    : config.base = front ++ ['/'] := by
  have hdropped : slashes.reverse.dropWhile (· == '/') = [] := by
    rw [List.dropWhile_eq_nil_iff]
    intro c hc
    rw [beq_iff_eq]
    apply hslashes c (List.mem_reverse.1 hc)
  have hkept : front.reverse.dropWhile (· == '/') = front.reverse := by
    rw [List.dropWhile_eq_self_iff]
    intro hpos
    have hlast : front.reverse[0] ∈ front.getLast? := by
      rw [← List.head?_reverse, List.head?_eq_getElem?, List.getElem?_eq_getElem hpos]
      rfl
    simpa using hfront _ hlast
  unfold base
  rw [h, List.reverse_append, List.dropWhile_append, hdropped, hkept]
  simp

def IsAt (config : ClientConfig) (o : Url.Origin) : Prop :=
  ∃ rest, config.instanceUrl.text.toList = o.text ++ rest
    ∧ ∀ c ∈ rest.head?, Url.endsAuthority c = true

theorem IsAt.exists_base_eq {config : ClientConfig} {o : Url.Origin} (h : config.IsAt o) :
    ∃ rest, config.base = o.text ++ rest ∧ ∀ c ∈ rest.head?, Url.endsAuthority c = true := by
  obtain ⟨rest, htext, hrest⟩ := h
  obtain ⟨kept, slashes, rfl, hslashes, hkept⟩ := Url.exists_slashes_eq rest
  refine ⟨kept ++ ['/'], ?_, ?_⟩
  . rw [← List.append_assoc] at *
    apply base_eq_of_text_eq htext hslashes
    apply Url.forall_getLast?_append o.getLast?_text_ne hkept
  . cases kept with
    | nil => simp [Url.endsAuthority]
    | cons c cs => exact hrest

theorem IsAt.exists_resolve_eq {config : ClientConfig} {o : Url.Origin} (h : config.IsAt o)
    {cs front rest : List Char} (hpath : Url.IsPath cs front rest)
    : ∃ rest', Url.resolve config.base cs = .ok (o.text ++ '/' :: rest') := by
  obtain ⟨base, hbase, hhead⟩ := h.exists_base_eq
  rw [hbase]
  exact hpath.exists_resolve_eq o hhead

end ClientConfig

namespace Request

theorem exists_isPath_pathOf (kind : RequestKind) (version : ApiVersion) (encoded : List Char) :
    ∃ rest, Url.IsPath (pathOf kind version encoded) "services".toList rest := by
  have hstart : "services/data/".toList = "services/".toList ++ "data/".toList := by decide
  have hclean := Url.clean_append (by decide : "services/".toList ≠ [])
    (List.all_eq_true.1 (by decide))
  unfold pathOf
  simp only [hstart, List.append_assoc]
  refine ⟨_, hclean _, List.all_eq_true.1 (by decide), ?_⟩
  intro h
  cases h

variable {kind : RequestKind} {config : ClientConfig}

theorem describe_eq_ok_iff {version : ApiVersion} {compiled : CompiledQuery} {request : Request} :
    describe kind config version compiled = .ok request
      ↔ ∃ encoded url, Url.percentEncode compiled.finalQuery = .ok encoded
        ∧ Url.resolve config.base (pathOf kind version encoded) = .ok url
        ∧ ⟨kind, compiled, version.text, String.ofList (pathOf kind version encoded),
          String.ofList url⟩ = request := by
  unfold describe
  simp [bind_eq_ok_iff, mapError_eq_ok_iff]

theorem describe_eq_encoding {version : ApiVersion} {compiled : CompiledQuery}
    {u : Text.Unencodable} (h : compiled.finalQuery.encode = .error u)
    : describe kind config version compiled = .error (.encoding u) := by
  unfold describe
  rw [Url.percentEncode_eq_error_iff.2 h]
  rfl

variable {t : Template} {options : Option RequestOptions}

theorem build_eq {compiled : CompiledQuery}
    (h : t.compile (options.getD .default).skipTrim = .ok compiled)
    : build kind (some t) (some config) options
        = ([logRecord kind compiled],
          describe kind config (config.versionFor options) compiled) := by
  unfold build
  simp only [h]
  rfl

theorem build_eq_error {e : Error} (h : t.compile (options.getD .default).skipTrim = .error e) :
    build kind (some t) (some config) options = ([], .error (.compile e)) := by
  unfold build
  simp only [h]

structure IsBuilt (kind : RequestKind) (t : Template) (config : ClientConfig)
    (options : Option RequestOptions) (encoded url : List Char) (request : Request) : Prop where
  compile_eq : t.compile (options.getD .default).skipTrim = .ok request.compiled
  encode_eq : Url.percentEncode request.compiled.finalQuery = .ok encoded
  resolve_eq : Url.resolve config.base (pathOf kind (config.versionFor options) encoded) = .ok url
  version_eq : request.apiVersion = (config.versionFor options).text
  path_eq : request.path.toList = pathOf kind (config.versionFor options) encoded
  url_eq : request.url.toList = url

theorem exists_isBuilt_of_build {records : List LogRecord} {request : Request}
    (h : build kind (some t) (some config) options = (records, .ok request))
    : ∃ encoded url, IsBuilt kind t config options encoded url request := by
  cases hcompiled : t.compile (options.getD .default).skipTrim with
  | error e =>
    rw [build_eq_error hcompiled] at h
    cases h
  | ok compiled =>
    rw [build_eq hcompiled, Prod.mk.injEq] at h
    obtain ⟨encoded, url, hencoded, hurl, rfl⟩ := describe_eq_ok_iff.1 h.2
    refine ⟨encoded, url, hcompiled, hencoded, hurl, rfl, ?_, ?_⟩
    . apply String.toList_ofList
    . apply String.toList_ofList

theorem exists_build_eq_ok {compiled : CompiledQuery} {encoded url : List Char}
    (hcompiled : t.compile (options.getD .default).skipTrim = .ok compiled)
    (hencoded : Url.percentEncode compiled.finalQuery = .ok encoded)
    (hurl : Url.resolve config.base (pathOf kind (config.versionFor options) encoded) = .ok url)
    : ∃ records request, build kind (some t) (some config) options = (records, .ok request)
        ∧ IsBuilt kind t config options encoded url request := by
  have hdescribe : describe kind config (config.versionFor options) compiled = .ok _ :=
    describe_eq_ok_iff.2 ⟨encoded, url, hencoded, hurl, rfl⟩
  rw [build_eq hcompiled, hdescribe]
  refine ⟨_, _, rfl, hcompiled, hencoded, hurl, rfl, ?_, ?_⟩
  . apply String.toList_ofList
  . apply String.toList_ofList

end Request

theorem nextPage_eq_ok {config : ClientConfig} {next : String} {url : List Char}
    (hne : next.toList ≠ []) (h : Url.resolve config.base next.toList = .ok url)
    : nextPage (some config) (some next)
        = ([⟨"DEBUG", "Requesting next page for SOQL query: " ++ next⟩],
          .ok (some (String.ofList url))) := by
  have hne : next.isEmpty = false := by
    rw [String.isEmpty_eq_false_iff]
    rintro rfl
    exact hne rfl
  unfold nextPage
  simp [hne, h]

section

variable {config : ClientConfig} {o : Url.Origin} (h : config.IsAt o)
include h

theorem ClientConfig.IsAt.exists_resolve_pathOf_eq (kind : RequestKind) (version : ApiVersion)
    (encoded : List Char)
    : ∃ rest, Url.resolve config.base (Request.pathOf kind version encoded)
        = .ok (o.text ++ '/' :: rest) := by
  obtain ⟨rest, hpath⟩ := Request.exists_isPath_pathOf kind version encoded
  exact h.exists_resolve_eq hpath

theorem ClientConfig.IsAt.exists_build_eq {t : Template} {options : Option RequestOptions}
    {compiled : CompiledQuery} {query : String}
    (hcompiled : t.compile (options.getD .default).skipTrim = .ok compiled)
    (hquery : compiled.finalQuery = Text.ofString query) (kind : RequestKind)
    : ∃ records request, Request.build kind (some t) (some config) options
        = (records, .ok request) := by
  obtain ⟨rest, hurl⟩ := h.exists_resolve_pathOf_eq kind (config.versionFor options)
    (Url.percentChars query.toList)
  have hencoded : Url.percentEncode compiled.finalQuery = .ok (Url.percentChars query.toList) := by
    rw [hquery, Url.percentEncode_ofString]
  obtain ⟨records, request, hbuild, _⟩ := Request.exists_build_eq_ok hcompiled hencoded hurl
  exact ⟨records, request, hbuild⟩

end

/--
No version, no query and no reference to a further page that begins with a single slash leads away
from the host of the connection; nor is there one for which no URL can be made, other than a query
that has no form in UTF-8.
-/
theorem ClientConfig.urls_begin_with_origin {config : ClientConfig} {o : Url.Origin}
    (h : config.IsAt o)
    : (∀ (kind : RequestKind) (t : Template) (options : Option RequestOptions),
      (∀ records request, Request.build kind (some t) (some config) options
          = (records, .ok request)
        → o.text ++ ['/'] <+: request.url.toList)
      ∧ ∀ (compiled : CompiledQuery) (query : String),
        t.compile (options.getD .default).skipTrim = .ok compiled
        → compiled.finalQuery = Text.ofString query
        → ∃ records request, Request.build kind (some t) (some config) options
          = (records, .ok request))
    ∧ ∀ next : String, next.toList.head? = some '/' → next.toList[1]? ≠ some '/'
      → '\t' ∉ next.toList → '\r' ∉ next.toList → '\n' ∉ next.toList
      → ∃ records url, nextPage (some config) (some next) = (records, .ok (some url))
        ∧ o.text ++ ['/'] <+: url.toList := by
  constructor
  . intro kind t options
    constructor
    . intro records request hbuild
      obtain ⟨encoded, url, hrequest⟩ := Request.exists_isBuilt_of_build hbuild
      obtain ⟨rest, hurl⟩ := h.exists_resolve_pathOf_eq kind (config.versionFor options) encoded
      rw [hrequest.resolve_eq, Except.ok.injEq] at hurl
      rw [hrequest.url_eq, hurl]
      simp
    . intro compiled query hcompiled hquery
      exact h.exists_build_eq hcompiled hquery kind
  . intro next hfirst hsecond htab hreturn hline
    obtain ⟨cs, hcs⟩ := List.head?_eq_some_iff.1 hfirst
    rw [hcs, List.getElem?_cons_succ, ← List.head?_eq_getElem?] at hsecond
    rw [hcs, List.mem_cons, not_or] at htab hreturn hline
    obtain ⟨rest, hurl⟩ := h.exists_resolve_eq
      (Url.isPath_of_slash hsecond htab.2 hreturn.2 hline.2)
    rw [← hcs] at hurl
    have hne : next.toList ≠ [] := by simp [hcs]
    rw [nextPage_eq_ok hne hurl]
    refine ⟨_, _, rfl, ?_⟩
    simp

theorem ClientConfig.urls_begin_with_origin_hostile :
    (∃ records request, Request.build .query (some ⟨"A = \x7b\x7d", [.text "b"]⟩)
        (some ⟨⟨"https://a.b:8443?x", by decide⟩, ⟨"v://c/", by decide⟩⟩) none
        = (records, .ok request)
      ∧ "https://a.b:8443/".toList <+: request.url.toList)
    ∧ ∃ records url, nextPage (some ⟨⟨"https://a.b:8443?x", by decide⟩, ⟨"v://c/", by decide⟩⟩)
        (some "/..//c:1\\") = (records, .ok (some url))
      ∧ "https://a.b:8443/".toList <+: url.toList := by
  let o : Url.Origin := {
    secure := true
    host := "a.b".toList
    port := some "8443".toList
    host_ne_nil := by decide
    host_plain := List.all_eq_true.1 (by decide)
    port_plain := by
      intro digits h
      cases h
      exact List.all_eq_true.1 (by decide) }
  have hat : IsAt ⟨⟨"https://a.b:8443?x", by decide⟩, ⟨"v://c/", by decide⟩⟩ o := by
    refine ⟨"?x".toList, by decide, ?_⟩
    intro c hc
    cases hc
    decide
  have hcompiled : Template.compile false ⟨"A = \x7b\x7d", [.text "b"]⟩
      = .ok ⟨"A = \x7b0\x7d", "A = 'b'"⟩ :=
    toOption_eq_some_iff.1 (by decide +kernel)
  obtain ⟨hrequest, hpage⟩ := urls_begin_with_origin hat
  constructor
  . obtain ⟨hbegins, hexists⟩ := hrequest .query ⟨"A = \x7b\x7d", [.text "b"]⟩ none
    obtain ⟨records, request, hbuild⟩ := hexists _ _ hcompiled rfl
    exact ⟨records, request, hbuild, hbegins records request hbuild⟩
  . exact hpage "/..//c:1\\" (by decide) (by decide) (by decide) (by decide) (by decide)

end Soql
