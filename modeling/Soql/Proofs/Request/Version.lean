import Soql.Proofs.Request.Origin
import Soql.Proofs.Url.Path

/-!
This module contains which versions stand in the URL of a request as they are. Anything behind a `v`
is a version, and it becomes part of the URL without being encoded.
-/

namespace Soql
namespace ApiVersion

/--
Whether a version is made of names with slashes between them, as any part of a path is.
-/
def isPlain (version : ApiVersion) : Bool :=
  (Url.splitAll '/' version.text.toList).all Url.isName
    && version.text.toList.all Url.isPathChar

theorem isPlain_eq_true_iff {version : ApiVersion} :
    version.isPlain = true
      ↔ (∀ segment ∈ Url.splitAll '/' version.text.toList, Url.isName segment = true)
        ∧ ∀ c ∈ version.text.toList, Url.isPathChar c = true := by
  simp [isPlain]

theorem isPlain_of_isUnreserved {version : ApiVersion}
    (h : ∀ c ∈ version.text.toList, Url.isUnreserved c = true) : version.isPlain = true := by
  have hslash : '/' ∉ version.text.toList := Url.not_mem_of_forall h (by decide)
  rw [isPlain_eq_true_iff, Url.splitAll_eq_singleton hslash]
  constructor
  . intro segment hsegment
    rw [List.mem_singleton.1 hsegment]
    have hvalid := version.valid
    unfold isApiVersion at hvalid
    split at hvalid
    . next hversion =>
      rw [hversion]
      simp [Url.isName]
    . cases hvalid
  . intro c hc
    exact Url.isPathChar_of_isUnreserved (h c hc)

end ApiVersion

namespace ClientConfig

theorem base_eq {config : ClientConfig} {o : Url.Origin}
    (h : config.instanceUrl.text.toList = o.text) : config.base = o.text ++ ['/'] := by
  apply base_eq_of_text_eq (h.trans (List.append_nil o.text).symm)
  . simp
  . exact o.getLast?_text_ne

end ClientConfig

namespace Request

def resource (kind : RequestKind) (version : ApiVersion) : List Char :=
  "services/data/".toList ++ version.text.toList ++ '/' :: kind.name.toList

variable {kind : RequestKind} {version : ApiVersion} {encoded : List Char}

theorem pathOf_eq :
    pathOf kind version encoded
      = resource kind version ++ '/' :: '?' :: ("q=".toList ++ encoded) := by
  have hmark : "/?q=".toList = '/' :: '?' :: "q=".toList := by decide
  unfold pathOf resource
  simp only [hmark, List.append_assoc, List.cons_append]

theorem head?_resource : (resource kind version).head? = some 's' := by
  have hstart : "services/data/".toList = 's' :: "ervices/data/".toList := by decide
  unfold resource
  rw [hstart]
  rfl

theorem head?_resource_ne : (resource kind version).head? ≠ some '/' := by
  rw [head?_resource]
  decide

theorem resource_ne_nil : resource kind version ≠ [] := by
  intro hnil
  have hhead : (resource kind version).head? = some 's' := head?_resource
  rw [hnil] at hhead
  cases hhead

theorem forall_isName_resource_iff :
    (∀ segment ∈ Url.splitAll '/' (resource kind version), Url.isName segment = true)
      ↔ ∀ segment ∈ Url.splitAll '/' version.text.toList, Url.isName segment = true := by
  have hstart : "services/data/".toList = "services/data".toList ++ ['/'] := by decide
  have hfront : ∀ segment ∈ Url.splitAll '/' "services/data".toList,
      Url.isName segment = true := by decide
  have hname : ∀ segment ∈ Url.splitAll '/' kind.name.toList, Url.isName segment = true := by
    cases kind <;> decide
  unfold resource
  rw [Url.splitAll_append_cons, hstart, List.append_assoc, List.singleton_append,
    Url.splitAll_append_cons, List.forall_mem_append, List.forall_mem_append]
  exact ⟨fun h => h.1.2, fun h => ⟨⟨hfront, h⟩, hname⟩⟩

theorem absolute_resource_eq_iff :
    Url.Reference.absolute (Url.mergePaths ['/'] (resource kind version ++ ['/']))
        = '/' :: resource kind version ++ ['/']
      ↔ ∀ segment ∈ Url.splitAll '/' version.text.toList, Url.isName segment = true := by
  rw [Url.absolute_mergePaths_root_eq_iff resource_ne_nil head?_resource_ne]
  exact forall_isName_resource_iff

theorem isPathChar_of_mem_query {query : Text} (h : Url.percentEncode query = .ok encoded)
    {c : Char} (hc : c ∈ "q=".toList ++ encoded) : Url.isPathChar c = true := by
  obtain ⟨s, _, rfl⟩ := Url.percentEncode_eq_ok_iff.1 h
  rcases List.mem_append.1 hc with hc | hc
  . exact List.all_eq_true.1 (by decide : "q=".toList.all Url.isPathChar = true) c hc
  . exact Url.isPathChar_of_mem_percentChars hc

section

variable {query : Text} (hencoded : Url.percentEncode query = .ok encoded)
  (h : ∀ c ∈ version.text.toList, Url.isPathChar c = true)
include h

theorem isPathChar_of_mem_resource {c : Char} (hc : c ∈ resource kind version) :
    Url.isPathChar c = true := by
  have hstart : ∀ c ∈ "services/data/".toList, Url.isPathChar c = true :=
    List.all_eq_true.1 (by decide)
  have hname : ∀ c ∈ '/' :: kind.name.toList, Url.isPathChar c = true := by
    cases kind <;> exact List.all_eq_true.1 (by decide)
  rcases List.mem_append.1 hc with hc | hc
  . rcases List.mem_append.1 hc with hc | hc
    . exact hstart c hc
    . exact h c hc
  . exact hname c hc

include hencoded

theorem resolve_pathOf (o : Url.Origin) {front : List Char}
    (hfront : ∀ c ∈ front, Url.isPathChar c = true)
    (hbase : ∀ c ∈ (front ++ ['/']).head?, Url.endsAuthority c = true)
    (kind : RequestKind)
    : Url.resolve (o.text ++ (front ++ ['/'])) (pathOf kind version encoded)
        = .ok (o.text
          ++ (Url.Reference.absolute
              (Url.mergePaths (front ++ ['/']) (resource kind version ++ ['/']))
            ++ '?' :: ("q=".toList ++ encoded))) := by
  have hvisible : ∀ c ∈ (resource kind version).head?, Url.isVisible c = true := by
    rw [head?_resource]
    intro c hc
    cases hc
    decide
  obtain ⟨rest, hisPath⟩ := exists_isPath_pathOf kind version encoded
  rw [pathOf_eq] at *
  apply Url.resolve_directory resource_ne_nil head?_resource_ne
    (fun c hc => isPathChar_of_mem_resource h hc)
    (fun c hc => isPathChar_of_mem_query hencoded hc) o hfront hbase hvisible (by simp) hisPath

theorem exists_resolve_pathOf_eq (o : Url.Origin) (kind : RequestKind) :
    ∃ url, Url.resolve (o.text ++ ['/']) (pathOf kind version encoded) = .ok url
      ∧ Url.Reference.parse [] url
        = .ok ⟨o.scheme, o.authority,
          Url.Reference.absolute (Url.mergePaths ['/'] (resource kind version ++ ['/'])), [],
          "q=".toList ++ encoded, []⟩ := by
  have hurl : Url.resolve (o.text ++ ([] ++ ['/'])) (pathOf kind version encoded) = _ :=
    resolve_pathOf hencoded h o (by simp) (by simp [Url.endsAuthority]) kind
  refine ⟨_, hurl, ?_⟩
  apply Url.parse_directory resource_ne_nil head?_resource_ne
    (fun c hc => isPathChar_of_mem_resource h hc) (fun c hc => isPathChar_of_mem_query hencoded hc)

end

theorem isPathChar_of_path_eq {scheme authority cs : List Char}
    (h : (Url.Reference.ofPath scheme authority (Url.dropBreaks cs)).path
      = '/' :: resource kind version ++ ['/'])
    : ∀ c ∈ version.text.toList, Url.isPathChar c = true := by
  intro c hc
  have hmem : c ∈ resource kind version := List.mem_append_left _ (List.mem_append_right _ hc)
  have hmem : c ∈ '/' :: resource kind version ++ ['/'] :=
    List.mem_append_left _ (List.mem_cons_of_mem '/' hmem)
  rw [← h] at hmem
  obtain ⟨hkept, hquery, hfragment⟩ := Url.Reference.mem_of_mem_path_ofPath hmem
  have hkept := (List.mem_filter.1 hkept).2
  simp_all [Url.isPathChar]

section

variable {o : Url.Origin} {query : Text} {rest : List Char}
  (hencoded : Url.percentEncode query = .ok encoded)
  (hurl : Url.resolve (o.text ++ ['/']) (pathOf kind version encoded)
    = .ok (o.text ++ '/' :: rest))
include hencoded hurl

theorem ofPath_eq_of_isPathChar (h : ∀ c ∈ version.text.toList, Url.isPathChar c = true) :
    Url.Reference.ofPath o.scheme o.authority (Url.dropBreaks ('/' :: rest))
      = ⟨o.scheme, o.authority,
        Url.Reference.absolute (Url.mergePaths ['/'] (resource kind version ++ ['/'])), [],
        "q=".toList ++ encoded, []⟩ := by
  obtain ⟨url, hurl', hparse⟩ := exists_resolve_pathOf_eq hencoded h o kind
  rw [hurl, Except.ok.injEq] at hurl'
  rw [← hurl', o.parse_append (by simp [Url.endsAuthority]), Except.ok.injEq] at hparse
  exact hparse

theorem ofPath_parts_iff {url : Url.Reference}
    (h : url = .ofPath o.scheme o.authority (Url.dropBreaks ('/' :: rest)))
    : url.path = '/' :: resource kind version ++ ['/'] ∧ url.parameters = []
        ∧ url.query = "q=".toList ++ encoded ∧ url.fragment = []
      ↔ version.isPlain = true := by
  rw [ApiVersion.isPlain_eq_true_iff]
  constructor
  . rintro ⟨hpath, -⟩
    rw [h] at hpath
    -- Only now is the path known: with other characters in the version it ends early.
    have hchars := isPathChar_of_path_eq hpath
    rw [ofPath_eq_of_isPathChar hencoded hurl hchars] at hpath
    dsimp only at hpath
    exact ⟨absolute_resource_eq_iff.1 hpath, hchars⟩
  . rintro ⟨hnames, hchars⟩
    rw [h, ofPath_eq_of_isPathChar hencoded hurl hchars]
    dsimp only
    exact ⟨absolute_resource_eq_iff.2 hnames, rfl, rfl, rfl⟩

end

/--
The URL of a request has the version in its path and the query in its query, and nothing besides, if
and only if the version is made of names. There is a request unless the query has no form in UTF-8.
-/
theorem path_kept_iff {config : ClientConfig} {o : Url.Origin}
    (h : config.instanceUrl.text.toList = o.text) (kind : RequestKind) (t : Template)
    (options : Option RequestOptions)
    : (∀ records request, build kind (some t) (some config) options = (records, .ok request)
        → ∃ encoded url, Url.percentEncode request.compiled.finalQuery = .ok encoded
          ∧ Url.Reference.parse [] request.url.toList = .ok url
          ∧ url.scheme = o.scheme ∧ url.authority = o.authority
          ∧ ((url.path = '/' :: resource kind (config.versionFor options) ++ ['/']
              ∧ url.parameters = []
              ∧ url.query = "q=".toList ++ encoded
              ∧ url.fragment = [])
            ↔ (config.versionFor options).isPlain = true))
      ∧ ∀ (compiled : CompiledQuery) (query : String),
        t.compile (options.getD .default).skipTrim = .ok compiled
        → compiled.finalQuery = Text.ofString query
        → ∃ records request, build kind (some t) (some config) options
          = (records, .ok request) := by
  have hat : config.IsAt o := ⟨[], by simpa using h, by simp⟩
  constructor
  . intro records request hbuild
    obtain ⟨encoded, url, hrequest⟩ := exists_isBuilt_of_build hbuild
    obtain ⟨rest, hurl⟩ := hat.exists_resolve_pathOf_eq kind (config.versionFor options) encoded
    have hresolved := hrequest.resolve_eq
    rw [hurl, Except.ok.injEq] at hresolved
    rw [ClientConfig.base_eq h] at hurl
    refine ⟨encoded, .ofPath o.scheme o.authority (Url.dropBreaks ('/' :: rest)),
      hrequest.encode_eq, ?_, rfl, rfl, ofPath_parts_iff hrequest.encode_eq hurl rfl⟩
    rw [hrequest.url_eq, ← hresolved, o.parse_append (by simp [Url.endsAuthority])]
  . intro compiled query hcompiled hquery
    exact hat.exists_build_eq hcompiled hquery kind

theorem path_kept_iff_numbered :
    ∃ records request url, build .search (some ⟨"A \x7b0\x7d", [.text "é"]⟩)
        (some ⟨⟨"http://a.b", by decide⟩, ⟨"v58.0", by decide⟩⟩)
        (some ⟨some ⟨"v59.0", by decide⟩, true⟩) = (records, .ok request)
      ∧ Url.Reference.parse [] request.url.toList = .ok url
      ∧ url.path = "/services/data/v59.0/search/".toList
      ∧ url.query = "q=A%20%27%C3%A9%27".toList := by
  let o : Url.Origin := {
    secure := false
    host := "a.b".toList
    port := none
    host_ne_nil := by decide
    host_plain := List.all_eq_true.1 (by decide)
    port_plain := by simp }
  let config : ClientConfig := ⟨⟨"http://a.b", by decide⟩, ⟨"v58.0", by decide⟩⟩
  let options : Option RequestOptions := some ⟨some ⟨"v59.0", by decide⟩, true⟩
  have hinstance : config.instanceUrl.text.toList = o.text := by decide
  have hcompiled : Template.compile (options.getD .default).skipTrim
      ⟨"A \x7b0\x7d", [.text "é"]⟩ = .ok ⟨"A \x7b0\x7d", "A 'é'"⟩ :=
    toOption_eq_some_iff.1 (by decide +kernel)
  obtain ⟨hkept, hexists⟩ := path_kept_iff hinstance .search ⟨"A \x7b0\x7d", [.text "é"]⟩ options
  obtain ⟨records, request, hbuild⟩ := hexists _ _ hcompiled rfl
  obtain ⟨encoded, url, hencoded, hparse, _, _, hparts⟩ := hkept records request hbuild
  obtain ⟨_, _, hrequest⟩ := exists_isBuilt_of_build hbuild
  have hquery := hrequest.compile_eq
  rw [hcompiled, Except.ok.injEq] at hquery
  rw [← hquery, Url.percentEncode_ofString, Except.ok.injEq] at hencoded
  have hplain : (config.versionFor options).isPlain = true :=
    ApiVersion.isPlain_of_isUnreserved (List.all_eq_true.1 (by decide))
  obtain ⟨hpath, _, hparameter, _⟩ := hparts.2 hplain
  refine ⟨records, request, url, hbuild, hparse, ?_, ?_⟩
  . rw [hpath]
    decide
  . rw [hparameter, ← hencoded]
    decide

/--
A version that begins like one may still climb to another resource of the host.
-/
theorem path_climbs :
    ApiVersion.read (.text "v58.0/../../apexrest") = .ok ⟨"v58.0/../../apexrest", by decide⟩
      ∧ ∃ records request url, build .query (some ⟨"SELECT Id FROM A", []⟩)
          (some ⟨⟨"https://acme.my.salesforce.com", by decide⟩,
            ⟨"v58.0/../../apexrest", by decide⟩⟩) none = (records, .ok request)
        ∧ Url.Reference.parse [] request.url.toList = .ok url
        ∧ url.path = "/services/apexrest/query/".toList := by
  let config : ClientConfig :=
    ⟨⟨"https://acme.my.salesforce.com", by decide⟩, ⟨"v58.0/../../apexrest", by decide⟩⟩
  let compiled : CompiledQuery := ⟨"SELECT Id FROM A", "SELECT Id FROM A"⟩
  let url : Url.Reference := {
    scheme := "https".toList
    authority := "acme.my.salesforce.com".toList
    path := "/services/apexrest/query/".toList
    parameters := []
    query := "q=SELECT%20Id%20FROM%20A".toList
    fragment := [] }
  have hread : ApiVersion.read (.text "v58.0/../../apexrest") = .ok config.apiVersion :=
    toOption_eq_some_iff.1 (by decide +kernel)
  have hcompiled : Template.compile ((none : Option RequestOptions).getD .default).skipTrim
      ⟨"SELECT Id FROM A", []⟩ = .ok compiled :=
    toOption_eq_some_iff.1 (by decide +kernel)
  have hurl : Url.resolve config.base
      (pathOf .query config.apiVersion (Url.percentChars "SELECT Id FROM A".toList))
      = .ok url.render :=
    toOption_eq_some_iff.1 (by decide +kernel)
  have hparse : Url.Reference.parse [] url.render = .ok url :=
    toOption_eq_some_iff.1 (by decide +kernel)
  obtain ⟨records, request, hbuild, hrequest⟩ :=
    exists_build_eq_ok hcompiled (Url.percentEncode_ofString _) hurl
  refine ⟨hread, records, request, url, hbuild, ?_, rfl⟩
  rw [hrequest.url_eq]
  exact hparse

end Request
end Soql
