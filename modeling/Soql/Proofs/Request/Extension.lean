import Soql.Proofs.Request.Version

/-!
This module contains which URLs of requests are the URL of their connection with the path behind it:
those of connections whose URL is an origin with a path of names.
-/

namespace Soql

def ApiVersion.isNumbered (version : ApiVersion) : Bool :=
  version.text.toList.tail.all fun c => c.isDigit || c == '.'

theorem ApiVersion.isPlain_of_isNumbered {version : ApiVersion} (h : version.isNumbered = true) :
    version.isPlain = true := by
  apply isPlain_of_isUnreserved
  have hvalid := version.valid
  unfold isApiVersion at hvalid
  unfold isNumbered at h
  split at hvalid
  . next c cs hversion =>
    rw [hversion, List.tail_cons, List.all_eq_true] at h
    rw [hversion, List.forall_mem_cons]
    refine ⟨by decide, ?_⟩
    intro d hd
    have hdigit := h d hd
    rw [Bool.or_eq_true, beq_iff_eq] at hdigit
    rcases hdigit with hdigit | rfl
    . simp [Url.isUnreserved, hdigit]
    . decide
  . cases hvalid

namespace ClientConfig

/--
Whether the URL of the connection is that of an origin with the given names behind it, and with any
number of slashes at the end.
-/
structure IsBelow (config : ClientConfig) (o : Url.Origin) (names : List (List Char)) : Prop where
  text_eq : ∃ slashes, config.instanceUrl.text.toList
    = o.text ++ Url.below names ++ List.replicate slashes '/'
  isName : ∀ name ∈ names, Url.isName name = true
  unreserved : ∀ name ∈ names, ∀ c ∈ name, Url.isUnreserved c = true

variable {config : ClientConfig} {o : Url.Origin} {names : List (List Char)}
  (h : config.IsBelow o names)
include h

theorem IsBelow.not_mem : ∀ name ∈ names, '/' ∉ name := by
  intro name hname
  apply Url.not_mem_of_forall (h.unreserved name hname) (by decide)

theorem IsBelow.base_eq : config.base = o.text ++ (Url.below names ++ ['/']) := by
  obtain ⟨slashes, htext⟩ := h.text_eq
  rw [← List.append_assoc]
  apply base_eq_of_text_eq htext
  . intro c hc
    exact List.eq_of_mem_replicate hc
  . apply Url.forall_getLast?_append o.getLast?_text_ne
    apply Url.forall_getLast?_below h.isName h.not_mem

theorem IsBelow.isPathChar_of_mem : ∀ c ∈ Url.below names, Url.isPathChar c = true := by
  intro c hc
  obtain ⟨name, hname, hc⟩ := List.mem_flatMap.1 hc
  rcases List.mem_cons.1 hc with rfl | hc
  . decide
  . apply Url.isPathChar_of_isUnreserved (h.unreserved name hname c hc)

end ClientConfig

namespace Request

variable {config : ClientConfig} {o : Url.Origin} {names : List (List Char)}
  {options : Option RequestOptions}

theorem resolve_pathOf_of_isBelow (h : config.IsBelow o names)
    (hversion : (config.versionFor options).isNumbered = true) (kind : RequestKind) {query : Text}
    {encoded : List Char} (hencoded : Url.percentEncode query = .ok encoded)
    : Url.resolve config.base (pathOf kind (config.versionFor options) encoded)
        = .ok (o.text ++ Url.below names
          ++ '/' :: pathOf kind (config.versionFor options) encoded) := by
  obtain ⟨hnames, hchars⟩ :=
    ApiVersion.isPlain_eq_true_iff.1 (ApiVersion.isPlain_of_isNumbered hversion)
  have hhead : ∀ c ∈ (Url.below names ++ ['/']).head?, Url.endsAuthority c = true := by
    rw [Url.head?_below_append]
    simp [Url.endsAuthority]
  have hmerge : Url.Reference.absolute (Url.mergePaths (Url.below names ++ ['/'])
      (resource kind (config.versionFor options) ++ ['/']))
      = Url.below names ++ '/' :: resource kind (config.versionFor options) ++ ['/'] := by
    rw [Url.mergePaths_below (fun name hname => ⟨h.isName name hname, h.not_mem name hname⟩)
      (forall_isName_resource_iff.2 hnames)
      (Url.head?_append_ne resource_ne_nil head?_resource_ne)]
    rw [List.append_assoc, List.cons_append]
    apply Url.Reference.absolute_eq_self
    apply Url.head?_below_append
  have hurl := resolve_pathOf hencoded hchars o h.isPathChar_of_mem hhead kind
  rw [← h.base_eq, hmerge] at hurl
  rw [hurl, pathOf_eq]
  simp

/--
No slash is lost or added between the URL of the connection and the path, and no directory left. A
query with a surrogate has no URL, which is found out once the query is logged.
-/
theorem url_extends_connection (h : config.IsBelow o names)
    (hversion : (config.versionFor options).isNumbered = true) (kind : RequestKind) {t : Template}
    {compiled : CompiledQuery}
    (hcompiled : t.compile (options.getD .default).skipTrim = .ok compiled)
    : (∀ query : String, compiled.finalQuery = Text.ofString query
        → ∃ records request, build kind (some t) (some config) options = (records, .ok request)
          ∧ request.path.toList
            = pathOf kind (config.versionFor options) (Url.percentChars query.toList)
          ∧ request.url.toList = o.text ++ Url.below names ++ '/' :: request.path.toList)
      ∧ ∀ u, compiled.finalQuery.encode = .error u
        → build kind (some t) (some config) options
          = ([logRecord kind compiled], .error (.encoding u)) := by
  constructor
  . intro query hquery
    have hencoded : Url.percentEncode compiled.finalQuery
        = .ok (Url.percentChars query.toList) := by
      rw [hquery, Url.percentEncode_ofString]
    obtain ⟨records, request, hbuild, hrequest⟩ := exists_build_eq_ok hcompiled hencoded
      (resolve_pathOf_of_isBelow h hversion kind hencoded)
    refine ⟨records, request, hbuild, hrequest.path_eq, ?_⟩
    rw [hrequest.url_eq, hrequest.path_eq]
  . intro u hu
    rw [build_eq hcompiled, describe_eq_encoding hu]

theorem url_extends_connection_names :
    ∃ records request, build .search (some ⟨"A \x7b0\x7d", [.text "?#/é"]⟩)
        (some ⟨⟨"http://A-b.c:80/x~y/..z///", by decide⟩, ⟨"v58.0", by decide⟩⟩)
        (some ⟨some ⟨"v..9", by decide⟩, true⟩) = (records, .ok request)
      ∧ request.url
        = "http://A-b.c:80/x~y/..z/services/data/v..9/search/?q=A%20%27%3F%23%2F%C3%A9%27" := by
  let o : Url.Origin := {
    secure := false
    host := "A-b.c".toList
    port := some "80".toList
    host_ne_nil := by decide
    host_plain := List.all_eq_true.1 (by decide)
    port_plain := by
      intro digits h
      cases h
      exact List.all_eq_true.1 (by decide) }
  let config : ClientConfig :=
    ⟨⟨"http://A-b.c:80/x~y/..z///", by decide⟩, ⟨"v58.0", by decide⟩⟩
  have hbelow : config.IsBelow o ["x~y".toList, "..z".toList] := by
    constructor
    . exact ⟨3, by decide⟩
    . decide
    . have hall : ["x~y".toList, "..z".toList].all (·.all Url.isUnreserved) = true := by decide
      intro name hname
      apply List.all_eq_true.1 (List.all_eq_true.1 hall name hname)
  have hcompiled : Template.compile true ⟨"A \x7b0\x7d", [.text "?#/é"]⟩
      = .ok ⟨"A \x7b0\x7d", "A '?#/é'"⟩ :=
    toOption_eq_some_iff.1 (by decide +kernel)
  let options : RequestOptions := ⟨some ⟨"v..9", by decide⟩, true⟩
  have hversion : (config.versionFor (some options)).isNumbered = true := by decide
  obtain ⟨hextends, _⟩ := url_extends_connection hbelow hversion .search hcompiled
  obtain ⟨records, request, hbuild, hpath, hurl⟩ := hextends _ rfl
  refine ⟨records, request, hbuild, ?_⟩
  rw [← String.toList_inj, hurl, hpath]
  decide

/--
A number can be the code of a surrogate. Its query is compiled and logged, but has no URL.
-/
theorem build_fails_on_surrogate :
    ClientConfig.IsBelow ⟨⟨"https://acme.my.salesforce.com", by decide⟩, ⟨"v58.0", by decide⟩⟩
        ⟨true, "acme.my.salesforce.com".toList, none, by decide, List.all_eq_true.1 (by decide),
          by simp⟩ []
      ∧ ApiVersion.isNumbered ⟨"v58.0", by decide⟩ = true
      ∧ Template.compile false ⟨"\x7b0:c\x7d", [.int 55296 none]⟩
        = .ok ⟨"\x7b0:c\x7d", [.surrogate 0]⟩
      ∧ build .query (some ⟨"\x7b0:c\x7d", [.int 55296 none]⟩)
          (some ⟨⟨"https://acme.my.salesforce.com", by decide⟩, ⟨"v58.0", by decide⟩⟩) none
        = ([logRecord .query ⟨"\x7b0:c\x7d", [.surrogate 0]⟩], .error (.encoding ⟨0, 0, 0⟩)) := by
  have hcompiled : Template.compile ((none : Option RequestOptions).getD .default).skipTrim
      ⟨"\x7b0:c\x7d", [.int 55296 none]⟩ = .ok ⟨"\x7b0:c\x7d", [.surrogate 0]⟩ :=
    toOption_eq_some_iff.1 (by decide +kernel)
  refine ⟨⟨⟨0, by decide⟩, by simp, by simp⟩, by decide, hcompiled, ?_⟩
  have hencode : Text.encode [.surrogate 0] = .error ⟨0, 0, 0⟩ :=
    Text.encode_eq_error_iff.2 ⟨[], 0, [], rfl, rfl⟩
  rw [build_eq hcompiled, describe_eq_encoding hencode]

end Request
end Soql
