import Soql.Proofs.Request.Outcome
import Soql.Proofs.Url.Percent

/-!
This module contains the query in the path of a request: where it is found, and that it is read back
from there.
-/

namespace Soql

/--
What stands in front of the last occurrence of a mark, and behind it.
-/
def splitLast (mark : List Char) : List Char → Option (List Char × List Char)
  | [] => none
  | c :: cs =>
    match splitLast mark cs with
    | some (front, rest) => some (c :: front, rest)
    | none =>
      if mark.isPrefixOf (c :: cs) then some ([], (c :: cs).drop mark.length) else none

theorem splitLast_eq_none {c : Char} {mark cs : List Char} (h : c ∉ cs) :
    splitLast (c :: mark) cs = none := by
  induction cs with
  | nil => rfl
  | cons d cs ih =>
    rw [List.mem_cons, not_or] at h
    have hhead : (c :: mark).isPrefixOf (d :: cs) = false := by
      simp [List.isPrefixOf, h.1]
    rw [splitLast, ih h.2]
    dsimp only
    rw [hhead, if_neg (by decide)]

theorem splitLast_append {mark cs front rest : List Char}
    (h : splitLast mark cs = some (front, rest)) (start : List Char)
    : splitLast mark (start ++ cs) = some (start ++ front, rest) := by
  induction start with
  | nil => exact h
  | cons c start ih => rw [List.cons_append, splitLast, ih, List.cons_append]

theorem splitLast_append_cons {c : Char} {mark rest : List Char} (hmark : c ∉ mark)
    (hrest : c ∉ rest) (front : List Char)
    : splitLast (c :: mark) (front ++ c :: mark ++ rest) = some (front, rest) := by
  have hsplit : splitLast (c :: mark) (c :: mark ++ rest) = some ([], rest) := by
    have hnone : c ∉ mark ++ rest := by simp [hmark, hrest]
    rw [List.cons_append, splitLast, splitLast_eq_none hnone]
    simp [List.isPrefixOf_iff_prefix]
  rw [List.append_assoc, splitLast_append hsplit, List.append_nil]

namespace Request

variable {kind : RequestKind} {t : Template} {config : ClientConfig}
  {options : Option RequestOptions} {records : List LogRecord} {request : Request}

def pathStart (kind : RequestKind) (version : String) : String :=
  "services/data/" ++ version ++ "/" ++ kind.name ++ "/"

theorem pathOf_eq_pathStart (kind : RequestKind) (version : ApiVersion) (encoded : List Char) :
    pathOf kind version encoded
      = (pathStart kind version.text).toList ++ '?' :: "q=".toList ++ encoded := by
  unfold pathOf pathStart
  simp

theorem splitLast_pathOf {query : Text} {encoded : List Char}
    (h : Url.percentEncode query = .ok encoded) (kind : RequestKind) (version : ApiVersion)
    : splitLast "?q=".toList (pathOf kind version encoded)
        = some ((pathStart kind version.text).toList, encoded) := by
  obtain ⟨s, _, rfl⟩ := Url.percentEncode_eq_ok_iff.1 h
  have hmark : "?q=".toList = '?' :: "q=".toList := by decide
  have hquery : '?' ∉ Url.percentChars s.toList := by
    intro hmem
    rcases Url.isUnreserved_of_mem_percentChars hmem with h | h
    . cases h
    . cases h
  rw [pathOf_eq_pathStart, hmark]
  apply splitLast_append_cons (by decide) hquery

theorem pathOf_eq_pathOf_iff {version version' : ApiVersion} (h : version'.text = version.text)
    {encoded encoded' : List Char}
    : pathOf kind version' encoded' = pathOf kind version encoded ↔ encoded' = encoded := by
  rw [pathOf_eq_pathStart, pathOf_eq_pathStart, h, List.append_cancel_left_eq]

/--
Behind the last mark `?q=` of a path there is nothing but the query, encoded, and it can be read
back from there. So the paths for one resource are equal for equal queries only.
-/
theorem query_reads_back
    (h : build kind (some t) (some config) options = (records, .ok request))
    : t.compile (options.getD .default).skipTrim = .ok request.compiled
      ∧ (∃ encoded, splitLast "?q=".toList request.path.toList
          = some ((pathStart kind (config.versionFor options).text).toList, encoded)
        ∧ Url.IsEncoded encoded
        ∧ (Url.percentDecode encoded).map Text.ofString = some request.compiled.finalQuery)
      ∧ ∀ t' config' options' records' request',
        build kind (some t') (some config') options' = (records', .ok request')
        → request'.apiVersion = request.apiVersion
        → (request'.path = request.path
          ↔ request'.compiled.finalQuery = request.compiled.finalQuery) := by
  obtain ⟨encoded, _, hbuilt⟩ := exists_isBuilt_of_build h
  refine ⟨hbuilt.compile_eq, ⟨encoded, ?_, ?_, ?_⟩, ?_⟩
  . rw [hbuilt.path_eq]
    apply splitLast_pathOf hbuilt.encode_eq
  . apply Url.isEncoded_of_percentEncode hbuilt.encode_eq
  . apply Url.percentDecode_of_percentEncode hbuilt.encode_eq
  . intro t' config' options' records' request' h' hversion
    obtain ⟨encoded', _, hbuilt'⟩ := exists_isBuilt_of_build h'
    rw [hbuilt.version_eq, hbuilt'.version_eq] at hversion
    rw [← String.toList_inj, hbuilt.path_eq, hbuilt'.path_eq, pathOf_eq_pathOf_iff hversion]
    apply Url.percentEncode_inj hbuilt.encode_eq hbuilt'.encode_eq

theorem query_reads_back_marks :
    ∃ records request, build .search (some ⟨"A?q=%41 \x7b\x7d", [.text "é&\n"]⟩)
        (some ⟨⟨"https://a.b", by decide⟩, ⟨"v?q=", by decide⟩⟩) none = (records, .ok request)
      ∧ ∃ encoded, splitLast "?q=".toList request.path.toList
          = some ("services/data/v?q=/search/".toList, encoded)
        ∧ Url.IsEncoded encoded
        ∧ (Url.percentDecode encoded).map Text.ofString
          = some (Text.ofString "A?q=%41 'é&\n'") := by
  let config : ClientConfig := ⟨⟨"https://a.b", by decide⟩, ⟨"v?q=", by decide⟩⟩
  have hcompiled : Template.compile ((none : Option RequestOptions).getD .default).skipTrim
      ⟨"A?q=%41 \x7b\x7d", [.text "é&\n"]⟩ = .ok ⟨"A?q=%41 \x7b0\x7d", "A?q=%41 'é&\n'"⟩ :=
    toOption_eq_some_iff.1 (by decide +kernel)
  have hsome : (build .search (some ⟨"A?q=%41 \x7b\x7d", [.text "é&\n"]⟩) (some config)
      none).2.toOption.isSome = true := by
    decide +kernel
  obtain ⟨request, hrequest⟩ := Option.isSome_iff_exists.1 hsome
  have hbuild : build .search (some ⟨"A?q=%41 \x7b\x7d", [.text "é&\n"]⟩) (some config) none
      = (_, .ok request) :=
    Prod.ext rfl (toOption_eq_some_iff.1 hrequest)
  obtain ⟨hquery, hpath, _⟩ := query_reads_back hbuild
  rw [hcompiled, Except.ok.injEq] at hquery
  rw [← hquery] at hpath
  exact ⟨_, request, hbuild, hpath⟩

end Request
end Soql
