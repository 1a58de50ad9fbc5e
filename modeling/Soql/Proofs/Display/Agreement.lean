import Soql.Proofs.Display.Fill
import Soql.Proofs.Query.Congruence
import Soql.Proofs.Query.Parts
import Soql.Proofs.Query.Plan

/-!
This module contains where the debug text of a template is the same as its query: where its texts
are taken for query text, and its other arguments are written the same way in both.
-/

namespace Soql
namespace Token

variable {ε ε' : Type} {text : Placeholder → Except ε Text}

theorem fill_eq_textWith (bindings : List (Value × Text)) (ts : List Token) :
    Plan.fill bindings ts = textWith (Plan.substitute bindings) ts := by
  induction ts with
  | nil => rfl
  | cons t ts ih => cases t <;> rw [Plan.fill, textWith, ih]

theorem textWith_of_forall_holes {text' : Placeholder → Except ε' Text} {ts : List Token}
    {filled : Text}
    (h : ∀ p ∈ holes ts, ∀ t, text p = .ok t → text' p = .ok t)
    (hfilled : textWith text ts = .ok filled)
    : textWith text' ts = .ok filled := by
  induction ts generalizing filled with
  | nil =>
    cases hfilled
    rfl
  | cons t ts ih =>
    cases t with
    | char c =>
      obtain ⟨rest, hrest, hfilled⟩ := bind_eq_ok_iff.1 hfilled
      cases hfilled
      rw [textWith, ih h hrest]
      rfl
    | hole p =>
      rw [holes_hole, List.forall_mem_cons] at h
      obtain ⟨head, hhead, hfilled⟩ := bind_eq_ok_iff.1 hfilled
      obtain ⟨rest, hrest, hfilled⟩ := bind_eq_ok_iff.1 hfilled
      cases hfilled
      rw [textWith, h.1 head hhead, ok_bind, ih h.2 hrest]
      rfl

end Token

namespace Value

inductive Bare : Value → Prop where
  | text (t : Text) : Bare (.text t)
  | int (n : Int) : Bare (.int n none)
  | date (d : Date) : Bare (.date d)

def unquoted : Value → Value
  | .text t => .fragment t
  | v => v

variable {v : Value}

theorem Bare.plain_view_eq (h : v.Bare) {keepBlanks : Bool} {s : Text}
    (hs : escape keepBlanks v.unquoted = .ok s) : (Display.view v).plain = .ok s := by
  cases h with
  | text t =>
    cases hs
    rfl
  | int n =>
    have hs : intLiteral n = .ok s := by
      rw [← hs, unquoted, escape]
      simp
    unfold intLiteral at hs
    split at hs
    . next hwritable =>
      cases hs
      rw [← Text.ofString_ofList]
      simp only [Display.view, Display.leaf, View.uniform, View.plain, Display.scalarText,
        Display.writable, hwritable, ↓reduceIte]
      rfl
    . cases hs
  | date d =>
    have htext : Text.ofChars d.text = s := Except.ok.inj hs
    rw [← htext]
    rfl

theorem Bare.exists_patterned?_eq (h : v.Bare) (hne : ∀ t, v ≠ .text t) (pattern : String) :
    ∃ result, v.unquoted.patterned? pattern = some result := by
  rw [← Option.isSome_iff_exists, isSome_patterned?]
  cases h with
  | text t => exact absurd rfl (hne t)
  | int n => rfl
  | date d => rfl

theorem laidOut_eq_ok {pattern kind : String} {t : Text} {result : Except PatternFailure Text}
    (h : laidOut pattern kind result = .ok t) : result = .ok t := by
  unfold laidOut at h
  split at h
  . cases h
    rfl
  . cases h
  . cases h

theorem Bare.layoutValue_view_eq (h : v.Bare) {pattern : String} {s : Text}
    (hs : v.unquoted.patterned? pattern = some (.ok s))
    : Display.layoutValue (Text.ofString pattern) (Display.view v).value = .ok s := by
  cases h with
  | text t => cases hs
  | int n =>
    have hformat : NumberPattern.formatInt "int" pattern n = .ok s :=
      laidOut_eq_ok (Option.some.inj hs)
    change (NumberPattern.formatInt "int" pattern n).mapError Display.patternFailure = _
    rw [hformat]
    rfl
  | date d =>
    have hformat : Text.ofString (d.format pattern) = s := Except.ok.inj (Option.some.inj hs)
    rw [← hformat]
    change (do
      let pattern ← Display.encodePattern (Text.ofString pattern)
      return Text.ofString (d.format pattern)) = _
    rw [Display.encodePattern, Text.encode_ofString]
    rfl

end Value

namespace Display

theorem getElem?_viewAll (vs : List Value) (i : Nat) : (viewAll vs)[i]? = vs[i]?.map view := by
  induction vs generalizing i with
  | nil => rfl
  | cons v vs ih =>
    cases i with
    | zero => rfl
    | succ i => exact ih i

end Display

theorem Display.showPlaceholder_of_substitute {keepBlanks : Bool} {vs : List Value}
    {texts : List Text} {p : Placeholder} {s : Text} (hbare : ∀ v ∈ vs, v.Bare)
    (htexts : escapeAll keepBlanks (vs.map Value.unquoted) = .ok texts)
    (hspec : ∀ t, vs[p.index.toNat]? = some (.text t) → p.spec = [])
    (hsupplied : p.index.toNat < vs.length)
    (h : Plan.substitute ((vs.map Value.unquoted).zip texts) p = .ok s)
    : showPlaceholder (viewAll vs) p = .ok s := by
  have hv : vs[p.index.toNat]? = some vs[p.index.toNat] := List.getElem?_eq_getElem hsupplied
  have hvbare := hbare _ (List.getElem_mem hsupplied)
  generalize vs[p.index.toNat] = v at hv hvbare
  rcases getElem?_of_forall₂ (forall₂_of_escapeAll htexts) p.index.toNat with
    ⟨hnone, _⟩ | ⟨u, text, hu, htext, hescape⟩
  . rw [List.getElem?_map, hv] at hnone
    cases hnone
  . rw [List.getElem?_map, hv] at hu
    cases hu
    have hbinding : ((vs.map Value.unquoted).zip texts)[p.index.toNat]?
        = some (v.unquoted, text) := by
      rw [List.getElem?_zip_eq_some, List.getElem?_map, hv]
      exact ⟨rfl, htext⟩
    unfold Plan.substitute at h
    unfold showPlaceholder
    rw [hbinding] at h
    rw [getElem?_viewAll, hv]
    dsimp only [Option.map_some] at *
    unfold layout
    cases hpspec : p.spec with
    | nil =>
      rw [hpspec] at h
      cases h
      exact hvbare.plain_view_eq hescape
    | cons c cs =>
      have hne : ∀ t, v ≠ .text t := by
        rintro t rfl
        rw [hspec t hv] at hpspec
        cases hpspec
      obtain ⟨result, hresult⟩ := hvbare.exists_patterned?_eq hne (String.ofList p.spec)
      rw [hpspec] at h hresult
      rw [hresult, List.isEmpty_cons, if_neg (by decide), Option.getD_some] at h
      subst h
      have hlayout := hvbare.layoutValue_view_eq hresult
      rw [Text.ofString_ofList] at hlayout
      exact hlayout

namespace Template

def unquoted (t : Template) : Template :=
  ⟨t.format, t.arguments.map Value.unquoted⟩

/--
Debug text is the query of the template whose texts are embedded as they are, whatever these texts
contain. No template has more arguments than a word counts.
-/
theorem debugText_of_compile_unquoted {t : Template} {q : CompiledQuery}
    (hbare : ∀ v ∈ t.arguments, v.Bare)
    (hspec : ∀ segments, Segment.parse t.format = .ok segments
      → ∀ p ∈ Token.holes (Segment.tokensAll segments),
        ∀ s, t.arguments[p.index.toNat]? = some (.text s) → p.spec = [])
    (hcount : t.arguments.length ≤ NumberPattern.maxCount)
    (hq : t.unquoted.compile true = .ok q)
    : t.debugText = .ok q.finalQuery := by
  obtain ⟨segments, texts, text, hcompilation, rfl⟩ := compile_eq_ok_iff.1 hq
  have hparse : Segment.parse t.format = .ok segments := hcompilation.parsed
  have hvalid := Segment.isValid_of_parse hparse
  have hsupplied : ∀ p ∈ Token.holes (Segment.tokensAll segments),
      p.index < t.arguments.length := by
    intro p hp
    have := hcompilation.supplied p hp
    rwa [unquoted, List.length_map] at this
  have hmax : ∀ p ∈ Token.holes (Segment.tokensAll segments),
      p.index ≤ NumberPattern.maxCount := by
    intro p hp
    have := hsupplied p hp
    omega
  have hfill : Token.textWith (Plan.substitute (t.unquoted.arguments.zip texts))
      (Segment.tokensAll segments) = .ok text := by
    rw [← Token.fill_eq_textWith]
    exact hcompilation.filled
  have hshown : Token.textWith (Display.showPlaceholder (Display.viewAll t.arguments))
      (Segment.tokensAll segments) = .ok text := by
    apply Token.textWith_of_forall_holes ?_ hfill
    intro p hp s hs
    have := hsupplied p hp
    have := (hvalid p hp).index_nonneg
    exact Display.showPlaceholder_of_substitute hbare hcompilation.escaped_eq
      (hspec segments hparse p hp) (by omega) hs
  unfold debugText
  rw [Display.templateText_eq hparse hmax, hshown]

theorem debugText_of_compile_unquoted_braces :
    debugText ⟨"\x7b\x7b\x7b0\x7d\x7d\x7d\x7b1:>4\x7d", [.text "\x7b1\x7d\\", .int 7 none]⟩
      = .ok "\x7b\x7b1\x7d\\\x7d   7" := by
  have hparse : Segment.parse "\x7b\x7b\x7b0\x7d\x7d\x7d\x7b1:>4\x7d"
      = .ok [⟨['{'], none⟩, ⟨[], some ⟨0, []⟩⟩, ⟨['}'], none⟩,
        ⟨[], some ⟨1, ['>', '4']⟩⟩] :=
    toOption_eq_some_iff.1 (by decide +kernel)
  have hq : compile true (unquoted ⟨"\x7b\x7b\x7b0\x7d\x7d\x7d\x7b1:>4\x7d",
        [.text "\x7b1\x7d\\", .int 7 none]⟩)
      = .ok ⟨"\x7b\x7b\x7b0\x7d\x7d\x7d\x7b1:>4\x7d", "\x7b\x7b1\x7d\\\x7d   7"⟩ :=
    toOption_eq_some_iff.1 (by decide +kernel)
  refine debugText_of_compile_unquoted ?_ ?_ (by decide) hq
  . intro v hv
    rcases List.mem_cons.1 hv with rfl | hv
    . exact .text _
    . cases List.mem_singleton.1 hv
      exact .int 7
  . intro segments h p hp s hs
    rw [hparse] at h
    cases h
    rcases List.mem_cons.1 hp with rfl | hp
    . rfl
    . cases List.mem_singleton.1 hp
      cases hs

end Template
end Soql
