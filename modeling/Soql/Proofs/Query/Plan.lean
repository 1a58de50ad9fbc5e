import Soql.Query.Compile
import Soql.Proofs.Template.Tidy

/-!
This module contains the compilation of a template as an operation on the tokens of its format text,
which is read only once.
-/

namespace Soql
namespace Plan

def layout (keepBlanks : Bool) (ts : List Token) : List Token :=
  if keepBlanks then ts else Token.tidy ts

def ofSegments (keepBlanks : Bool) (format : String) (segments : List Segment) : Plan :=
  if keepBlanks then
    ⟨format, segments⟩
  else
    let ts := Token.tidy (Segment.tokensAll segments)
    ⟨String.ofList (Token.renderAll ts), Segment.ofTokens ts⟩

theorem format_ofSegments_false (format : String) (segments : List Segment) :
    (ofSegments false format segments).format
      = String.ofList (Token.renderAll (Token.tidy (Segment.tokensAll segments))) := rfl

theorem tokensAll_ofSegments (keepBlanks : Bool) (format : String) (segments : List Segment) :
    Segment.tokensAll (ofSegments keepBlanks format segments).segments
      = layout keepBlanks (Segment.tokensAll segments) := by
  unfold ofSegments layout
  cases keepBlanks with
  | true => rfl
  | false => exact Segment.tokensAll_ofTokens _

theorem holes_layout (keepBlanks : Bool) (ts : List Token) :
    Token.holes (layout keepBlanks ts) = Token.holes ts := by
  unfold layout
  cases keepBlanks with
  | true => rfl
  | false => exact Token.holes_tidy ts

theorem missing?_eq (supplied : Nat) (segments : List Segment) :
    missing? supplied segments
      = ((Token.holes (Segment.tokensAll segments)).map Placeholder.index).find?
        fun index : Int => (supplied : Int) ≤ index := by
  rw [missing?, Segment.indices_eq]

theorem missing?_ofSegments (keepBlanks : Bool) (format : String) (segments : List Segment)
    (supplied : Nat)
    : missing? supplied (ofSegments keepBlanks format segments).segments
        = missing? supplied segments := by
  rw [missing?_eq, missing?_eq, tokensAll_ofSegments, holes_layout]

theorem missing?_eq_none_iff {supplied : Nat} {segments : List Segment} :
    missing? supplied segments = none
      ↔ ∀ p ∈ Token.holes (Segment.tokensAll segments), p.index < supplied := by
  simp [missing?_eq]

theorem prepare_eq (keepBlanks : Bool) (format : String) (supplied : Nat) :
    prepare keepBlanks format supplied = do
      let segments ← Segment.parse format
      match missing? supplied segments with
      | some index => throw (.badFormat format (.noArgument index supplied))
      | none => return ofSegments keepBlanks format segments := by
  unfold prepare
  cases hparse : Segment.parse format with
  | error e =>
    cases keepBlanks with
    | true => simp [normalize, hparse]
    | false => simp [normalize, hparse]
  | ok segments =>
    have hplan : Segment.parse
        (if keepBlanks then format
          else String.ofList (Token.renderAll (Token.tidy (Segment.tokensAll segments))))
        = .ok (ofSegments keepBlanks format segments).segments := by
      cases keepBlanks with
      | true => exact hparse
      | false =>
        apply Segment.parse_renderAll
        exact Token.isValid_tidy (Segment.isValid_of_parse hparse)
    rw [normalize_eq keepBlanks hparse, ok_bind, ok_bind, hplan, ok_bind, missing?_ofSegments]
    cases missing? supplied segments with
    | some index => rfl
    | none => cases keepBlanks <;> rfl

def fill (bindings : List (Value × Text)) : List Token → Except Error Text
  | [] => .ok []
  | .char c :: ts => do
    let rest ← fill bindings ts
    return .char c :: rest
  | .hole p :: ts => do
    let text ← substitute bindings p
    let rest ← fill bindings ts
    return text ++ rest

variable (bindings : List (Value × Text))

theorem fill_map_char_append (cs : List Char) (ts : List Token) :
    fill bindings (cs.map .char ++ ts) = do
      let rest ← fill bindings ts
      return Text.ofChars cs ++ rest := by
  induction cs with
  | nil => cases h : fill bindings ts <;> simp [h, Text.ofChars]
  | cons c cs ih =>
    rw [List.map_cons, List.cons_append, fill, ih]
    cases fill bindings ts <;> rfl

theorem substituteAll_eq (segments : List Segment) :
    substituteAll bindings segments = fill bindings (Segment.tokensAll segments) := by
  induction segments with
  | nil => rfl
  | cons s segments ih =>
    rcases s with ⟨literal, placeholder⟩
    rw [Segment.tokensAll_cons, Segment.tokens, List.append_assoc, fill_map_char_append]
    cases placeholder with
    | none =>
      rw [substituteAll, ih]
      rfl
    | some p =>
      rw [substituteAll, ih, Option.map_some, Option.toList_some, List.cons_append, List.nil_append]
      rw [fill]
      cases substitute bindings p with
      | error e => rfl
      | ok text =>
        rw [ok_bind, ok_bind]
        cases fill bindings (Segment.tokensAll segments) with
        | error e => rfl
        | ok rest => simp

theorem fill_append (ts us : List Token) :
    fill bindings (ts ++ us) = do
      let head ← fill bindings ts
      let tail ← fill bindings us
      return head ++ tail := by
  induction ts with
  | nil => cases h : fill bindings us <;> simp [fill, h]
  | cons t ts ih =>
    cases t with
    | char c =>
      rw [List.cons_append, fill, fill, ih]
      cases fill bindings ts with
      | error e => rfl
      | ok head => cases fill bindings us <;> rfl
    | hole p =>
      rw [List.cons_append, fill, fill, ih]
      cases substitute bindings p with
      | error e => rfl
      | ok text =>
        cases fill bindings ts with
        | error e => rfl
        | ok head => cases h : fill bindings us <;> simp

theorem finish_eq (keepBlanks : Bool) (format : String) (segments : List Segment)
    (arguments : List Value) (escaped : List Text)
    : (ofSegments keepBlanks format segments).finish arguments escaped = do
        let text ← fill (arguments.zip escaped) (layout keepBlanks (Segment.tokensAll segments))
        return ⟨(ofSegments keepBlanks format segments).format, text⟩ := by
  unfold finish
  rw [substituteAll_eq, tokensAll_ofSegments]

end Plan

theorem escape_template (keepBlanks : Bool) (format : String) (arguments : List Value) :
    escape keepBlanks (.template format arguments)
      = (Template.compile keepBlanks ⟨format, arguments⟩).map CompiledQuery.finalQuery :=
  escape_toValue keepBlanks ⟨format, arguments⟩

theorem length_escapeAll {keepBlanks : Bool} {vs : List Value} {texts : List Text}
    (h : escapeAll keepBlanks vs = .ok texts) : texts.length = vs.length := by
  induction vs generalizing texts with
  | nil =>
    cases h
    rfl
  | cons v vs ih =>
    obtain ⟨text, _, h⟩ := bind_eq_ok_iff.1 h
    obtain ⟨rest, hrest, h⟩ := bind_eq_ok_iff.1 h
    cases h
    simp [ih hrest]

theorem escapeAll_append (keepBlanks : Bool) (vs ws : List Value) :
    escapeAll keepBlanks (vs ++ ws) = do
      let head ← escapeAll keepBlanks vs
      let tail ← escapeAll keepBlanks ws
      return head ++ tail := by
  induction vs with
  | nil => cases h : escapeAll keepBlanks ws <;> simp [escapeAll, h]
  | cons v vs ih =>
    rw [List.cons_append, escapeAll, escapeAll, ih]
    cases escape keepBlanks v with
    | error e => rfl
    | ok text =>
      cases escapeAll keepBlanks vs with
      | error e => rfl
      | ok head => cases escapeAll keepBlanks ws <;> rfl

namespace Template

theorem compile_eq (keepBlanks : Bool) (t : Template) :
    t.compile keepBlanks = do
      let segments ← Segment.parse t.format
      match Plan.missing? t.arguments.length segments with
      | some index => throw (.badFormat t.format (.noArgument index t.arguments.length))
      | none =>
        let escaped ← escapeAll keepBlanks t.arguments
        let text ← Plan.fill (t.arguments.zip escaped)
          (Plan.layout keepBlanks (Segment.tokensAll segments))
        return ⟨(Plan.ofSegments keepBlanks t.format segments).format, text⟩ := by
  unfold compile
  rw [Plan.prepare_eq]
  cases Segment.parse t.format with
  | error e => rfl
  | ok segments =>
    rw [ok_bind, ok_bind]
    cases Plan.missing? t.arguments.length segments with
    | some index => rfl
    | none =>
      cases escapeAll keepBlanks t.arguments with
      | error e => rfl
      | ok escaped => exact Plan.finish_eq keepBlanks t.format segments t.arguments escaped

structure IsCompilation (keepBlanks : Bool) (t : Template) (segments : List Segment)
    (escaped : List Text) (text : Text) : Prop where
  parsed : Segment.parse t.format = .ok segments
  supplied : ∀ p ∈ Token.holes (Segment.tokensAll segments), p.index < t.arguments.length
  escaped_eq : escapeAll keepBlanks t.arguments = .ok escaped
  filled : Plan.fill (t.arguments.zip escaped)
    (Plan.layout keepBlanks (Segment.tokensAll segments)) = .ok text

theorem compile_eq_ok_iff {keepBlanks : Bool} {t : Template} {q : CompiledQuery} :
    t.compile keepBlanks = .ok q
      ↔ ∃ segments escaped text, t.IsCompilation keepBlanks segments escaped text
        ∧ q = ⟨(Plan.ofSegments keepBlanks t.format segments).format, text⟩ := by
  rw [compile_eq]
  constructor
  . intro h
    obtain ⟨segments, hparse, h⟩ := bind_eq_ok_iff.1 h
    split at h
    . cases h
    . next hmissing =>
      obtain ⟨escaped, hescaped, h⟩ := bind_eq_ok_iff.1 h
      obtain ⟨text, htext, h⟩ := bind_eq_ok_iff.1 h
      cases h
      have hsupplied := Plan.missing?_eq_none_iff.1 hmissing
      exact ⟨segments, escaped, text, ⟨hparse, hsupplied, hescaped, htext⟩, rfl⟩
  . rintro ⟨segments, escaped, text, h, rfl⟩
    rw [h.parsed, ok_bind, Plan.missing?_eq_none_iff.2 h.supplied]
    dsimp only
    rw [h.escaped_eq, ok_bind, h.filled, ok_bind]
    rfl

end Template
end Soql
