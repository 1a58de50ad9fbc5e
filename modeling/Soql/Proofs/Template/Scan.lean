import Soql.Proofs.Outcome
import Soql.Proofs.Template.Numeral
import Soql.Proofs.Template.Token

/-!
This module contains the reading of written tokens: format text that is written for tokens is
scanned into the pieces, and parsed into the segments, that these tokens stand for.
-/

namespace Soql

theorem Segment.isBrace_of_isDigit {c : Char} (h : c.isDigit = true) :
    isBrace c = false := by
  cases hc : isBrace c with
  | false => rfl
  | true =>
    simp only [isBrace, Bool.or_eq_true, beq_iff_eq] at hc
    rcases hc with rfl | rfl <;> contradiction

namespace Piece

namespace Scan

theorem foldr_name (cs literal : List Char) (f : Field) (ps : List Piece)
    (fault : Option Malformed)
    : cs.foldr name (⟨literal, some f⟩ :: ps, fault)
      = (⟨literal, some { f with name := cs ++ f.name }⟩ :: ps, fault) := by
  induction cs with
  | nil => rfl
  | cons c cs ih =>
    rw [List.foldr_cons, ih]
    rfl

theorem foldr_spec (cs literal : List Char) (f : Field) (ps : List Piece)
    (fault : Option Malformed)
    : cs.foldr spec (⟨literal, some f⟩ :: ps, fault)
      = (⟨literal, some { f with spec := cs ++ f.spec }⟩ :: ps, fault) := by
  induction cs with
  | nil => rfl
  | cons c cs ih =>
    rw [List.foldr_cons, ih]
    rfl

end Scan

theorem scanFrom_char {c : Char} (h : isBrace c = false) (cs : List Char) :
    scanFrom .literal (c :: cs) = (scanFrom .literal cs).literal c := by
  simp only [isBrace, Bool.or_eq_false_iff, beq_eq_false_iff_ne] at h
  conv => lhs; unfold scanFrom
  split <;> simp_all

theorem scanFrom_brace {c : Char} (h : isBrace c = true) (cs : List Char) :
    scanFrom .literal (c :: c :: cs) = (scanFrom .literal cs).brace c := by
  simp only [isBrace, Bool.or_eq_true, beq_iff_eq] at h
  rcases h with h | h
  . subst h
    rfl
  . subst h
    rfl

theorem scanFrom_open {c : Char} (h : c ≠ '{') (cs : List Char) :
    scanFrom .literal ('{' :: c :: cs) = scanFrom .name (c :: cs) := by
  conv => lhs; unfold scanFrom
  simp [h]

theorem scanFrom_name_digits (ds : List Char) (h : ∀ c ∈ ds, c.isDigit = true)
    (cs : List Char)
    : scanFrom .name (ds ++ cs) = ds.foldr Scan.name (scanFrom .name cs) := by
  induction ds with
  | nil => rfl
  | cons d ds ih =>
    have hd := h d (by simp)
    rw [List.cons_append, List.foldr_cons]
    rw [← ih (by intro c hc; exact h c (by simp [hc]))]
    have hnot : d ≠ '{' ∧ d ≠ '}' ∧ d ≠ '!' ∧ d ≠ ':' ∧ d ≠ '[' := by
      refine ⟨?_, ?_, ?_, ?_, ?_⟩ <;> (intro hc; subst hc; contradiction)
    conv => lhs; unfold scanFrom
    simp [hnot]

theorem scanFrom_spec (cs : List Char) (h : ∀ c ∈ cs, isBrace c = false) (rest : List Char)
    : scanFrom (.spec 0) (cs ++ '}' :: rest)
        = cs.foldr Scan.spec (scanFrom .literal rest).close := by
  induction cs with
  | nil => simp [scanFrom]
  | cons c cs ih =>
    have hc := h c (by simp)
    simp only [isBrace, Bool.or_eq_false_iff, beq_eq_false_iff_ne] at hc
    rw [List.cons_append, List.foldr_cons]
    rw [← ih (by intro d hd; exact h d (by simp [hd]))]
    conv => lhs; unfold scanFrom
    simp [hc]

/--
How a conversion is written. The character NUL stands for none.
-/
inductive ConversionText : Option Char → List Char → Prop where
  | absent : ConversionText none []
  | given (c : Char) : ConversionText (if c == '\x00' then none else some c) ['!', c]

inductive SpecText : List Char → List Char → Prop where
  | absent : SpecText [] []
  | given (spec : List Char) : SpecText spec (':' :: spec)

inductive IsBody : Field → List Char → Prop where
  | mk (name : List Char) {conversion : Option Char} {spec conversionText specText : List Char}
    (hconversion : ConversionText conversion conversionText) (hspec : SpecText spec specText) :
    IsBody ⟨name, conversion, spec⟩ (name ++ conversionText ++ specText)

theorem IsBody.cons {f : Field} {body : List Char} (c : Char) (h : IsBody f body) :
    IsBody { f with name := c :: f.name } (c :: body) := by
  cases h with
  | mk name hconversion hspec => exact .mk (c :: name) hconversion hspec

theorem isBody_nil : IsBody ⟨[], none, []⟩ [] :=
  .mk [] .absent .absent

section

variable {spec specText : List Char} (h : SpecText spec specText)
  (hbraceless : ∀ c ∈ spec, isBrace c = false) (rest : List Char)
include h hbraceless

theorem scanFrom_specText (place : Place) (hplace : place = .name ∨ place = .afterConversion) :
    scanFrom place (specText ++ '}' :: rest)
      = (⟨[], some ⟨[], none, spec⟩⟩ :: (scanFrom .literal rest).1,
        (scanFrom .literal rest).2) := by
  cases h with
  | absent => rcases hplace with rfl | rfl <;> simp [scanFrom, Scan.close]
  | given =>
    have hspec : scanFrom place (':' :: spec ++ '}' :: rest)
        = scanFrom (.spec 0) (spec ++ '}' :: rest) := by
      rcases hplace with rfl | rfl <;> simp [scanFrom]
    rw [hspec, scanFrom_spec spec hbraceless]
    unfold Scan.close
    rw [Scan.foldr_spec, List.append_nil]

theorem scanFrom_conversionText {conversionText : List Char}
    (hconversion : ConversionText none conversionText)
    : scanFrom .name (conversionText ++ specText ++ '}' :: rest)
        = (⟨[], some ⟨[], none, spec⟩⟩ :: (scanFrom .literal rest).1,
          (scanFrom .literal rest).2) := by
  generalize hnone : none = conversion at hconversion
  cases hconversion with
  | absent => exact scanFrom_specText h hbraceless rest .name (.inl rfl)
  | given c =>
    have hc : (c == '\x00') = true := by
      cases hc : c == '\x00' <;> simp [hc] at hnone ⊢
    have hmark : scanFrom .name ('!' :: c :: (specText ++ '}' :: rest))
        = (scanFrom .afterConversion (specText ++ '}' :: rest)).conversion c := by
      simp [scanFrom]
    rw [List.append_assoc, List.cons_append, List.cons_append, List.nil_append, hmark]
    rw [scanFrom_specText h hbraceless rest .afterConversion (.inr rfl)]
    simp [Scan.conversion, Scan.field, hc]

theorem scanFrom_body {name conversionText : List Char}
    (hname : ∀ c ∈ name, c.isDigit = true)
    (hconversion : ConversionText none conversionText)
    : scanFrom .literal ('{' :: (name ++ conversionText ++ specText) ++ '}' :: rest)
        = (⟨[], some ⟨name, none, spec⟩⟩ :: (scanFrom .literal rest).1,
          (scanFrom .literal rest).2) := by
  -- The opening brace is not taken for a doubled one.
  have hhead : ∃ d ds, name ++ conversionText ++ specText ++ '}' :: rest = d :: ds ∧ d ≠ '{' := by
    cases name with
    | cons d ds =>
      refine ⟨d, _, rfl, ?_⟩
      rintro rfl
      exact absurd (Segment.isBrace_of_isDigit (hname '{' List.mem_cons_self)) (by decide)
    | nil =>
      generalize none = conversion at hconversion
      cases hconversion with
      | given c => exact ⟨'!', _, rfl, by decide⟩
      | absent =>
        cases h with
        | given => exact ⟨':', _, rfl, by decide⟩
        | absent => exact ⟨'}', rest, rfl, by decide⟩
  have hopen : scanFrom .literal ('{' :: (name ++ conversionText ++ specText ++ '}' :: rest))
      = scanFrom .name (name ++ conversionText ++ specText ++ '}' :: rest) := by
    obtain ⟨d, ds, htext, hd⟩ := hhead
    rw [htext, scanFrom_open hd]
  rw [List.cons_append, hopen, List.append_assoc, List.append_assoc]
  rw [scanFrom_name_digits name hname]
  rw [← List.append_assoc, scanFrom_conversionText h hbraceless rest hconversion, Scan.foldr_name]
  rw [List.append_nil]

end

end Piece

namespace Segment

def toPiece (s : Segment) : Piece :=
  ⟨s.literal, s.placeholder.map fun p => ⟨intText p.index, none, p.spec⟩⟩

open Piece in
theorem scanFrom_renderPlaceholder {p : Placeholder} (h : p.IsValid) (cs : List Char) :
    scanFrom .literal (renderPlaceholder p ++ cs)
      = (toPiece ⟨[], some p⟩ :: (scanFrom .literal cs).1, (scanFrom .literal cs).2) := by
  rcases p with ⟨index, spec⟩
  obtain ⟨n, rfl⟩ := Int.eq_ofNat_of_zero_le h.index_nonneg
  have hdigits : ∀ c ∈ Nat.toDigits 10 n, c.isDigit = true := by
    intro c hc
    exact Nat.isDigit_of_mem_toDigits (by omega) (by omega) hc
  have hspec : SpecText spec (if spec.isEmpty then [] else ':' :: spec) := by
    cases spec with
    | nil => exact .absent
    | cons c spec => exact .given (c :: spec)
  have hbody := scanFrom_body hspec h.spec_braceless cs hdigits .absent
  simpa [renderPlaceholder, toPiece, intText_natCast] using hbody

theorem map_toPiece_consLiteral (c : Char) (segments : List Segment) :
    ((consLiteral c segments).map toPiece, none)
      = Piece.Scan.literal c (segments.map toPiece, none) := by
  cases segments <;> rfl

theorem scan_renderAll (ts : List Token) (h : Token.IsValid ts) :
    Piece.scan (Token.renderAll ts) = ((ofTokens ts).map toPiece, none) := by
  unfold Piece.scan
  induction ts with
  | nil => rfl
  | cons t ts ih =>
    rw [Token.renderAll_cons]
    cases t with
    | hole p =>
      have ih := ih (by intro q hq; exact h q (by simp [hq]))
      rw [Token.render_hole, scanFrom_renderPlaceholder (h p (by simp)), ih]
      rfl
    | char c =>
      have ih := ih h
      rw [Token.render_char]
      unfold ofTokens
      split
      . next hc =>
        rw [List.cons_append, List.cons_append, List.nil_append, Piece.scanFrom_brace hc, ih]
        rfl
      . next hc =>
        rw [List.cons_append, List.nil_append, Piece.scanFrom_char (by simpa using hc), ih]
        rw [map_toPiece_consLiteral]

theorem any_isBrace_eq_false {cs : List Char} (h : ∀ c ∈ cs, isBrace c = false) :
    (cs.any fun c => c == '{' || c == '}') = false := by
  rw [List.any_eq_false]
  intro c hc
  exact Bool.eq_false_iff.1 (h c hc)

theorem placeholder?_toPiece {p : Placeholder} (h : p.IsValid) (numbering : Numbering)
    (hnumbering : ∀ next, numbering ≠ .automatic next)
    : placeholder? numbering ⟨intText p.index, none, p.spec⟩ = .ok (p, .explicit) := by
  rcases p with ⟨index, spec⟩
  obtain ⟨n, rfl⟩ := Int.eq_ofNat_of_zero_le h.index_nonneg
  unfold placeholder?
  simp only [any_isBrace_eq_false h.spec_braceless, intText_natCast]
  rw [number_toDigits h.index_isWritable numbering hnumbering]
  rfl

theorem ofPieces_map_toPiece (segments : List Segment) (h : Token.IsValid (tokensAll segments))
    (numbering : Numbering) (hnumbering : ∀ next, numbering ≠ .automatic next)
    : ofPieces numbering (segments.map toPiece) = .ok segments := by
  induction segments generalizing numbering with
  | nil => rfl
  | cons s segments ih =>
    rw [tokensAll_cons, Token.isValid_append] at h
    rcases s with ⟨literal, placeholder⟩
    cases placeholder with
    | none =>
      simp only [List.map_cons, toPiece, Option.map_none, ofPieces]
      rw [ih h.2 numbering hnumbering]
      rfl
    | some p =>
      have hp : p.IsValid := h.1 p (by simp [tokens])
      simp only [List.map_cons, toPiece, Option.map_some, ofPieces]
      rw [placeholder?_toPiece hp numbering hnumbering]
      rw [ok_bind, ih h.2 .explicit (by simp)]
      rfl

theorem parse_renderAll (ts : List Token) (h : Token.IsValid ts) :
    parse (String.ofList (Token.renderAll ts)) = .ok (ofTokens ts) := by
  unfold parse
  rw [String.toList_ofList]
  rw [scan_renderAll ts h]
  dsimp
  rw [ofPieces_map_toPiece _ (by rwa [tokensAll_ofTokens]) .undecided (by simp)]

end Segment
end Soql
