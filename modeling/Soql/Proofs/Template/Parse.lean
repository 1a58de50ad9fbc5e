import Soql.Proofs.Outcome
import Soql.Proofs.Template.Scan

/-!
This module contains what is known of segments that were read: their placeholders can be written,
and their literals end where the text itself does.
-/

namespace Soql
namespace Piece

def consLiteral (c : Char) : List Piece → List Piece
  | [] => [⟨[c], none⟩]
  | p :: ps => { p with literal := c :: p.literal } :: ps

inductive IsBodyFrom : Place → Field → List Char → Prop where
  | name {f : Field} {body : List Char} (h : IsBody f body) : IsBodyFrom .name f body
  | bracket {f : Field} {body : List Char} (h : IsBody f body) : IsBodyFrom .bracket f body
  | conversion (c : Char) {spec specText : List Char} (hspec : SpecText spec specText) :
    IsBodyFrom .conversion ⟨[], if c == '\x00' then none else some c, spec⟩ (c :: specText)
  | afterConversion {spec specText : List Char} (hspec : SpecText spec specText) :
    IsBodyFrom .afterConversion ⟨[], none, spec⟩ specText
  | spec (depth : Nat) (spec : List Char) : IsBodyFrom (.spec depth) ⟨[], none, spec⟩ spec

inductive Reads : List Char → List Piece → Prop where
  | nil : Reads [] []
  | char {c : Char} {cs : List Char} {ps : List Piece} (hc : isBrace c = false) (h : Reads cs ps) :
    Reads (c :: cs) (consLiteral c ps)
  | brace {c : Char} {cs : List Char} {ps : List Piece} (hc : isBrace c = true) (h : Reads cs ps) :
    Reads (c :: c :: cs) (⟨[c], none⟩ :: ps)
  | field {body cs : List Char} {f : Field} {ps : List Piece} (hbody : IsBody f body)
    (h : Reads cs ps) :
    Reads ('{' :: body ++ '}' :: cs) (⟨[], some f⟩ :: ps)

def ReadsField (place : Place) (cs : List Char) (ps : List Piece) : Prop :=
  ∃ body f rest ps', cs = body ++ '}' :: rest ∧ ps = ⟨[], some f⟩ :: ps' ∧ IsBodyFrom place f body
    ∧ Reads rest ps'

def ReadsFrom : Place → List Char → List Piece → Prop
  | .literal => Reads
  | place => ReadsField place

section

variable {place place' : Place} {cs : List Char}

theorem ReadsField.cons {ps : List Piece} (c : Char) (h : ReadsField place cs ps)
    (hbody : ∀ {f body}, IsBodyFrom place f body → IsBodyFrom place' f (c :: body))
    : ReadsField place' (c :: cs) ps := by
  obtain ⟨body, f, rest, ps', hcs, hps, hfrom, h⟩ := h
  exact ⟨c :: body, f, rest, ps', by rw [hcs]; rfl, hps, hbody hfrom, h⟩

theorem ReadsField.field {s : Scan} (c : Char) {g : Field → Field} (h : ReadsField place cs s.1)
    (hbody : ∀ {f body}, IsBodyFrom place f body → IsBodyFrom place' (g f) (c :: body))
    : ReadsField place' (c :: cs) (s.field g).1 := by
  rcases s with ⟨ps, fault⟩
  obtain ⟨body, f, rest, ps', hcs, hps, hfrom, h⟩ := h
  refine ⟨c :: body, g f, rest, ps', by rw [hcs]; rfl, ?_, hbody hfrom, h⟩
  dsimp at hps
  subst hps
  rfl

theorem ReadsField.close {s : Scan} (h : Reads cs s.1)
    (hbody : IsBodyFrom place ⟨[], none, []⟩ [])
    : ReadsField place ('}' :: cs) s.close.1 :=
  ⟨[], ⟨[], none, []⟩, cs, s.1, rfl, rfl, hbody, h⟩

end

theorem Reads.of_readsField {cs : List Char} {ps : List Piece} (h : ReadsField .name cs ps) :
    Reads ('{' :: cs) ps := by
  obtain ⟨body, f, rest, ps', hcs, hps, hfrom, h⟩ := h
  rw [hcs, hps]
  cases hfrom with
  | name hbody => exact .field hbody h

theorem fault_literal (c : Char) (s : Scan) : (s.literal c).2 = s.2 := by
  rcases s with ⟨_ | ⟨p, ps⟩, _ | fault⟩ <;> rfl

theorem fault_field (g : Field → Field) (s : Scan) : (s.field g).2 = s.2 := by
  rcases s with ⟨_ | ⟨p, ps⟩, fault⟩ <;> rfl

theorem literal_eq_consLiteral (c : Char) {s : Scan} (h : s.2 = none) :
    (s.literal c).1 = consLiteral c s.1 := by
  rcases s with ⟨_ | ⟨p, ps⟩, fault⟩
  . dsimp at h
    subst h
    rfl
  . rfl

/--
By induction on the scan. Where it stops with a fault there is nothing to show; inside a field every
character but the last becomes part of the body.
-/
theorem readsFrom_scanFrom (place : Place) (cs : List Char) (h : (scanFrom place cs).2 = none) :
    ReadsFrom place cs (scanFrom place cs).1 := by
  fun_induction scanFrom place cs with
  | case1 => exact .nil
  | case2 cs ih => exact .brace rfl (ih h)
  | case3 cs ih => exact .brace rfl (ih h)
  | case5 c cs _ _ _ hc ih =>
    rw [beq_iff_eq] at hc
    subst hc
    exact Reads.of_readsField (ih h)
  | case7 c cs _ _ _ hopen hclose ih =>
    rw [fault_literal] at h
    rw [literal_eq_consLiteral c h]
    refine .char ?_ (ih h)
    simp only [isBrace, hopen, hclose, Bool.or_self]
  | case10 c cs _ hc ih =>
    rw [beq_iff_eq] at hc
    subst hc
    exact ReadsField.close (ih h) (.name isBody_nil)
  | case11 c cs _ _ hc ih =>
    rw [beq_iff_eq] at hc
    subst hc
    refine ReadsField.cons '!' (ih h) ?_
    intro f body hfrom
    cases hfrom with
    | conversion c hspec => exact .name (.mk [] (.given c) hspec)
  | case12 c cs _ _ _ hc ih =>
    rw [beq_iff_eq] at hc
    subst hc
    refine ReadsField.cons ':' (ih h) ?_
    intro f body hfrom
    cases hfrom with
    | spec => exact .name (.mk [] .absent (.given body))
  | case13 c cs _ _ _ _ _ ih =>
    refine ReadsField.field c (ih (by rwa [← fault_field])) ?_
    intro f body hfrom
    cases hfrom with
    | bracket hbody => exact .name (hbody.cons c)
  | case14 c cs _ _ _ _ _ ih =>
    refine ReadsField.field c (ih (by rwa [← fault_field])) ?_
    intro f body hfrom
    cases hfrom with
    | name hbody => exact .name (hbody.cons c)
  | case16 c cs _ ih =>
    refine ReadsField.field c (ih (by rwa [← fault_field])) ?_
    intro f body hfrom
    cases hfrom with
    | name hbody => exact .bracket (hbody.cons c)
  | case17 c cs _ ih =>
    refine ReadsField.field c (ih (by rwa [← fault_field])) ?_
    intro f body hfrom
    cases hfrom with
    | bracket hbody => exact .bracket (hbody.cons c)
  | case19 c cs ih =>
    refine ReadsField.field c (ih (by rwa [← fault_field])) ?_
    intro f body hfrom
    cases hfrom with
    | afterConversion hspec => exact .conversion c hspec
  | case21 c cs hc ih =>
    rw [beq_iff_eq] at hc
    subst hc
    exact ReadsField.close (ih h) (.afterConversion .absent)
  | case22 c cs _ hc ih =>
    rw [beq_iff_eq] at hc
    subst hc
    refine ReadsField.cons ':' (ih h) ?_
    intro f body hfrom
    cases hfrom with
    | spec => exact .afterConversion (.given body)
  | case26 c cs _ hc ih =>
    rw [beq_iff_eq] at hc
    subst hc
    exact ReadsField.close (ih h) (.spec 0 [])
  | case25 depth c cs _ ih | case27 c cs _ _ depth ih | case28 depth c cs _ _ ih =>
    refine ReadsField.field c (ih (by rwa [← fault_field])) ?_
    intro f body hfrom
    cases hfrom with
    | spec => exact .spec _ (c :: body)
  | case4 | case6 | case8 | case9 | case15 | case18 | case20 | case23 | case24 => contradiction

def fields (ps : List Piece) : List Field :=
  ps.filterMap field

@[simp]
theorem fields_none (literal : List Char) (ps : List Piece) :
    fields (⟨literal, none⟩ :: ps) = fields ps := rfl

@[simp]
theorem fields_some (literal : List Char) (f : Field) (ps : List Piece) :
    fields (⟨literal, some f⟩ :: ps) = f :: fields ps := rfl

theorem fields_consLiteral (c : Char) (ps : List Piece) :
    fields (consLiteral c ps) = fields ps := by
  cases ps with
  | nil => rfl
  | cons p ps => cases h : p.field <;> simp [consLiteral, fields, h]

theorem Reads.length_fields_le {cs : List Char} {ps : List Piece} (h : Reads cs ps) :
    (fields ps).length ≤ cs.length := by
  induction h with
  | nil => exact Nat.le_refl 0
  | char _ _ ih =>
    rw [fields_consLiteral, List.length_cons]
    omega
  | brace _ _ ih =>
    simp only [fields_none, List.length_cons]
    omega
  | field _ _ ih =>
    simp only [fields_some, List.length_cons, List.length_append]
    omega

theorem Reads.isInfix_name {cs : List Char} {ps : List Piece} (h : Reads cs ps) :
    ∀ f ∈ fields ps, f.name <:+: cs := by
  induction h with
  | nil => simp [fields]
  | char _ _ ih =>
    rw [fields_consLiteral]
    intro f hf
    exact List.infix_cons (ih f hf)
  | brace _ _ ih =>
    intro f hf
    exact List.infix_cons (List.infix_cons (ih f hf))
  | @field body cs f ps hbody _ ih =>
    rw [fields_some, List.forall_mem_cons]
    constructor
    . cases hbody with
      | @mk name _ _ conversionText specText _ _ =>
        exact ⟨['{'], conversionText ++ specText ++ '}' :: cs, by simp⟩
    . intro g hg
      apply (ih g hg).trans
      apply List.infix_append_of_infix_right (List.infix_cons (List.infix_refl cs))

theorem reads_of_scan {cs : List Char} {ps : List Piece} (h : scan cs = (ps, none)) :
    Reads cs ps := by
  have := readsFrom_scanFrom .literal cs (by rw [← scan, h])
  rw [← scan, h] at this
  exact this

end Piece

namespace Segment

theorem ofPieces_consLiteral (c : Char) (numbering : Numbering) (ps : List Piece) :
    ofPieces numbering (Piece.consLiteral c ps) = (ofPieces numbering ps).map (consLiteral c) := by
  cases ps with
  | nil => rfl
  | cons p ps =>
    rcases p with ⟨literal, field⟩
    cases field with
    | none =>
      simp only [Piece.consLiteral, ofPieces]
      cases ofPieces numbering ps <;> rfl
    | some f =>
      simp only [Piece.consLiteral, ofPieces]
      cases placeholder? numbering f with
      | error fault => rfl
      | ok result =>
        simp only [ok_bind]
        cases ofPieces result.2 ps <;> rfl

theorem placeholder?_eq_ok_iff {numbering numbering' : Numbering} {f : Field} {p : Placeholder} :
    placeholder? numbering f = .ok (p, numbering')
      ↔ f.conversion = none ∧ (∀ c ∈ f.spec, isBrace c = false)
        ∧ ∃ n, number numbering f.name = .ok (n, numbering') ∧ p = ⟨n, f.spec⟩ := by
  unfold placeholder?
  cases f.conversion with
  | some c => simp
  | none =>
    dsimp only
    split
    . next hspec =>
      obtain ⟨c, hc, hbrace⟩ := List.any_eq_true.1 hspec
      constructor
      . intro h
        cases h
      . rintro ⟨_, hbraceless, _⟩
        exact absurd hbrace (Bool.eq_false_iff.1 (hbraceless c hc))
    . next hspec =>
      have hbraceless : ∀ c ∈ f.spec, isBrace c = false := by
        rw [Bool.not_eq_true, List.any_eq_false] at hspec
        intro c hc
        exact Bool.eq_false_iff.2 (hspec c hc)
      rw [bind_eq_ok_iff]
      constructor
      . rintro ⟨⟨n, _⟩, hnumber, h⟩
        cases h
        exact ⟨rfl, hbraceless, n, hnumber, rfl⟩
      . rintro ⟨_, _, n, hnumber, rfl⟩
        exact ⟨(n, numbering'), hnumber, rfl⟩

theorem isValid_of_placeholder? {numbering numbering' : Numbering} {f : Field} {p : Placeholder}
    (h : placeholder? numbering f = .ok (p, numbering')) : p.IsValid := by
  obtain ⟨_, hspec, n, hnumber, rfl⟩ := placeholder?_eq_ok_iff.1 h
  constructor
  . exact Int.natCast_nonneg n
  . exact isWritable_of_number hnumber
  . exact hspec

structure IsReadFrom (cs : List Char) (segments : List Segment) : Prop where
  isValid : Token.IsValid (tokensAll segments)
  ofTokens_eq : ofTokens (tokensAll segments) = segments
  isEmpty_eq : (tokensAll segments).isEmpty = cs.isEmpty
  headIs_eq : headIs Token.isBlank (tokensAll segments) = headIs Text.isBlank cs
  lastIs_eq : lastIs Token.isBlank (tokensAll segments) = lastIs Text.isBlank cs

theorem isReadFrom_of_reads {cs : List Char} {ps : List Piece} (h : Piece.Reads cs ps)
    {numbering : Numbering} {segments : List Segment} (hps : ofPieces numbering ps = .ok segments)
    : IsReadFrom cs segments := by
  induction h generalizing numbering segments with
  | nil =>
    cases hps
    constructor <;> simp [Token.IsValid, ofTokens]
  | @char c cs ps hc _ ih =>
    rw [ofPieces_consLiteral] at hps
    obtain ⟨rest, hrest, rfl⟩ := map_eq_ok_iff.1 hps
    have ih := ih hrest
    constructor
    . rw [tokensAll_consLiteral]
      exact ih.isValid
    . rw [tokensAll_consLiteral, ofTokens, ih.ofTokens_eq, hc]
      simp
    . simp [tokensAll_consLiteral]
    . simp [tokensAll_consLiteral, Token.isBlank]
    . rw [tokensAll_consLiteral, lastIs_cons, lastIs_cons, ih.isEmpty_eq, ih.lastIs_eq]
      rfl
  | @brace c cs ps hc _ ih =>
    obtain ⟨rest, hrest, hps⟩ := bind_eq_ok_iff.1 hps
    cases hps
    have ih := ih hrest
    have hblank := isBlank_of_isBrace hc
    constructor
    . exact ih.isValid
    . simp [tokens, ofTokens, hc, ih.ofTokens_eq]
    . simp [tokens]
    . simp [tokens, Token.isBlank]
    . simp [tokens, lastIs_cons, Token.isBlank, hblank, ih.isEmpty_eq, ih.lastIs_eq]
  | @field body cs f ps _ _ ih =>
    obtain ⟨⟨p, numbering'⟩, hp, hps⟩ := bind_eq_ok_iff.1 hps
    obtain ⟨rest, hrest, hps⟩ := bind_eq_ok_iff.1 hps
    cases hps
    have ih := ih hrest
    have hopen : Text.isBlank '{' = false := by decide
    have hclose : Text.isBlank '}' = false := by decide
    constructor
    . intro q hq
      simp only [tokensAll_cons, tokens, List.map_nil, Option.map_some, Option.toList_some,
        List.nil_append, List.cons_append, Token.holes_hole, List.mem_cons] at hq
      rcases hq with hq | hq
      . rw [hq]
        exact isValid_of_placeholder? hp
      . exact ih.isValid q hq
    . simp [tokens, ofTokens, ih.ofTokens_eq]
    . simp [tokens]
    . simp [tokens, Token.isBlank, hopen]
    . rw [lastIs_append_cons]
      simp [tokens, lastIs_cons, Token.isBlank, hclose, ih.isEmpty_eq, ih.lastIs_eq]

theorem parse_eq_ok_iff {format : String} {segments : List Segment} :
    parse format = .ok segments
      ↔ ∃ ps, Piece.scan format.toList = (ps, none) ∧ ofPieces .undecided ps = .ok segments := by
  unfold parse
  split
  . next fault hscan => simp [hscan]
  . next ps hscan =>
    rw [hscan]
    cases h : ofPieces .undecided ps with
    | ok segments' => simp [h]
    | error fault => cases fault <;> simp [h]

theorem isReadFrom_of_parse {format : String} {segments : List Segment}
    (h : parse format = .ok segments) : IsReadFrom format.toList segments := by
  obtain ⟨ps, hscan, hps⟩ := parse_eq_ok_iff.1 h
  exact isReadFrom_of_reads (Piece.reads_of_scan hscan) hps

theorem isValid_of_parse {format : String} {segments : List Segment}
    (h : parse format = .ok segments) : Token.IsValid (tokensAll segments) :=
  (isReadFrom_of_parse h).isValid

end Segment
end Soql
