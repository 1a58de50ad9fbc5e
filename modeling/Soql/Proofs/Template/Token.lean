import Soql.Template.Segment

/-!
This module contains the view of segments as a sequence of tokens, in which it does not show where a
literal was split. Reading, writing and normalizing format text act on single tokens.
-/

namespace Soql

def headIs (p : α → Bool) (l : List α) : Bool :=
  l.head?.any p

def lastIs (p : α → Bool) (l : List α) : Bool :=
  l.getLast?.any p

@[simp]
theorem headIs_nil (p : α → Bool) : headIs p [] = false := rfl

@[simp]
theorem headIs_cons (p : α → Bool) (a : α) (l : List α) : headIs p (a :: l) = p a := rfl

@[simp]
theorem lastIs_nil (p : α → Bool) : lastIs p [] = false := rfl

theorem lastIs_cons (p : α → Bool) (a : α) (l : List α) :
    lastIs p (a :: l) = if l.isEmpty then p a else lastIs p l := by
  cases l <;> simp [lastIs, List.getLast?_cons]

theorem lastIs_append_cons (p : α → Bool) (l : List α) (a : α) (l' : List α) :
    lastIs p (l ++ a :: l') = lastIs p (a :: l') := by
  simp [lastIs, List.getLast?_cons]

def isBrace (c : Char) : Bool :=
  c == '{' || c == '}'

theorem isBlank_of_isBrace {c : Char} (h : isBrace c = true) : Text.isBlank c = false := by
  simp only [isBrace, Bool.or_eq_true, beq_iff_eq] at h
  rcases h with h | h <;> subst h <;> decide

/--
A placeholder that reads back as itself once it is written.
-/
structure Placeholder.IsValid (p : Placeholder) : Prop where
  index_nonneg : 0 ≤ p.index
  index_isWritable : isWritable p.index = true
  spec_braceless : ∀ c ∈ p.spec, isBrace c = false

def Placeholder.shift (offset : Int) (p : Placeholder) : Placeholder :=
  { p with index := p.index + offset }

inductive Token where
  | char (c : Char)
  | hole (p : Placeholder)
  deriving DecidableEq

namespace Token

def hole? : Token → Option Placeholder
  | char _ => none
  | hole p => some p

def holes (ts : List Token) : List Placeholder :=
  ts.filterMap hole?

def IsValid (ts : List Token) : Prop :=
  ∀ p ∈ holes ts, p.IsValid

def shift (offset : Int) : Token → Token
  | char c => char c
  | hole p => hole (p.shift offset)

def isBlank : Token → Bool
  | char c => Text.isBlank c
  | hole _ => false

def render : Token → List Char
  | char c => if isBrace c then [c, c] else [c]
  | hole p => Segment.renderPlaceholder p

def renderAll (ts : List Token) : List Char :=
  ts.flatMap render

theorem render_char (c : Char) : render (char c) = if isBrace c then [c, c] else [c] := rfl

theorem render_hole (p : Placeholder) : render (hole p) = Segment.renderPlaceholder p := rfl

@[simp]
theorem holes_nil : holes [] = [] := rfl

@[simp]
theorem holes_char (c : Char) (ts : List Token) : holes (char c :: ts) = holes ts := rfl

@[simp]
theorem holes_hole (p : Placeholder) (ts : List Token) : holes (hole p :: ts) = p :: holes ts := rfl

@[simp]
theorem holes_append (ts us : List Token) : holes (ts ++ us) = holes ts ++ holes us := by
  simp [holes]

@[simp]
theorem holes_map_char (cs : List Char) : holes (cs.map char) = [] := by
  induction cs with
  | nil => rfl
  | cons c cs ih => simp [ih]

@[simp]
theorem holes_map_shift (offset : Int) (ts : List Token) :
    holes (ts.map (shift offset)) = (holes ts).map (Placeholder.shift offset) := by
  induction ts with
  | nil => rfl
  | cons t ts ih => cases t <;> simp [shift, ih]

theorem isValid_append {ts us : List Token} : IsValid (ts ++ us) ↔ IsValid ts ∧ IsValid us := by
  simp only [IsValid, holes_append, List.mem_append]
  constructor
  . intro h
    constructor
    . intro p hp
      exact h p (.inl hp)
    . intro p hp
      exact h p (.inr hp)
  . rintro ⟨hts, hus⟩ p (hp | hp)
    . exact hts p hp
    . exact hus p hp

@[simp]
theorem renderAll_nil : renderAll [] = [] := rfl

@[simp]
theorem renderAll_cons (t : Token) (ts : List Token) :
    renderAll (t :: ts) = t.render ++ renderAll ts := rfl

theorem renderAll_append (ts us : List Token) :
    renderAll (ts ++ us) = renderAll ts ++ renderAll us := by
  simp [renderAll]

theorem shift_shift (a b : Int) (t : Token) : (t.shift a).shift b = t.shift (a + b) := by
  cases t with
  | char c => rfl
  | hole p => simp [shift, Placeholder.shift, Int.add_assoc]

end Token

namespace Segment

def tokens (s : Segment) : List Token :=
  s.literal.map .char ++ (s.placeholder.map Token.hole).toList

def tokensAll (segments : List Segment) : List Token :=
  segments.flatMap tokens

@[simp]
theorem tokensAll_nil : tokensAll [] = [] := rfl

@[simp]
theorem tokensAll_cons (s : Segment) (segments : List Segment) :
    tokensAll (s :: segments) = s.tokens ++ tokensAll segments := rfl

theorem renderAll_map_char (cs : List Char) :
    Token.renderAll (cs.map .char) = renderLiteral cs := by
  induction cs with
  | nil => rfl
  | cons c cs ih =>
    simp only [List.map_cons, Token.renderAll_cons, ih]
    rfl

theorem render_eq (s : Segment) : s.render = Token.renderAll s.tokens := by
  unfold render tokens
  rw [Token.renderAll_append]
  rw [renderAll_map_char]
  cases s.placeholder with
  | none => rfl
  | some p => simp [Token.render]

theorem flatMap_render (segments : List Segment) :
    segments.flatMap render = Token.renderAll (tokensAll segments) := by
  induction segments with
  | nil => rfl
  | cons s segments ih =>
    rw [List.flatMap_cons]
    rw [ih, render_eq]
    rw [tokensAll_cons, Token.renderAll_append]

theorem tokens_shift (offset : Int) (s : Segment) :
    (s.shift offset).tokens = s.tokens.map (Token.shift offset) := by
  rcases s with ⟨literal, placeholder⟩
  cases placeholder <;> simp [tokens, shift, Token.shift, Placeholder.shift]

theorem tokensAll_map_shift (offset : Int) (segments : List Segment) :
    tokensAll (segments.map (shift offset)) = (tokensAll segments).map (Token.shift offset) := by
  induction segments with
  | nil => rfl
  | cons s segments ih => simp [tokens_shift, ih]

theorem holes_tokens (s : Segment) : Token.holes s.tokens = s.placeholder.toList := by
  rcases s with ⟨literal, placeholder⟩
  cases placeholder <;> simp [tokens]

theorem holes_tokensAll (segments : List Segment) :
    Token.holes (tokensAll segments) = segments.filterMap placeholder := by
  induction segments with
  | nil => rfl
  | cons s segments ih =>
    rw [tokensAll_cons, Token.holes_append]
    rw [ih, holes_tokens]
    cases h : s.placeholder <;> simp [h]

theorem indices_eq (segments : List Segment) :
    indices segments = (Token.holes (tokensAll segments)).map Placeholder.index := by
  rw [holes_tokensAll]
  induction segments with
  | nil => rfl
  | cons s segments ih =>
    unfold indices at *
    cases h : s.placeholder <;> simp [index?, h, ih]

def consLiteral (c : Char) : List Segment → List Segment
  | [] => [⟨[c], none⟩]
  | s :: segments => { s with literal := c :: s.literal } :: segments

/--
The segments as which tokens are read: a literal ends behind a brace.
-/
def ofTokens : List Token → List Segment
  | [] => []
  | .hole p :: ts => ⟨[], some p⟩ :: ofTokens ts
  | .char c :: ts => if isBrace c then ⟨[c], none⟩ :: ofTokens ts else consLiteral c (ofTokens ts)

theorem tokensAll_consLiteral (c : Char) (segments : List Segment) :
    tokensAll (consLiteral c segments) = .char c :: tokensAll segments := by
  cases segments <;> simp [consLiteral, tokens]

theorem tokensAll_ofTokens (ts : List Token) : tokensAll (ofTokens ts) = ts := by
  induction ts with
  | nil => rfl
  | cons t ts ih =>
    cases t with
    | hole p => simp [ofTokens, tokens, ih]
    | char c =>
      unfold ofTokens
      split
      . simp [tokens, ih]
      . rw [tokensAll_consLiteral, ih]

theorem map_shift_consLiteral (offset : Int) (c : Char) (segments : List Segment) :
    (consLiteral c segments).map (shift offset) = consLiteral c (segments.map (shift offset)) := by
  cases segments <;> rfl

theorem ofTokens_map_shift (offset : Int) (ts : List Token) :
    ofTokens (ts.map (Token.shift offset)) = (ofTokens ts).map (shift offset) := by
  induction ts with
  | nil => rfl
  | cons t ts ih =>
    cases t with
    | hole p =>
      rw [List.map_cons, Token.shift, ofTokens, ih]
      rfl
    | char c =>
      rw [List.map_cons, Token.shift, ofTokens, ofTokens, ih]
      split
      . rfl
      . rw [map_shift_consLiteral]

end Segment
end Soql
