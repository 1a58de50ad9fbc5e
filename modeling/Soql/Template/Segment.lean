import Soql.Error
import Soql.Text.Blank

/-!
This module contains the segments of format text: literal text with its braces undone, and behind it
a placeholder with the position of its argument. Segments are written back in one canonical form, in
which every placeholder is numbered.
-/

namespace Soql

structure Placeholder where
  index : Int
  /-- The pattern for the argument; empty if there is none. -/
  spec : List Char
  deriving DecidableEq

structure Segment where
  literal : List Char
  placeholder : Option Placeholder
  deriving DecidableEq

namespace Segment

inductive Numbering where
  | undecided
  /-- By their order; `next` is the number of the next one. -/
  | automatic (next : Nat)
  | explicit
  deriving DecidableEq

def digitValues (cs : List Char) : List Nat :=
  cs.map fun c => c.toNat - '0'.toNat

inductive Fault where
  | format (fault : FormatFault)
  /-- A number with too many digits to be read. -/
  | tooLong (count : Nat)
  /-- More placeholders than there are numbers that can be written. -/
  | tooMany
  deriving DecidableEq

def number (numbering : Numbering) (name : List Char) : Except Fault (Nat × Numbering) :=
  if name.isEmpty then
    match numbering with
    | .undecided => .ok (0, .automatic 1)
    | .automatic next =>
      if isWritable next then .ok (next, .automatic (next + 1)) else .error .tooMany
    | .explicit => .error (.format .mixedNumbering)
  else if !name.all Char.isDigit then
    .error (.format (.notIndex name))
  else if maxDecimalDigits < name.length then
    .error (.tooLong name.length)
  else
    match numbering with
    | .automatic _ => .error (.format .mixedNumbering)
    | _ => .ok (Text.digitsValue 0 (digitValues name), .explicit)

/--
The placeholder for a field. Conversions and fields inside a specifier are refused.
-/
def placeholder? (numbering : Numbering) (f : Field) : Except Fault (Placeholder × Numbering) :=
  match f.conversion with
  | some c => .error (.format (.conversion c))
  | none =>
    if f.spec.any fun c => c == '{' || c == '}' then
      .error (.format .nestedField)
    else do
      let (index, numbering) ← number numbering f.name
      return (⟨index, f.spec⟩, numbering)

def ofPieces (numbering : Numbering) : List Piece → Except Fault (List Segment)
  | [] => .ok []
  | ⟨literal, none⟩ :: ps => do
    let segments ← ofPieces numbering ps
    return ⟨literal, none⟩ :: segments
  | ⟨literal, some field⟩ :: ps => do
    let (placeholder, numbering) ← placeholder? numbering field
    let segments ← ofPieces numbering ps
    return ⟨literal, some placeholder⟩ :: segments

/--
Reads format text. Every fault of its pieces comes before any fault of its fields.
-/
def parse (format : String) : Except Error (List Segment) :=
  match Piece.scan format.toList with
  | (_, some fault) => .error (.badFormat format (.malformed fault))
  | (pieces, none) =>
    match ofPieces .undecided pieces with
    | .ok segments => .ok segments
    | .error (.format fault) => .error (.badFormat format fault)
    | .error (.tooLong count) => .error (.numeralTooLong count)
    | .error .tooMany => .error .integerTooLong

def index? (s : Segment) : Option Int :=
  s.placeholder.map Placeholder.index

def indices (segments : List Segment) : List Int :=
  segments.filterMap index?

def renderLiteral (cs : List Char) : List Char :=
  cs.flatMap fun c => if c == '{' || c == '}' then [c, c] else [c]

def renderPlaceholder (p : Placeholder) : List Char :=
  '{' :: intText p.index ++ (if p.spec.isEmpty then [] else ':' :: p.spec) ++ ['}']

def render (s : Segment) : List Char :=
  renderLiteral s.literal ++ (s.placeholder.map renderPlaceholder).getD []

def renderAll (segments : List Segment) : String :=
  String.ofList (segments.flatMap render)

def isWritableAll (segments : List Segment) : Bool :=
  (indices segments).all isWritable

def write (segments : List Segment) : Except Error String :=
  if isWritableAll segments then .ok (renderAll segments) else .error .integerTooLong

def shift (offset : Int) (s : Segment) : Segment :=
  { s with placeholder := s.placeholder.map fun p => { p with index := p.index + offset } }

theorem index?_shift (offset : Int) (s : Segment) :
    (s.shift offset).index? = s.index?.map (· + offset) := by
  cases h : s.placeholder <;> simp [index?, shift, h]

def collapse (s : Segment) : Segment :=
  { s with literal := Text.collapse s.literal }

end Segment

def placeholderIndices (format : String) : Except Error (List Int) :=
  (Segment.parse format).map Segment.indices

def renumber (format : String) (offset : Int) : Except Error String := do
  let segments ← Segment.parse format
  Segment.write (segments.map (Segment.shift offset))

/--
Collapses runs of blanks in literal text and trims the ends, unless `keepBlanks` asks for the text
as it is, which is not even read then.
-/
def normalize (keepBlanks : Bool) (format : String) : Except Error String :=
  if keepBlanks then
    .ok format
  else do
    let segments ← Segment.parse format
    return String.ofList (Text.trim (segments.map Segment.collapse |>.flatMap Segment.render))

end Soql
