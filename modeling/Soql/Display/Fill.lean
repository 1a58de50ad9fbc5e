import Soql.Display.Part
import Soql.Template.Segment

/-!
This module contains the filling of format text with the displays of its arguments. It is more
liberal than compilation: fields can reach into their argument, convert it to text first, and take
their pattern from other arguments.

Faults show up from left to right, so that a fault in the format text itself comes after those of
the fields in front of it.
-/

namespace Soql
namespace Display

inductive Accessor where
  | member (name : List Char)
  | item (key : List Char)
  deriving DecidableEq

namespace Accessor

def name : Accessor → List Char
  | .member name => name
  | .item key => key

abbrev Scan := List Accessor × Option Fault

inductive Place where
  | member
  | item
  | behindItem

def consName (c : Char) : Scan → Scan
  | (.member name :: rest, fault) => (.member (c :: name) :: rest, fault)
  | (.item key :: rest, fault) => (.item (c :: key) :: rest, fault)
  | ([], fault) => ([], fault)

def Scan.push (a : Accessor) (s : Scan) : Scan :=
  (a :: s.1, s.2)

def scanFrom : Place → List Char → Scan
  | .member, [] => ([.member []], none)
  | .member, c :: cs =>
    if c == '.' then (scanFrom .member cs).push (.member [])
    else if c == '[' then (scanFrom .item cs).push (.member [])
    else consName c (scanFrom .member cs)
  | .item, [] => ([], some .unclosedBracket)
  | .item, c :: cs =>
    if c == ']' then (scanFrom .behindItem cs).push (.item [])
    else consName c (scanFrom .item cs)
  | .behindItem, [] => ([], none)
  | .behindItem, c :: cs =>
    if c == '.' then scanFrom .member cs
    else if c == '[' then scanFrom .item cs
    else ([], some .textAfterBracket)

end Accessor

def beginsAccessor (c : Char) : Bool :=
  c == '.' || c == '['

def splitName (cs : List Char) : List Char × Accessor.Scan :=
  let steps := cs.dropWhile (!beginsAccessor ·)
  (cs.takeWhile (!beginsAccessor ·),
    match steps with
    | [] => ([], none)
    | '.' :: cs => Accessor.scanFrom .member cs
    | _ :: cs => Accessor.scanFrom .item cs)

/--
A number in decimal digits of any script; `none` for any other text. Reading stops at the digit with
which the number exceeds a signed word of 64 bits.
-/
def readIndex (cs : List Char) : Except Fault (Option Nat) :=
  if cs.isEmpty then .ok none else go 0 cs
where
  go (n : Nat) : List Char → Except Fault (Option Nat)
    | [] => .ok (some n)
    | c :: cs =>
      match Text.digitValue? c with
      | none => .ok none
      | some d =>
        if NumberPattern.maxCount < 10 * n + d then .error .tooManyDigits else go (10 * n + d) cs

def follow (fault : Option Fault) (part : Part) : List Accessor → Except Fault Part
  | [] =>
    match fault with
    | some fault => .error fault
    | none => .ok part
  | .member name :: steps => do
    let part ← part.memberOf name
    follow fault part steps
  | .item key :: steps => do
    let part ← part.itemOf (← readIndex key) key
    follow fault part steps

def argumentOf (views : List View) (numbering : Segment.Numbering) (name : List Char) :
    Except Fault (View × Segment.Numbering) := do
  let index ← readIndex name
  let (index, numbering) ← match index, name with
    | some index, _ =>
      match numbering with
      | .automatic _ => throw .explicitAfterAutomatic
      | _ => pure (index, .explicit)
    | none, [] =>
      match numbering with
      | .undecided => pure (0, .automatic 1)
      | .automatic next => pure (next, .automatic (next + 1))
      | .explicit => throw .automaticAfterExplicit
    | none, name => throw (.noName (String.ofList name))
  match views[index]? with
  | some v => return (v, numbering)
  | none => throw (.noArgument index)

def convert (part : Part) (conversion : Char) : Except Fault Part :=
  match conversion with
  | 's' => part.plain.map Part.ofText
  | 'r' => part.quoted.map fun s => Part.ofText s
  | 'a' => part.quoted.map fun s => Part.ofText (Text.asciiOnly s)
  | c => .error (.unknownConversion c)

def patternFailure : PatternFailure → Fault
  | .fault fault => .pattern fault
  | .overflow o => .overflow o

def encodePattern (pattern : Text) : Except Fault String :=
  pattern.encode.mapError .unencodable

def layoutValue (pattern : Text) : Value → Except Fault Text
  | .text t => (NumberPattern.formatText pattern t).mapError patternFailure
  | .bool b => (NumberPattern.formatInt "bool" pattern (if b then 1 else 0)).mapError patternFailure
  | .int n none => (NumberPattern.formatInt "int" pattern n).mapError patternFailure
  | .int _ (some label) | .float _ (some label) => .ok label.shown
  | .float x none => (NumberPattern.formatBinary pattern x).mapError patternFailure
  | .decimal d => do
    let pattern ← encodePattern pattern
    (NumberPattern.formatDecimal pattern d).mapError patternFailure
  | .date d => do return d.format (← encodePattern pattern)
  | .dateTime d => do return d.format (← encodePattern pattern)
  | v => .error (.patternOnKind v.longKind)

def layout (part : Part) (pattern : Text) : Except Fault Text :=
  if pattern.isEmpty then
    part.plain
  else
    match part with
    | .view v => layoutValue pattern v.value
    | part => .error (.patternOnKind part.kindOf.longName)

abbrev Filler := Segment.Numbering → List Char → Except Fault (Text × Segment.Numbering)

/--
The text of a field. Braces in its specifier are filled in first, by `nested`.
-/
def fillField (views : List View) (nested : Filler) (numbering : Segment.Numbering) (f : Field) :
    Except Fault (Text × Segment.Numbering) := do
  let (name, steps, fault) := splitName f.name
  let (argument, numbering) ← argumentOf views numbering name
  let part ← follow fault (.view argument) steps
  let part ← match f.conversion with
    | none => pure part
    | some c => convert part c
  let (pattern, numbering) ←
    if f.spec.contains '{' then nested numbering f.spec
    else pure (Text.ofChars f.spec, numbering)
  let text ← layout part pattern
  return (text, numbering)

def fillPieces (views : List View) (nested : Filler) (fault : Option Malformed)
    (numbering : Segment.Numbering) : List Piece → Except Fault (Text × Segment.Numbering)
  | [] =>
    match fault with
    | some fault => .error (.malformed fault)
    | none => .ok ([], numbering)
  | ⟨literal, none⟩ :: pieces => do
    let (rest, numbering) ← fillPieces views nested fault numbering pieces
    return (Text.ofChars literal ++ rest, numbering)
  | ⟨literal, some field⟩ :: pieces => do
    let (text, numbering) ← fillField views nested numbering field
    let (rest, numbering) ← fillPieces views nested fault numbering pieces
    return (Text.ofChars literal ++ text ++ rest, numbering)

/--
Fills format text in which specifiers nest less than `depth` times.
-/
def fill (views : List View) : Nat → Filler
  | 0 => fun _ _ => .error .nestedTooDeep
  | depth + 1 => fun numbering format =>
    let (pieces, fault) := Piece.scan format
    fillPieces views (fill views depth) fault numbering pieces

def templateText (format : String) (views : List View) : Except Fault Text := do
  let (text, _) ← fill views 2 .undecided format.toList
  return text

end Display
end Soql
