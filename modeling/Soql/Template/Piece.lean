/-!
This module contains the lexical structure of format text: literal text and fields in braces. A
doubled brace stands for itself and ends a piece, and a field is `{name!conversion:spec}` with the
last two parts optional.

Reading goes on until the first fault, so that the pieces in front of a fault are known, too.
-/

namespace Soql

structure Field where
  name : List Char
  conversion : Option Char
  spec : List Char
  deriving DecidableEq

structure Piece where
  literal : List Char
  field : Option Field
  deriving DecidableEq

inductive Malformed where
  | singleClose
  | singleOpen
  | openInName
  | unclosedName
  | unfinishedConversion
  | textAfterConversion
  | unclosedSpec
  deriving DecidableEq

namespace Malformed

def message : Malformed → String
  | .singleClose => "Single '\x7d' encountered in format string"
  | .singleOpen => "Single '\x7b' encountered in format string"
  | .openInName => "unexpected '\x7b' in field name"
  | .unclosedName => "expected '\x7d' before end of string"
  | .unfinishedConversion => "end of string while looking for conversion specifier"
  | .textAfterConversion => "expected ':' after conversion specifier"
  | .unclosedSpec => "unmatched '\x7b' in format spec"

end Malformed

namespace Piece

abbrev Scan := List Piece × Option Malformed

inductive Place where
  | literal
  | name
  /-- Behind an opening bracket in a name, up to which no character but the closing one counts. -/
  | bracket
  | conversion
  | afterConversion
  /-- In a specifier, inside `depth` pairs of braces. -/
  | spec (depth : Nat)
  deriving DecidableEq

namespace Scan

/--
A character in front of the literal of the first piece, where a text without pieces is one without
characters.
-/
def literal (c : Char) : Scan → Scan
  | ([], none) => ([⟨[c], none⟩], none)
  | ([], some fault) => ([], some fault)
  | (p :: ps, fault) => ({ p with literal := c :: p.literal } :: ps, fault)

def field (f : Field → Field) : Scan → Scan
  | ([], fault) => ([], fault)
  | (p :: ps, fault) => ({ p with field := p.field.map f } :: ps, fault)

def name (c : Char) : Scan → Scan :=
  field fun f => { f with name := c :: f.name }

/--
The character NUL stands for no conversion.
-/
def conversion (c : Char) : Scan → Scan :=
  field fun f => { f with conversion := if c == '\x00' then none else some c }

def spec (c : Char) : Scan → Scan :=
  field fun f => { f with spec := c :: f.spec }

def close (s : Scan) : Scan :=
  (⟨[], some ⟨[], none, []⟩⟩ :: s.1, s.2)

def brace (c : Char) (s : Scan) : Scan :=
  (⟨[c], none⟩ :: s.1, s.2)

def stop (fault : Malformed) : Scan :=
  ([], some fault)

end Scan

def scanFrom : Place → List Char → Scan
  | .literal, [] => ([], none)
  | .literal, '{' :: '{' :: cs => (scanFrom .literal cs).brace '{'
  | .literal, '}' :: '}' :: cs => (scanFrom .literal cs).brace '}'
  | .literal, ['{'] => .stop .singleOpen
  | .literal, c :: cs =>
    if c == '{' then scanFrom .name cs
    else if c == '}' then .stop .singleClose
    else (scanFrom .literal cs).literal c
  | .name, [] => .stop .unclosedName
  | .name, c :: cs =>
    if c == '{' then .stop .openInName
    else if c == '}' then (scanFrom .literal cs).close
    else if c == '!' then scanFrom .conversion cs
    else if c == ':' then scanFrom (.spec 0) cs
    else if c == '[' then (scanFrom .bracket cs).name c
    else (scanFrom .name cs).name c
  | .bracket, [] => .stop .unclosedName
  | .bracket, c :: cs =>
    if c == ']' then (scanFrom .name cs).name c else (scanFrom .bracket cs).name c
  | .conversion, [] => .stop .unfinishedConversion
  | .conversion, c :: cs => (scanFrom .afterConversion cs).conversion c
  | .afterConversion, [] => .stop .unclosedSpec
  | .afterConversion, c :: cs =>
    if c == '}' then (scanFrom .literal cs).close
    else if c == ':' then scanFrom (.spec 0) cs
    else .stop .textAfterConversion
  | .spec _, [] => .stop .unclosedSpec
  | .spec depth, c :: cs =>
    if c == '{' then (scanFrom (.spec (depth + 1)) cs).spec c
    else if c == '}' then
      match depth with
      | 0 => (scanFrom .literal cs).close
      | depth + 1 => (scanFrom (.spec depth) cs).spec c
    else (scanFrom (.spec depth) cs).spec c

def scan (cs : List Char) : Scan :=
  scanFrom .literal cs

example : scan "a\x7b0\x7d\x7b\x7bb".toList
    = ([⟨['a'], some ⟨['0'], none, []⟩⟩, ⟨['{'], none⟩, ⟨['b'], none⟩], none) := by decide
example : scan "\x7b0!r:>\x7b1\x7d\x7d".toList
    = ([⟨[], some ⟨['0'], some 'r', ">\x7b1\x7d".toList⟩⟩], none) := by decide

end Piece
end Soql
