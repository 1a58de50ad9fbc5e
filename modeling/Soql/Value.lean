import Soql.Text.Symbol
import Soql.Number.Binary64
import Soql.Number.Decimal
import Soql.Calendar.DateTime

/-!
This module contains the values that a template takes as arguments.
-/

namespace Soql

inductive SequenceKind where
  | list
  | tuple
  | deque
  | wrappedList
  | bytesView
  | array
  deriving DecidableEq

namespace SequenceKind

def name : SequenceKind → String
  | .list => "list"
  | .tuple => "tuple"
  | .deque => "deque"
  | .wrappedList => "UserList"
  | .bytesView => "memoryview"
  | .array => "array"

end SequenceKind

/--
The sequences that take further items, so that one of them can become its own last item.
-/
inductive ExtensibleKind where
  | list
  | deque
  | wrappedList
  deriving DecidableEq

namespace ExtensibleKind

def toSequenceKind : ExtensibleKind → SequenceKind
  | .list => .list
  | .deque => .deque
  | .wrappedList => .wrappedList

end ExtensibleKind

/--
A number can carry a label: a kind of its own, and a text that it shows in place of its digits.
-/
structure Label where
  kind : String
  shown : String
  deriving DecidableEq

inductive Value where
  | null
  | bool (b : Bool)
  | int (n : Int) (label : Option Label)
  | float (x : Binary64) (label : Option Label)
  | decimal (d : Decimal)
  | date (d : Date)
  | dateTime (d : DateTime)
  | text (t : Text)
  /-- A text inside an object that acts like one. -/
  | wrappedText (t : Text)
  /-- Query text that is embedded as it is. -/
  | fragment (t : Text)
  /-- A search phrase whose reserved characters are escaped. -/
  | phrase (t : Text)
  | template (format : String) (arguments : List Value)
  | sequence (kind : SequenceKind) (items : List Value)
  /-- The numbers from `start` up to `stop`, exclusively, in steps of `step`. -/
  | range (start stop step : Int)
  /-- A sequence that ends in itself, behind the items `before`. -/
  | cycle (kind : ExtensibleKind) (before : List Value)
  /-- Bytes, which can change or not. -/
  | octets (mutable : Bool) (bytes : List UInt8)
  /-- Values by their names. -/
  | table (names : List String) (values : List Value)
  | builder (format : String) (arguments : List Value)
  | compiled (format : String) (finalQuery : Text)
  /-- A value of which only its kind, its display and, where they can be gathered, its items are
  known. -/
  | foreign (kind shown : String) (items : Option (List Value))

namespace Value

/--
How many numbers a range has. A step of zero makes no progress and gives none.
-/
def rangeCount (start stop step : Int) : Nat :=
  let count :=
    if 0 < step then (stop - start + step - 1) / step
    else if step < 0 then (start - stop - step - 1) / (-step)
    else 0
  count.toNat

def rangeItem (start step : Int) (index : Nat) : Int :=
  start + step * index

def rangeItems (start stop step : Int) : List Int :=
  (List.range (rangeCount start stop step)).map (rangeItem start step)

def kind : Value → String
  | .null => "NoneType"
  | .bool _ => "bool"
  | .int _ label => (label.map Label.kind).getD "int"
  | .float _ label => (label.map Label.kind).getD "float"
  | .decimal _ => "Decimal"
  | .date _ => "date"
  | .dateTime _ => "datetime"
  | .text _ => "str"
  | .wrappedText _ => "UserString"
  | .fragment _ => "EscapedQuery"
  | .phrase _ => "EscapedSoslQuery"
  | .template .. => "QueryTemplate"
  | .sequence kind _ => kind.name
  | .range .. => "range"
  | .cycle kind _ => kind.toSequenceKind.name
  | .octets mutable _ => if mutable then "bytearray" else "bytes"
  | .table .. => "dict"
  | .builder .. => "TemplateBuilder"
  | .compiled .. => "CompiledQuery"
  | .foreign kind .. => kind

def text? : Value → Option Text
  | .text t | .wrappedText t => some t
  | _ => none

end Value

structure Template where
  format : String
  arguments : List Value

namespace Template

def empty : Template :=
  ⟨"", []⟩

def toValue (t : Template) : Value :=
  .template t.format t.arguments

end Template
end Soql
