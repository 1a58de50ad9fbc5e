import Soql.Display.View

/-!
This module contains the parts that debug text can reach into: the items of sequences and tables,
and the attributes of values, among them the kind of every value.
-/

namespace Soql
namespace Display

inductive Part where
  | view (v : View)
  | zone (z : Zone)
  | kind (k : Kind)

namespace Part

def ofValue (v : Value) : Part :=
  .view (leaf v)

def ofNat (n : Nat) : Part :=
  ofValue (.int n none)

def ofBool (b : Bool) : Part :=
  ofValue (.bool b)

def ofText (t : Text) : Part :=
  ofValue (.text t)

def kindOf : Part → Kind
  | .view v => .ofValue v.value
  | .zone _ => .ofModule "datetime" "timezone"
  | .kind _ => .builtin "type"

def zoneName (z : Zone) : String :=
  z.name?.getD (zoneText z)

def plain : Part → Except Fault Text
  | .view v => v.plain
  | .zone z => .ok (zoneName z)
  | .kind k => .ok k.shown

def quoted : Part → Except Fault String
  | .view v => v.quoted
  | .zone z => .ok (zoneText z)
  | .kind k => .ok k.shown

/--
How sequences word that they have no item at a position, and that positions are numbers.
-/
def itemMessages? : Value → Option (String × String)
  | .text _ | .wrappedText _ =>
    some ("string index out of range", "string indices must be integers, not 'str'")
  | .sequence .list _ | .sequence .wrappedList _ | .cycle .list _ | .cycle .wrappedList _ =>
    some ("list index out of range", "list indices must be integers or slices, not str")
  | .sequence .tuple _ =>
    some ("tuple index out of range", "tuple indices must be integers or slices, not str")
  | .range .. =>
    some ("range object index out of range", "range indices must be integers or slices, not str")
  | .sequence .deque _ | .cycle .deque _ =>
    some ("deque index out of range", "sequence index must be integer, not 'str'")
  | .sequence .bytesView _ =>
    some ("index out of bounds on dimension 1", "memoryview: invalid slice key")
  | .sequence .array _ => some ("array index out of range", "array indices must be integers")
  | .octets false _ =>
    some ("index out of range", "byte indices must be integers or slices, not str")
  | .octets true _ =>
    some ("bytearray index out of range",
      "bytearray indices must be integers or slices, not str")
  | _ => none

/--
The item at a position. A sequence that ends in itself has itself as its last item.
-/
def itemAt? (v : View) (index : Nat) : Option View :=
  match v.value with
  | .text t => t[index]?.map fun s => leaf (.text [s])
  | .wrappedText t => t[index]?.map fun s => leaf (.wrappedText [s])
  | .range start stop step =>
    if index < Value.rangeCount start stop step then
      some (leaf (.int (Value.rangeItem start step index) none))
    else
      none
  | .octets _ bytes => bytes[index]?.map fun b => leaf (.int b.toNat none)
  | .cycle _ before => if index = before.length then some v else v.items[index]?
  | _ => v.items[index]?

def itemOf (part : Part) (index : Option Nat) (key : List Char) : Except Fault Part :=
  if key.isEmpty then
    .error .emptyAccessor
  else
    match part with
    | .view v =>
      match v.value, itemMessages? v.value, index with
      | .table .., _, some index => .error (.noNumber index)
      | .table names _, _, none =>
        let name := String.ofList key
        match (names.findIdx? (· == name)).bind (v.items[·]?) with
        | some item => .ok (.view item)
        | none => .error (.noName name)
      | _, none, _ => .error (.notSubscriptable part.kindOf.longName)
      | _, some (_, message), none => .error (.notKeyed message)
      | _, some (message, _), some index =>
        match itemAt? v index with
        | some item => .ok (.view item)
        | none => .error (.noItem message)
    | .zone _ => .error (.notSubscriptable part.kindOf.longName)
    | .kind k => .error (.kindNotSubscriptable k.longName)

def integerMember? (n : Int) (name : String) : Option Part :=
  match name with
  | "real" | "numerator" => some (ofValue (.int n none))
  | "imag" => some (ofNat 0)
  | "denominator" => some (ofNat 1)
  | _ => none

def timeDelta (plain quoted : String) : Part :=
  .view (.mk (.foreign "timedelta" plain none) (.ok (Text.ofString plain))
    (.ok (call "datetime.timedelta" [quoted])) [])

def firstDate : Date :=
  ⟨1, 1, 1, by decide, by decide, by decide, by decide, by decide, by decide⟩

def lastDate : Date :=
  ⟨9999, 12, 31, by decide, by decide, by decide, by decide, by decide, by decide⟩

def lastTime : TimeOfDay :=
  ⟨23, 59, 59, 999999, by decide, by decide, by decide, by decide⟩

def calendarMember? (d : Date) (name : String) : Option Part :=
  match name with
  | "year" => some (ofNat d.year)
  | "month" => some (ofNat d.month)
  | "day" => some (ofNat d.day)
  | _ => none

def dateMember? (d : Date) (name : String) : Option Part :=
  match name with
  | "min" => some (ofValue (.date firstDate))
  | "max" => some (ofValue (.date lastDate))
  | "resolution" => some (timeDelta "1 day, 0:00:00" "days=1")
  | name => calendarMember? d name

def dateTimeMember? (d : DateTime) (name : String) : Option Part :=
  match name with
  | "hour" => some (ofNat d.time.hour)
  | "minute" => some (ofNat d.time.minute)
  | "second" => some (ofNat d.time.second)
  | "microsecond" => some (ofNat d.time.microsecond)
  | "fold" => some (ofNat 0)
  | "tzinfo" => some (if d.zone = .absent then ofValue .null else .zone d.zone)
  | "min" => some (ofValue (.dateTime (.ofDate firstDate)))
  | "max" => some (ofValue (.dateTime ⟨lastDate, lastTime, .absent⟩))
  | "resolution" => some (timeDelta "0:00:00.000001" "microseconds=1")
  | name => calendarMember? d.date name

def zoneMember? (name : String) : Option Part :=
  match name with
  | "utc" => some (.zone (.fixed ⟨0, by decide⟩ none))
  | "min" => some (.zone (.fixed ⟨-86340, by decide⟩ none))
  | "max" => some (.zone (.fixed ⟨86340, by decide⟩ none))
  | _ => none

def bytesMember? (items : List View) (name : String) : Option Part :=
  let row (n : Nat) : Part := .view (sequenceView .tuple [.int n none] [leaf (.int n none)])
  match name with
  | "nbytes" => some (ofNat items.length)
  | "itemsize" | "ndim" => some (ofNat 1)
  | "format" => some (ofText "B")
  | "readonly" | "contiguous" | "c_contiguous" | "f_contiguous" => some (ofBool true)
  | "shape" => some (row items.length)
  | "strides" => some (row 1)
  | "suboffsets" => some (.view (sequenceView .tuple [] []))
  | _ => none

def viewMember? (v : View) (name : String) : Option Part :=
  match v.value, name with
  | .bool b, name => integerMember? (if b then 1 else 0) name
  | .int n _, name => integerMember? n name
  | .float x _, "real" => some (ofValue (.float x none))
  | .float .., "imag" => some (ofValue (.float (.zero false) none))
  | .decimal d, "real" => some (ofValue (.decimal d))
  | .decimal _, "imag" => some (ofValue (.decimal (.finite false 0 0)))
  | .date d, name => dateMember? d name
  | .dateTime d, name => dateTimeMember? d name
  | .wrappedText t, "data" => some (ofText t)
  | .fragment t, "value" | .phrase t, "value" => some (ofText t)
  | .fragment _, "EMPTY" => some (ofValue (.fragment []))
  | .phrase _, "EMPTY" => some (ofValue (.phrase []))
  | .template format _, "format" | .compiled format _, "format" => some (ofText format)
  | .compiled _ finalQuery, "final_query" => some (ofText finalQuery)
  | .template _ arguments, "arguments" => some (.view (sequenceView .tuple arguments v.items))
  | .sequence .wrappedList items, "data" => some (.view (sequenceView .list items v.items))
  | .cycle .wrappedList before, "data" =>
    let shown := cycleText .list v.items
    some (.view (.uniform (.sequence .list (before ++ [v.value])) shown (v.items ++ [v])))
  | .sequence .deque _, "maxlen" | .cycle .deque _, "maxlen" => some (ofValue .null)
  | .sequence .bytesView _, name => bytesMember? v.items name
  | .range start _ _, "start" => some (ofValue (.int start none))
  | .range _ stop _, "stop" => some (ofValue (.int stop none))
  | .range _ _ step, "step" => some (ofValue (.int step none))
  | _, _ => none

def kindMember? (k : Kind) (name : String) : Option Part :=
  match name with
  | "__name__" | "__qualname__" => some (ofText k.name)
  | "__module__" => some (ofText (k.home.getD "builtins"))
  | _ => none

def memberOf (part : Part) (name : List Char) : Except Fault Part :=
  let name := String.ofList name
  if name.isEmpty then
    .error .emptyAccessor
  else if name = "__class__" then
    .ok (.kind part.kindOf)
  else
    match part with
    | .view v =>
      match viewMember? v name, v.value with
      | some member, _ => .ok member
      | none, .template .. => .error (.noTemplateAttribute name)
      | none, _ => .error (.noAttribute part.kindOf.longName name)
    | .zone _ =>
      match zoneMember? name with
      | some member => .ok member
      | none => .error (.noAttribute part.kindOf.longName name)
    | .kind k =>
      match kindMember? k name with
      | some member => .ok member
      | none => .error (.noKindAttribute k.longName name)

end Part
end Display
end Soql
