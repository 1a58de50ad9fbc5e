import Soql.Display.Fault
import Soql.Query.Literal
import Soql.Kind
import Soql.Number.Pattern.Text

/-!
This module contains views of values: all that debug text can show of a value. A value has a plain
display and a quoted one, which tells texts from other values, and some values have parts.
-/

namespace Soql

/--
A value with its displays, and the views of its items. A display that cannot be made is a fault only
once it is asked for.
-/
inductive View where
  | mk (value : Value) (plain : Except Display.Fault Text) (quoted : Except Display.Fault String)
    (items : List View)

namespace View

def value : View → Value
  | mk v .. => v

def plain : View → Except Display.Fault Text
  | mk _ plain .. => plain

def quoted : View → Except Display.Fault String
  | mk _ _ quoted _ => quoted

def items : View → List View
  | mk _ _ _ items => items

def ofText (t : Text) : View :=
  mk (.text t) (.ok t) (.ok (Text.quoted t)) []

def uniform (value : Value) (shown : Except Display.Fault String) (items : List View) : View :=
  mk value (shown.map Text.ofString) shown items

end View

namespace Display

def commaSeparated (texts : List String) : String :=
  String.ofList ([',', ' '].intercalate (texts.map String.toList))

def tupleText (texts : List String) : String :=
  match texts with
  | [text] => "(" ++ text ++ ",)"
  | texts => "(" ++ commaSeparated texts ++ ")"

def listText (texts : List String) : String :=
  "[" ++ commaSeparated texts ++ "]"

def intShown (n : Int) : String :=
  String.ofList (intText n)

def writable (n : Int) : Except Fault String :=
  if isWritable n then .ok (intShown n) else .error .integerTooLong

def call (name : String) (arguments : List String) : String :=
  name ++ "(" ++ commaSeparated arguments ++ ")"

def natTexts (ns : List Nat) : List String :=
  ns.map fun n => String.ofList (Nat.toDigits 10 n)

def dateQuoted (d : Date) : String :=
  call "datetime.date" (natTexts [d.year, d.month, d.day])

def offsetQuoted (o : Offset) : String :=
  let days := if o.seconds < 0 then ["days=-1"] else []
  let rest := o.seconds % 86400
  let seconds := if rest = 0 then [] else ["seconds=" ++ intShown rest]
  let parts := days ++ seconds
  call "datetime.timedelta" (if parts.isEmpty then ["0"] else parts)

def zoneText : Zone → String
  | .absent => "None"
  | .unknown => "<unknown>"
  | .fixed offset none =>
    if offset.seconds = 0 then "datetime.timezone.utc"
    else call "datetime.timezone" [offsetQuoted offset]
  | .fixed offset (some name) => call "datetime.timezone" [offsetQuoted offset, Text.quoted name]

def zoneQuoted (z : Zone) : List String :=
  if z = .absent then [] else ["tzinfo=" ++ zoneText z]

/--
Seconds and microseconds are left out if nothing but zeros follows.
-/
def dateTimeQuoted (d : DateTime) : String :=
  let seconds := if d.time.second = 0 && d.time.microsecond = 0 then [] else [d.time.second]
  let micros := if d.time.microsecond = 0 then [] else [d.time.microsecond]
  let numbers := [d.date.year, d.date.month, d.date.day, d.time.hour, d.time.minute]
  call "datetime.datetime" (natTexts (numbers ++ seconds ++ micros) ++ zoneQuoted d.zone)

def templateQuoted (format : String) (arguments : List String) : String :=
  call "QueryTemplate" ["format=" ++ Text.quoted format, "arguments=" ++ tupleText arguments]

def sequenceText (kind : SequenceKind) (texts : List String) : String :=
  match kind with
  | .list | .wrappedList => listText texts
  | .tuple => tupleText texts
  | .deque => call "deque" [listText texts]
  | .bytesView => "<memory>"
  | .array => call "array" ("'i'" :: if texts.isEmpty then [] else [listText texts])

def rangeText (start stop step : Int) : String :=
  call "range" ([intShown start, intShown stop] ++ if step = 1 then [] else [intShown step])

def octetsText (mutable : Bool) (bytes : List UInt8) : String :=
  let text :=
    String.ofList ('b' :: Text.Quoted.display true (bytes.map fun b => .ofCodePoint b.toNat))
  if mutable then call "bytearray" [text] else text

def tableText (names texts : List String) : String :=
  let entry (name text : String) := Text.quoted name ++ ": " ++ text
  "\x7b" ++ commaSeparated (names.zipWith entry texts) ++ "\x7d"

def scalarText : Value → Except Fault String
  | .null => .ok "None"
  | .bool b => .ok (if b then "True" else "False")
  | .int _ (some label) => .ok label.shown
  | .int n none => writable n
  | .float _ (some label) => .ok label.shown
  | .float x none => .ok x.text
  | .fragment t => .ok (call "EscapedQuery" ["value=" ++ Text.quoted t])
  | .phrase t => .ok (call "EscapedSoslQuery" ["value=" ++ Text.quoted t])
  | .range start stop step => .ok (rangeText start stop step)
  | .octets mutable bytes => .ok (octetsText mutable bytes)
  | .foreign _ shown _ => .ok shown
  | _ => .ok ""

def leaf : Value → View
  | .text t => View.ofText t
  | .wrappedText t => .mk (.wrappedText t) (.ok t) (.ok (Text.quoted t)) []
  | .decimal d => .mk (.decimal d) (.ok d.text) (.ok d.shown) []
  | .date d => .mk (.date d) (.ok (Text.ofChars d.text)) (.ok (dateQuoted d)) []
  | .dateTime d =>
    .mk (.dateTime d) (.ok (Text.ofChars (d.text ' ' false))) (.ok (dateTimeQuoted d)) []
  | .compiled format finalQuery =>
    .mk (.compiled format finalQuery) (.ok finalQuery)
      (.ok (call "CompiledQuery"
        ["format=" ++ Text.quoted format, "final_query=" ++ Text.quoted finalQuery])) []
  | v => .uniform v (scalarText v) []

def sequenceView (kind : SequenceKind) (values : List Value) (items : List View) : View :=
  let shown : Except Fault String := do
    let texts ← items.mapM View.quoted
    return sequenceText kind texts
  .uniform (.sequence kind values) shown items

/--
The display of a sequence that ends in itself, which stands in it as an ellipsis.
-/
def cycleText (kind : SequenceKind) (items : List View) : Except Fault String := do
  let texts ← items.mapM View.quoted
  return sequenceText kind (texts ++ ["[...]"])

end Display
end Soql
