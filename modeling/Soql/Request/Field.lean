import Soql.Number.Word
import Soql.Value
import Soql.Text.Quoted
import Soql.Text.Encoding

/-!
This module contains the reading of raw fields: named values from outside, of any kind, out of which
settings and templates are made. All faults of a set of fields are reported together, those of the
declared fields first.
-/

namespace Soql

abbrev Fields := List (String × Value)

inductive FieldFault where
  | missing
  | unexpected
  | notText
  /-- Bytes that are not the encoding of a text. -/
  | unreadableText
  | notBool
  | unreadableBool
  | notTuple
  | badVersion (given : String)
  | badUrl (given : String)
  | frozen
  deriving DecidableEq

namespace FieldFault

def code : FieldFault → String
  | .missing => "missing"
  | .unexpected => "extra_forbidden"
  | .notText => "string_type"
  | .unreadableText => "string_unicode"
  | .notBool => "bool_type"
  | .unreadableBool => "bool_parsing"
  | .notTuple => "tuple_type"
  | .badVersion _ | .badUrl _ => "value_error"
  | .frozen => "frozen_instance"

def message : FieldFault → String
  | .missing => "Field required"
  | .unexpected => "Extra inputs are not permitted"
  | .notText => "Input should be a valid string"
  | .unreadableText =>
    "Input should be a valid string, unable to parse raw data as a unicode string"
  | .notBool => "Input should be a valid boolean"
  | .unreadableBool => "Input should be a valid boolean, unable to interpret input"
  | .notTuple => "Input should be a valid tuple"
  | .badVersion given =>
    "Value error, API version must look like 'v58.0', got " ++ Text.quoted given
  | .badUrl given =>
    "Value error, instance_url must be an http(s) URL, got " ++ Text.quoted given
  | .frozen => "Instance is frozen"

end FieldFault

structure InvalidFields where
  record : String
  faults : List (String × FieldFault)
  deriving DecidableEq

namespace Fields

def get? (fields : Fields) (name : String) : Option Value :=
  fields.lookup name

def required (fields : Fields) (name : String) (read : Value → Except FieldFault α) :
    Except FieldFault α :=
  match fields.get? name with
  | some v => read v
  | none => .error .missing

def optional (fields : Fields) (name : String) (default : α) (read : Value → Except FieldFault α) :
    Except FieldFault α :=
  match fields.get? name with
  | some v => read v
  | none => .ok default

def faultOf (name : String) : Except FieldFault α → List (String × FieldFault)
  | .ok _ => []
  | .error fault => [(name, fault)]

def unexpected (fields : Fields) (declared : List String) : List (String × FieldFault) :=
  (fields.filter fun f => !declared.contains f.1).map fun f => (f.1, .unexpected)

end Fields

namespace Value

def textOfBytes? (bytes : List UInt8) : Option String :=
  String.fromUTF8? (ByteArray.mk bytes.toArray)

def readText : Value → Except FieldFault String
  | .text t => t.encode.mapError fun _ => .unreadableText
  | .octets _ bytes =>
    match textOfBytes? bytes with
    | some s => .ok s
    | none => .error .unreadableText
  | _ => .error .notText

def integerOf? : Binary64 → Option Int
  | .finite negative significand exponent =>
    let (num, den) := Binary64.ratio significand exponent
    if num % den = 0 then
      let n : Int := (num / den : Nat)
      some (if negative then -n else n)
    else
      none
  | _ => none

def truthOfWord? (word : String) : Option Bool :=
  if ["1", "t", "true", "y", "yes", "on"].contains word then some true
  else if ["0", "f", "false", "n", "no", "off"].contains word then some false
  else none

def truthOfInt (n : Int) : Except FieldFault Bool :=
  if n = 0 then .ok false
  else if n = 1 then .ok true
  else .error .unreadableBool

/--
Fractions are no truth values at all, and neither are numbers beyond a word of 64 bits.
-/
def truthOfBinary (x : Binary64) : Except FieldFault Bool :=
  match integerOf? x with
  | some n => if n.natAbs ≤ Number.maxWord then truthOfInt n else .error .notBool
  | none => .error .notBool

def truthOfText (s : String) : Except FieldFault Bool :=
  match truthOfWord? (String.ofList (s.toList.map Char.toLower)) with
  | some b => .ok b
  | none => .error .unreadableBool

def readBool : Value → Except FieldFault Bool
  | .bool b => .ok b
  | .text t =>
    match t.encode with
    | .ok s => truthOfText s
    | .error _ => .error .unreadableBool
  | .octets false bytes => ((textOfBytes? bytes).map truthOfText).getD (.error .unreadableBool)
  | .int n _ => if Number.isWord n then truthOfInt n else .error .notBool
  | .float x _ => truthOfBinary x
  | .decimal (.finite negative coefficient exponent) =>
    truthOfBinary (Binary64.ofNumeral ⟨negative, coefficient, exponent⟩)
  | .wrappedText t =>
    match t.encode.toOption.bind Binary64.ofText? with
    | some x => truthOfBinary x
    | none => .error .notBool
  | _ => .error .notBool

/--
Gathers the items of a value. A text is not a sequence of characters here, but a wrapped one is.
-/
def readTuple : Value → Except FieldFault (List Value)
  | .sequence _ items => .ok items
  | .range start stop step => .ok ((rangeItems start stop step).map fun n => .int n none)
  | .cycle kind before => .ok (before ++ [.cycle kind before])
  | .wrappedText t => .ok (t.map fun s => .wrappedText [s])
  | .template format arguments =>
    .ok [.sequence .tuple [.text "format", .text format],
      .sequence .tuple [.text "arguments", .sequence .tuple arguments]]
  | .foreign _ _ (some items) => .ok items
  | _ => .error .notTuple

end Value

namespace Template

/--
Makes a template from raw fields, without reading its format.
-/
def ofFields (fields : Fields) : Except InvalidFields Template :=
  let format := fields.optional "format" "" Value.readText
  let arguments := fields.optional "arguments" [] Value.readTuple
  let extras := fields.unexpected ["format", "arguments"]
  match format, arguments, extras with
  | .ok format, .ok arguments, [] => .ok ⟨format, arguments⟩
  | _, _, _ =>
    .error ⟨"QueryTemplate",
      Fields.faultOf "format" format ++ Fields.faultOf "arguments" arguments ++ extras⟩

end Template
end Soql
