import Soql.Session.Equality
import Soql.Query.Operand
import Soql.Display.Template
import Soql.Request.Field

/-!
This module contains sessions: sequences of steps that make templates and builders, name them, and
use what they have named. An object keeps its identity under all of its names, so that a step can
tell the same object from an equal one.
-/

namespace Soql
namespace Session

/--
Some objects exist only once; every other one is told by a number.
-/
inductive Identity where
  | nothing
  | truth (b : Bool)
  | emptyBuilder
  | emptyTemplate
  | emptyPhrase
  | unique (n : Nat)
  deriving DecidableEq

structure Object where
  identity : Identity
  value : Value
  /-- The identity of the template in a builder. -/
  inner : Identity
  /-- The identities of the arguments of a template. -/
  parts : List Identity

structure State where
  /-- What the names stand for, the latest first. -/
  bindings : List (String × Object)
  /-- The number of the next object. -/
  next : Nat

namespace State

def empty : State :=
  ⟨[], 0⟩

def lookup? (s : State) (name : String) : Option Object :=
  s.bindings.lookup name

def bind (s : State) (name : String) (o : Object) : State :=
  { s with bindings := (name, o) :: s.bindings }

def makeOf (s : State) (parts : List Identity) (v : Value) : Object × State :=
  (⟨.unique s.next, v, .unique (s.next + 1), parts⟩, { s with next := s.next + 2 })

def make (s : State) (v : Value) : Object × State :=
  let count := match v with
    | .template _ arguments => arguments.length
    | _ => 0
  let parts := (List.range count).map fun i => .unique (s.next + i)
  makeOf { s with next := s.next + count } parts v

end State

inductive Operand where
  | register (name : String)
  | literal (v : Value)
  /-- The fragment that stands for an absent phrase. -/
  | noPhrase

inductive Failure where
  | operand (fault : OperandFault)
  | display (fault : Display.Fault)
  | invalid (e : InvalidFields)
  | frozenField (name : String)
  | notAddable (message : String)
  /-- Two values, or their parts, that cannot be compared. -/
  | notComparable
  | unbound (name : String)

namespace Failure

def message : Failure → Text
  | .operand fault => fault.message
  | .display fault => fault.message
  | .invalid e => e.record
  | .frozenField name => "cannot assign to field " ++ Text.quoted name
  | .notAddable message => message
  | .notComparable => "[<class 'decimal.InvalidOperation'>]"
  | .unbound name => Text.quoted name

end Failure

inductive Outcome where
  | template (t : Template)
  | compiled (c : CompiledQuery)
  | indices (ns : List Int)
  | text (t : Text)
  | truth (b : Bool)
  | nothing

inductive Step where
  | template (of : Operand)
  | inspect (of : Operand)
  | empty
  | new (source : Operand)
  | fromTemplate (source : Operand)
  | add (target next : Operand)
  | build (of : Operand)
  | merge (current next : Operand)
  | plus (left right : Operand)
  | compile (of : Operand) (keepBlanks : Bool)
  | indices (of : Operand)
  | plain (of : Operand)
  | quoted (of : Operand)
  | equal (left right : Operand)
  | same (left right : Operand)
  | assign (of : Operand) (field : String)

def truth (b : Bool) : Object :=
  ⟨.truth b, .bool b, .nothing, []⟩

def resolve (s : State) : Operand → Except Failure (Object × State)
  | .register name =>
    match s.lookup? name with
    | some o => .ok (o, s)
    | none => .error (.unbound name)
  | .noPhrase => .ok (⟨.emptyPhrase, .phrase [], .nothing, []⟩, s)
  | .literal .null => .ok (⟨.nothing, .null, .nothing, []⟩, s)
  | .literal (.bool b) => .ok (truth b, s)
  | .literal v => .ok (s.make v)

def emptyBuilder : Object :=
  ⟨.emptyBuilder, .builder "" [], .emptyTemplate, []⟩

def noAttribute (o : Object) (name : String) : Failure :=
  .operand (.noAttribute o.value.longKind name)

/--
The template that an object is, where `member` is what a step would look up in it first.
-/
def templateOf (member : String) (o : Object) : Except Failure Template :=
  match o.value with
  | .template format arguments => .ok ⟨format, arguments⟩
  | _ => .error (noAttribute o member)

def builderOf (member : String) (o : Object) : Except Failure Builder :=
  match o.value with
  | .builder format arguments => .ok ⟨⟨format, arguments⟩⟩
  | _ => .error (noAttribute o member)

def present (parameter : String) (o : Object) : Except Failure Object :=
  match o.value with
  | .null => .error (.operand (.compile (.absent parameter)))
  | _ => .ok o

def outcomeOf (o : Object) : Outcome :=
  match o.value with
  | .template format arguments | .builder format arguments => .template ⟨format, arguments⟩
  | .compiled format finalQuery => .compiled ⟨format, finalQuery⟩
  | .text t => .text t
  | .bool b => .truth b
  | _ => .nothing

abbrev Result := Except Failure (Outcome × Object × State)

def give (s : State) (o : Object) : Result :=
  .ok (outcomeOf o, o, s)

def giveNew (s : State) (v : Value) : Result :=
  let (o, s) := s.make v
  give s o

def giveBuilder (s : State) (o : Object) : Result := do
  let t ← templateOf "format" o
  let (builder, s) := s.makeOf o.parts (.builder t.format t.arguments)
  give s { builder with inner := o.identity }

def mergeObjects (s : State) (current next : Object) : Result := do
  let merged ← (current.value.merge next.value).mapError .operand
  let (o, s) := s.makeOf (current.parts ++ next.parts) merged.toValue
  give s o

/--
Whether objects are equal, as far as the identity of their arguments decides it; their values decide
on the rest.
-/
def equalParts : List Identity → List Identity → List Value → List Value → Option Bool
  | i :: is, j :: js, a :: as, b :: bs =>
    if i == j then
      equalParts is js as bs
    else
      match a.equal b with
      | some true => equalParts is js as bs
      | other => other
  | _, _, as, bs => some (as.isEmpty && bs.isEmpty)

def equalObjects (left right : Object) : Option Bool :=
  if left.identity == right.identity then
    some true
  else
    match left.value, right.value with
    | .template format arguments, .template format' arguments' =>
      if format == format' then equalParts left.parts right.parts arguments arguments'
      else some false
    | a, b => a.equal b

/--
Why two objects cannot be added: some kinds can take more of their own kind only, and say so.
-/
def notAddable (left right : Object) : Failure :=
  let kind := right.value.longKind
  let concatenate (own : String) : Failure :=
    .notAddable ("can only concatenate " ++ own ++ " (not \"" ++ kind ++ "\") to " ++ own)
  match left.value with
  | .text _ => concatenate "str"
  | .sequence .list _ | .cycle .list _ => concatenate "list"
  | .sequence .tuple _ => concatenate "tuple"
  | .sequence .deque _ | .cycle .deque _ => concatenate "deque"
  | v =>
    .notAddable ("unsupported operand type(s) for +: '" ++ v.longKind ++ "' and '" ++ kind ++ "'")

def run (s : State) : Step → Result
  | .template operand | .inspect operand => do
    let (o, s) ← resolve s operand
    give s o
  | .empty => give s emptyBuilder
  | .new source => do
    let (o, s) ← resolve s source
    match o.value with
    | .null => giveNew s (.builder "" [])
    | _ => giveBuilder s o
  | .fromTemplate source => do
    let (o, s) ← resolve s source
    giveBuilder s (← present "template" o)
  | .add target next => do
    let (target, s) ← resolve s target
    let (next, s) ← resolve s next
    let builder ← builderOf "add" target
    let next ← present "next" next
    let merged ← (builder.build.toValue.merge next.value).mapError .operand
    let (o, s) := s.makeOf (target.parts ++ next.parts) (.builder merged.format merged.arguments)
    give s o
  | .build operand => do
    let (o, s) ← resolve s operand
    let builder ← builderOf "build" o
    give s ⟨o.inner, builder.build.toValue, .nothing, o.parts⟩
  | .merge current next => do
    let (current, s) ← resolve s current
    let (next, s) ← resolve s next
    let current ← present "current" current
    let next ← present "next" next
    mergeObjects s current next
  | .plus left right => do
    let (left, s) ← resolve s left
    let (right, s) ← resolve s right
    match left.value, right.value with
    | .template .., .template .. => mergeObjects s left right
    | _, _ => throw (notAddable left right)
  | .compile operand keepBlanks => do
    let (o, s) ← resolve s operand
    let c ← (o.value.compile keepBlanks).mapError .operand
    giveNew s (.compiled c.format c.finalQuery)
  | .indices operand => do
    let (o, s) ← resolve s operand
    let t ← templateOf "placeholder_indices" o
    let indices ← (placeholderIndices t.format).mapError (.operand ∘ .compile)
    let (o, s) := s.make (.sequence .list (indices.map fun n => .int n none))
    return (.indices indices, o, s)
  | .plain operand => do
    let (o, s) ← resolve s operand
    giveNew s (.text (← (Display.view o.value).plain.mapError .display))
  | .quoted operand => do
    let (o, s) ← resolve s operand
    giveNew s (.text (← (Display.view o.value).quoted.mapError .display))
  | .equal left right => do
    let (left, s) ← resolve s left
    let (right, s) ← resolve s right
    match equalObjects left right with
    | some b => give s (truth b)
    | none => throw .notComparable
  | .same left right => do
    let (left, s) ← resolve s left
    let (right, s) ← resolve s right
    give s (truth (left.identity == right.identity))
  | .assign operand field => do
    let (o, _) ← resolve s operand
    match o.value with
    | .template .. => throw (.invalid ⟨"QueryTemplate", [(field, .frozen)]⟩)
    | .fragment _ | .phrase _ | .compiled .. => throw (.frozenField field)
    | _ => throw (noAttribute o field)

/--
Runs a step and binds its result to a name, if there is one. A step that fails binds nothing.
-/
def step (s : State) (name : Option String) (what : Step) : Except Failure Outcome × State :=
  match run s what with
  | .error failure => (.error failure, s)
  | .ok (outcome, o, s) =>
    match name with
    | some name => (.ok outcome, s.bind name o)
    | none => (.ok outcome, s)

end Session
end Soql
