import Soql.Kind
import Soql.Query.Compile
import Soql.Template.Merge

/-!
This module contains what becomes of values that stand where a template should. Some of them have a
format, and one that is no text; none has both a format and arguments. What is missing is found out
only when it is used, so that other faults can come first.
-/

namespace Soql

inductive OperandFault where
  | compile (e : Error)
  | noAttribute (kind name : String)
  /-- A format that is not a text but an operation of this kind. -/
  | notText (kind : String)
  deriving DecidableEq

namespace OperandFault

def message : OperandFault → Text
  | .compile e => e.message
  | .noAttribute kind name => "'" ++ kind ++ "' object has no attribute '" ++ name ++ "'"
  | .notText kind => "expected str, got " ++ kind

end OperandFault

namespace Value

def formatOf : Value → Except OperandFault String
  | .template format _ => .ok format
  | .compiled format _ => .ok format
  | .sequence .bytesView _ => .ok "B"
  | .text _ => .error (.notText "builtin_function_or_method")
  | .wrappedText _ => .error (.notText "method")
  | v => .error (.noAttribute v.longKind "format")

def argumentsOf : Value → Except OperandFault (List Value)
  | .template _ arguments => .ok arguments
  | v => .error (.noAttribute v.longKind "arguments")

/--
Why a value that is no template does not compile. Its arguments are asked for once its format
is read.
-/
def compileFault (keepBlanks : Bool) (v : Value) : OperandFault :=
  let segments : Except OperandFault (List Segment) := do
    let normalized ← (normalize keepBlanks (← v.formatOf)).mapError .compile
    (Segment.parse normalized).mapError .compile
  match segments with
  | .error fault => fault
  | .ok _ => .noAttribute v.longKind "arguments"

def compile (keepBlanks : Bool) : Value → Except OperandFault CompiledQuery
  | .template format arguments =>
    ((Template.mk format arguments).compile keepBlanks).mapError .compile
  | .null => .error (.compile (.absent "template"))
  | v => .error (v.compileFault keepBlanks)

/--
Merges what stands for templates. The second one is looked at once the first one is renumbered.
-/
def merge (current next : Value) : Except OperandFault Template := do
  let first ← current.argumentsOf
  let head ← (renumber (← current.formatOf) 0).mapError .compile
  let tail ← (renumber (← next.formatOf) first.length).mapError .compile
  return ⟨head ++ tail, first ++ (← next.argumentsOf)⟩

theorem merge_toValue (current next : Template) :
    current.toValue.merge next.toValue = (current.merge next).mapError .compile := by
  simp only [merge, Template.toValue, argumentsOf, formatOf, Template.merge, bind, Except.bind]
  cases renumber current.format 0 with
  | error => rfl
  | ok head => cases renumber next.format current.arguments.length <;> rfl

def mergePresent (current next : Value) : Except OperandFault Template :=
  match current, next with
  | .null, _ => .error (.compile (.absent "current"))
  | _, .null => .error (.compile (.absent "next"))
  | current, next => current.merge next

end Value
end Soql
