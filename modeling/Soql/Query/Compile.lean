import Soql.Query.Quote
import Soql.Query.Literal
import Soql.Template.Segment

/-!
This module contains the compilation of templates into queries. Every argument is escaped by its
kind, whether a placeholder refers to it or not, and then substituted in a single pass: no text that
came from an argument is read again.

Compilation fails as a whole, on the first of these: format text that cannot be read, a placeholder
without argument, an argument that cannot be escaped, a pattern that does not apply.
-/

namespace Soql

structure CompiledQuery where
  /-- The format text that was compiled, its blanks collapsed and its placeholders numbered. -/
  format : String
  finalQuery : Text
  deriving DecidableEq

structure Plan where
  format : String
  segments : List Segment
  deriving DecidableEq

namespace Plan

def missing? (supplied : Nat) (segments : List Segment) : Option Int :=
  (Segment.indices segments).find? fun index => supplied ≤ index

def prepare (keepBlanks : Bool) (format : String) (supplied : Nat) : Except Error Plan := do
  let normalized ← normalize keepBlanks format
  let segments ← Segment.parse normalized
  match missing? supplied segments with
  | some index => throw (.badFormat format (.noArgument index supplied))
  | none => return ⟨normalized, segments⟩

/--
The text for a placeholder, where `bindings` pairs every argument with its escaped text.
-/
def substitute (bindings : List (Value × Text)) (p : Placeholder) : Except Error Text :=
  match bindings[p.index.toNat]? with
  | none => .ok []
  | some (argument, escaped) =>
    if p.spec.isEmpty then
      .ok escaped
    else
      (argument.patterned? (String.ofList p.spec)).getD (.ok escaped)

def substituteAll (bindings : List (Value × Text)) : List Segment → Except Error Text
  | [] => .ok []
  | ⟨literal, none⟩ :: segments => do
    let rest ← substituteAll bindings segments
    return Text.ofChars literal ++ rest
  | ⟨literal, some p⟩ :: segments => do
    let text ← substitute bindings p
    let rest ← substituteAll bindings segments
    return Text.ofChars literal ++ text ++ rest

def finish (plan : Plan) (arguments : List Value) (escaped : List Text) :
    Except Error CompiledQuery := do
  let query ← substituteAll (arguments.zip escaped) plan.segments
  return ⟨plan.format, query⟩

end Plan

def sequenceText (items : List Text) : Text :=
  .char '(' :: [.char ','].intercalate items ++ [.char ')']

mutual

/--
The text of a value in a query. Templates inside it are compiled with the same rule for blanks.
-/
def escape (keepBlanks : Bool) : Value → Except Error Text
  | .null => .ok "null"
  | .bool b => .ok (if b then "true" else "false")
  | .int n _ => Value.intLiteral n
  | .float x label => Value.floatLiteral x label
  | .decimal d => Value.decimalLiteral d
  | .date d => .ok (Text.ofChars d.text)
  | .dateTime d => .ok (Value.dateTimeLiteral d)
  | .text t => .ok (quote t)
  | .wrappedText t => .ok (quote t)
  | .fragment t => .ok t
  | .phrase t => .ok (.char '{' :: t ++ [.char '}'])
  | .template format arguments => do
    let plan ← Plan.prepare keepBlanks format arguments.length
    let escaped ← escapeAll keepBlanks arguments
    let compiled ← plan.finish arguments escaped
    return compiled.finalQuery
  | .sequence _ items => do
    let texts ← escapeAll keepBlanks items
    return sequenceText texts
  | .range start stop step => do
    let texts ← (Value.rangeItems start stop step).mapM Value.intLiteral
    return sequenceText texts
  | .cycle kind before => do
    let _ ← escapeAll keepBlanks before
    throw (.unescapable kind.toSequenceKind.name .containsItself)
  | .octets mutable bytes => .error (.unescapable (Value.octets mutable bytes).kind .withoutRule)
  | .table .. => .error (.unescapable "dict" .withoutRule)
  | .builder .. => .error (.unescapable "TemplateBuilder" .withoutRule)
  | .compiled .. => .error (.unescapable "CompiledQuery" .withoutRule)
  | .foreign kind .. => .error (.unescapable kind .withoutRule)

def escapeAll (keepBlanks : Bool) : List Value → Except Error (List Text)
  | [] => .ok []
  | v :: vs => do
    let text ← escape keepBlanks v
    let texts ← escapeAll keepBlanks vs
    return text :: texts

end

/--
Escapes a value under a pattern; the empty pattern is none.
-/
def escapeWith (keepBlanks : Bool) (pattern : String) (v : Value) : Except Error Text :=
  if pattern.isEmpty then escape keepBlanks v
  else (v.patterned? pattern).getD (escape keepBlanks v)

namespace Template

def compile (keepBlanks : Bool) (t : Template) : Except Error CompiledQuery := do
  let plan ← Plan.prepare keepBlanks t.format t.arguments.length
  let escaped ← escapeAll keepBlanks t.arguments
  plan.finish t.arguments escaped

end Template

theorem escape_toValue (keepBlanks : Bool) (t : Template) :
    escape keepBlanks t.toValue = (t.compile keepBlanks).map CompiledQuery.finalQuery := by
  simp only [Template.toValue, escape, Template.compile]
  cases Plan.prepare keepBlanks t.format t.arguments.length with
  | error => rfl
  | ok plan =>
    cases escapeAll keepBlanks t.arguments with
    | error => rfl
    | ok escaped =>
      simp only [bind, Except.bind]
      cases plan.finish t.arguments escaped <;> rfl

end Soql
