import Soql.Request.Settings
import Soql.Query.Operand
import Soql.Url.Reference

/-!
This module contains the description of requests that carry a query in their URL, and of those that
fetch the next page of an answer. Nothing is sent. Every request that is described is logged first.
-/

namespace Soql

inductive RequestKind where
  | query
  | search
  deriving DecidableEq

namespace RequestKind

def name : RequestKind → String
  | .query => "query"
  | .search => "search"

end RequestKind

structure LogRecord where
  level : String
  message : Text
  deriving DecidableEq

inductive RequestError where
  | compile (e : Error)
  /-- A query that has no form in a URL. -/
  | encoding (u : Text.Unencodable)
  | url (fault : Url.Fault)
  /-- Something else stands for the template or the connection. -/
  | operand (fault : OperandFault)
  deriving DecidableEq

namespace RequestError

def message : RequestError → Text
  | .compile e => e.message
  | .encoding u => u.message
  | .url fault => fault.message
  | .operand fault => fault.message

end RequestError

/--
A computation that may fail and writes log records, which stay when it fails.
-/
abbrev Logged (α : Type) := List LogRecord × Except RequestError α

structure Request where
  kind : RequestKind
  compiled : CompiledQuery
  apiVersion : String
  path : String
  url : String
  deriving DecidableEq

namespace ClientConfig

/--
The URL that relative paths continue: it ends in exactly one slash.
-/
def base (config : ClientConfig) : List Char :=
  (config.instanceUrl.text.toList.reverse.dropWhile (· == '/')).reverse ++ ['/']

end ClientConfig

namespace Request

def logRecord (kind : RequestKind) (compiled : CompiledQuery) : LogRecord :=
  let what := match kind with
    | .query => "Executing SOQL query: "
    | .search => "Executing SOSL search: "
  ⟨"DEBUG", what ++ compiled.finalQuery ++ ", parameterized from: " ++ compiled.format⟩

def pathOf (kind : RequestKind) (version : ApiVersion) (encoded : List Char) : List Char :=
  "services/data/".toList ++ version.text.toList ++ '/' :: kind.name.toList ++ "/?q=".toList
    ++ encoded

def describe (kind : RequestKind) (config : ClientConfig) (version : ApiVersion)
    (compiled : CompiledQuery) : Except RequestError Request := do
  let encoded ← (Url.percentEncode compiled.finalQuery).mapError .encoding
  let path := pathOf kind version encoded
  let url ← (Url.resolve config.base path).mapError .url
  return ⟨kind, compiled, version.text, String.ofList path, String.ofList url⟩

def build (kind : RequestKind) (template : Option Template) (config : Option ClientConfig)
    (options : Option RequestOptions) : Logged Request :=
  match template, config with
  | none, _ => ([], .error (.compile (.absent "template")))
  | some _, none => ([], .error (.compile (.absent "config")))
  | some template, some config =>
    let options := options.getD .default
    match template.compile options.skipTrim with
    | .error e => ([], .error (.compile e))
    | .ok compiled =>
      ([logRecord kind compiled],
        describe kind config (options.apiVersion.getD config.apiVersion) compiled)

/--
The request for what stands for a template. A value that is none fails as soon as it is compiled.
-/
def buildOf (kind : RequestKind) (v : Value) (config : Option ClientConfig)
    (options : Option RequestOptions) : Logged Request :=
  match v, config with
  | .null, _ => build kind none config options
  | .template format arguments, _ => build kind (some ⟨format, arguments⟩) config options
  | _, none => build kind (some .empty) none options
  | v, some _ => ([], .error (.operand (v.compileFault (options.getD .default).skipTrim)))

end Request

/--
The URL of the next page, where the answer refers to one. A connection is needed only then.
-/
def nextPage (config : Option ClientConfig) (next : Option String) : Logged (Option String) :=
  match next with
  | none => ([], .ok none)
  | some next =>
    if next.isEmpty then
      ([], .ok none)
    else
      let record := ⟨"DEBUG", "Requesting next page for SOQL query: " ++ next⟩
      match config with
      | none => ([record], .error (.operand (.noAttribute "NoneType" "instance_url")))
      | some config =>
        match Url.resolve config.base next.toList with
        | .ok url => ([record], .ok (some (String.ofList url)))
        | .error fault => ([record], .error (.url fault))

end Soql
