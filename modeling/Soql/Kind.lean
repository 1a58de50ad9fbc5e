import Soql.Value

/-!
This module contains the kinds of values, as messages name them.
-/

namespace Soql

/--
A kind of values, by its name and the module that it belongs to. Messages name some kinds with their
module.
-/
structure Kind where
  name : String
  home : Option String
  longName : String
  deriving DecidableEq

namespace Kind

def builtin (name : String) : Kind :=
  ⟨name, none, name⟩

def ofModule (home name : String) : Kind :=
  ⟨name, some home, home ++ "." ++ name⟩

def collection (name : String) : Kind :=
  ⟨name, some "collections", name⟩

def ofValue (v : Value) : Kind :=
  match v with
  | .date _ | .dateTime _ => ofModule "datetime" v.kind
  | .decimal _ => ofModule "decimal" v.kind
  | .sequence .deque _ | .cycle .deque _ => ofModule "collections" v.kind
  | .sequence .array _ => ofModule "array" v.kind
  | .sequence .wrappedList _ | .cycle .wrappedList _ | .wrappedText _ => collection v.kind
  | .foreign kind .. =>
    if kind = "time" || kind = "timedelta" then ofModule "datetime" kind else builtin kind
  | v => builtin v.kind

def shown (k : Kind) : String :=
  "<class '" ++ (k.home.map (· ++ ".")).getD "" ++ k.name ++ "'>"

end Kind

namespace Value

def longKind (v : Value) : String :=
  (Kind.ofValue v).longName

end Value
end Soql
