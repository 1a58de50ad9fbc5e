import Soql.Value
import Soql.Number.Rounding

/-!
This module contains the equality of values: numbers are equal if they denote the same number, texts
if they read the same, points in time if they are the same moment, and sequences if they are alike
and hold equal items.
-/

namespace Soql

/--
A number in a form that no other number shares: `± digits · 10 ^ exponent` without zeros at either
end of the digits. Zero has no digits, no sign and the exponent zero.
-/
structure ExactNumber where
  negative : Bool
  digits : List Char
  exponent : Int
  deriving DecidableEq

namespace ExactNumber

def ofDecimal (negative : Bool) (coefficient : Nat) (exponent : Int) : ExactNumber :=
  if coefficient = 0 then
    ⟨false, [], 0⟩
  else
    let all := Nat.toDigits 10 coefficient
    let digits := Number.dropTrailingZeros all
    ⟨negative, digits, exponent + (all.length - digits.length : Nat)⟩

def ofInt (n : Int) : ExactNumber :=
  ofDecimal (n < 0) n.natAbs 0

/--
Half a unit is five tenths, so that a negative power of two is one of ten with fives.
-/
def ofBinary (negative : Bool) (significand : Nat) (exponent : Int) : ExactNumber :=
  if 0 ≤ exponent then ofDecimal negative (significand * Nat.pow 2 exponent.toNat) 0
  else ofDecimal negative (significand * Nat.pow 5 (-exponent).toNat) exponent

end ExactNumber

namespace DateTime

/--
Seconds and microseconds since the beginning of the year 1, in universal time where the offset is
known.
-/
def instant (d : DateTime) : Int × Nat :=
  let minutes := d.date.dayNumber * 1440 + d.time.hour * 60 + d.time.minute
  let seconds : Int := (minutes * 60 + d.time.second : Nat)
  (seconds - (d.zone.offset?.map Offset.seconds).getD 0, d.time.microsecond)

def sameMoment (a b : DateTime) : Bool :=
  a.zone.offset?.isSome == b.zone.offset?.isSome && a.instant == b.instant

end DateTime

namespace SequenceKind

def isLike : SequenceKind → SequenceKind → Bool
  | .list, .wrappedList | .wrappedList, .list => true
  | a, b => a == b

end SequenceKind

namespace Value

def exactNumber? : Value → Option ExactNumber
  | .bool b => some (.ofInt (if b then 1 else 0))
  | .int n _ => some (.ofInt n)
  | .float (.finite negative significand exponent) _ =>
    some (.ofBinary negative significand exponent)
  | .decimal (.finite negative coefficient exponent) =>
    some (.ofDecimal negative coefficient exponent)
  | _ => none

def infinite? : Value → Option Bool
  | .float (.infinite negative) _ => some negative
  | .decimal (.infinite negative) => some negative
  | _ => none

def isEmptySet : Value → Bool
  | .foreign kind _ (some []) => ["set", "frozenset", "dict_keys"].contains kind
  | _ => false

def isUnique (kind : String) : Bool :=
  ["object", "generator", "list_iterator"].contains kind

def sameRange (start stop step start' stop' step' : Int) : Bool :=
  let count := rangeCount start stop step
  count == rangeCount start' stop' step'
    && (count == 0 || (start == start' && (count == 1 || step == step')))

/--
A decimal that signals cannot be compared with a number.
-/
def isSignalling : Value → Bool
  | .decimal (.nan _ signalling _) => signalling
  | _ => false

def isNumber : Value → Bool
  | .bool _ | .int .. | .float .. | .decimal _ => true
  | _ => false

def scalarEqual (a b : Value) : Bool :=
  match a, b with
  | .null, .null => true
  | .date a, .date b => a == b
  | .dateTime a, .dateTime b => a.sameMoment b
  | .fragment a, .fragment b => a == b
  | .phrase a, .phrase b => a == b
  | .octets _ a, .octets _ b => a == b
  | .range start stop step, .range start' stop' step' =>
    sameRange start stop step start' stop' step'
  | .compiled format query, .compiled format' query' => format == format' && query == query'
  | a, b =>
    match a.exactNumber?, b.exactNumber? with
    | some m, some n => m == n
    | _, _ =>
      (a.text?.isSome && a.text? == b.text?)
        || (a.infinite?.isSome && a.infinite? == b.infinite?)

def foreignEqual (a b : Value) : Bool :=
  match a, b with
  | .foreign kind shown _, .foreign kind' shown' _ =>
    (kind == kind' && shown == shown' && !isUnique kind) || (a.isEmptySet && b.isEmptySet)
  | _, _ => false

mutual

/--
Whether two values are equal, or none if comparing them signals.
-/
def equal : Value → Value → Option Bool
  | .template format arguments, .template format' arguments' =>
    if format == format' then equalAll arguments arguments' else some false
  | .sequence kind items, .sequence kind' items' =>
    -- Note: only tuples of different lengths are compared item by item.
    if !kind.isLike kind' || (kind != .tuple && items.length != items'.length) then some false
    else equalAll items items'
  | .table names values, .table names' values' =>
    if names == names' then equalAll values values' else some false
  | a, b =>
    if (a.isSignalling && b.isNumber) || (a.isNumber && b.isSignalling) then none
    else some (scalarEqual a b || foreignEqual a b)

def equalAll : List Value → List Value → Option Bool
  | [], [] => some true
  | a :: as, b :: bs =>
    match equal a b with
    | some true => equalAll as bs
    | other => other
  | _, _ => some false

end

end Value
end Soql
