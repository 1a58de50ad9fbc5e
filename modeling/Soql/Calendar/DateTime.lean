import Soql.Calendar.Date

/-!
This module contains points in time: a date with a time of day, and a zone if one is known.
-/

namespace Soql

structure TimeOfDay where
  hour : Nat
  minute : Nat
  second : Nat
  microsecond : Nat
  hour_lt : hour < 24
  minute_lt : minute < 60
  second_lt : second < 60
  microsecond_lt : microsecond < 1000000
  deriving DecidableEq

namespace TimeOfDay

def midnight : TimeOfDay :=
  ⟨0, 0, 0, 0, by decide, by decide, by decide, by decide⟩

def ofParts? (hour minute second microsecond : Nat) : Option TimeOfDay :=
  if h : (hour < 24 ∧ minute < 60) ∧ (second < 60 ∧ microsecond < 1000000) then
    some ⟨hour, minute, second, microsecond, h.1.1, h.1.2, h.2.1, h.2.2⟩
  else
    none

def clockText (t : TimeOfDay) : List Char :=
  Date.digits 2 t.hour ++ ':' :: Date.digits 2 t.minute ++ ':' :: Date.digits 2 t.second

end TimeOfDay

/--
A difference from universal time in whole seconds, less than a day in either direction. Positive
offsets lie to the east.
-/
structure Offset where
  seconds : Int
  natAbs_lt : seconds.natAbs < 86400
  deriving DecidableEq

namespace Offset

def ofSeconds? (seconds : Int) : Option Offset :=
  if h : seconds.natAbs < 86400 then some ⟨seconds, h⟩ else none

def text (separator : List Char) (o : Offset) : List Char :=
  let n := o.seconds.natAbs
  (if o.seconds < 0 then '-' else '+') :: Date.digits 2 (n / 3600)
    ++ separator ++ Date.digits 2 (n / 60 % 60)
    ++ if n % 60 = 0 then [] else separator ++ Date.digits 2 (n % 60)

def defaultName (o : Offset) : String :=
  if o.seconds = 0 then "UTC" else String.ofList ("UTC".toList ++ o.text [':'])

end Offset

inductive Zone where
  | absent
  /-- A zone that tells neither its offset nor its name. -/
  | unknown
  | fixed (offset : Offset) (name : Option String)
  deriving DecidableEq

namespace Zone

def offset? : Zone → Option Offset
  | .fixed offset _ => some offset
  | _ => none

def name? : Zone → Option String
  | .fixed offset name => some (name.getD offset.defaultName)
  | _ => none

end Zone

structure DateTime where
  date : Date
  time : TimeOfDay
  zone : Zone
  deriving DecidableEq

namespace DateTime

def ofDate (date : Date) : DateTime :=
  ⟨date, .midnight, .absent⟩

/--
Date and time around a separator, and the offset where it is known. Microseconds are written if they
are not zero, or always where `micros` asks for them.
-/
def text (separator : Char) (micros : Bool) (d : DateTime) : List Char :=
  let fraction :=
    if micros || d.time.microsecond != 0 then '.' :: Date.digits 6 d.time.microsecond else []
  let offset := match d.zone.offset? with
    | some offset => offset.text [':']
    | none => []
  d.date.text ++ separator :: d.time.clockText ++ fraction ++ offset

end DateTime
end Soql
