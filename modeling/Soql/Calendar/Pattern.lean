import Soql.Calendar.DateTime

/-!
This module contains date patterns: text in which directives stand for parts of a point in time. A
directive is `%[flags][width][modifier]code`.

A pattern is applied in two steps. The first fills in the parts that a zone and its microseconds
give; the second reads the text that results and fills in the parts of the calendar and the clock.
-/

namespace Soql
namespace DateTime

/--
Every percent sign is doubled, which protects it from the second step.
-/
def doublePercents (cs : List Char) : List Char :=
  cs.flatMap fun c => if c == '%' then ['%', '%'] else [c]

/--
The first step. Characters behind a percent sign are looked at in pairs with it, so that a doubled
one does not begin a directive.
-/
def fillZone (d : DateTime) : List Char → List Char
  | '%' :: 'z' :: cs => ((d.zone.offset?.map (Offset.text [])).getD []) ++ fillZone d cs
  | '%' :: 'Z' :: cs =>
    doublePercents ((d.zone.name?.map String.toList).getD []) ++ fillZone d cs
  | '%' :: 'f' :: cs => Date.digits 6 d.time.microsecond ++ fillZone d cs
  | '%' :: c :: cs => '%' :: c :: fillZone d cs
  | c :: cs => c :: fillZone d cs
  | [] => []

inductive Padding where
  | byCode
  | without
  | spaces
  | zeros
  deriving DecidableEq

structure Directive where
  padding : Padding
  upper : Bool
  changeCase : Bool
  width : Option Nat
  modifier : Option Char
  /-- Absent at the end of the pattern. -/
  code : Option Char
  deriving DecidableEq

namespace Directive

def plain : Directive :=
  ⟨.byCode, false, false, none, none, none⟩

def readFlags (t : Directive) : List Char → Directive × List Char
  | [] => (t, [])
  | c :: cs =>
    match c with
    | '_' => readFlags { t with padding := .spaces } cs
    | '-' => readFlags { t with padding := .without } cs
    | '0' => readFlags { t with padding := .zeros } cs
    | '^' => readFlags { t with upper := true } cs
    | '#' => readFlags { t with changeCase := true } cs
    | _ => (t, c :: cs)

/--
Reads a width. Widths that no text can have are cut to `limit`.
-/
def readWidth (limit : Nat) (width : Option Nat) : List Char → Option Nat × List Char
  | [] => (width, [])
  | c :: cs =>
    if '0' ≤ c && c ≤ '9' then
      readWidth limit (some (min limit (10 * width.getD 0 + (c.toNat - '0'.toNat)))) cs
    else
      (width, c :: cs)

def readModifier : List Char → Option Char × List Char
  | [] => (none, [])
  | c :: cs => if c == 'E' || c == 'O' then (some c, cs) else (none, c :: cs)

def read (limit : Nat) (cs : List Char) : Directive × List Char :=
  let (t, cs) := readFlags plain cs
  let (width, cs) := readWidth limit none cs
  let (modifier, cs) := readModifier cs
  match cs with
  | [] => ({ t with width, modifier }, [])
  | c :: cs => ({ t with width, modifier, code := some c }, cs)

theorem length_readFlags_le (t : Directive) (cs : List Char) :
    (readFlags t cs).2.length ≤ cs.length := by
  induction cs generalizing t with
  | nil => simp [readFlags]
  | cons c cs ih =>
    simp only [readFlags, List.length_cons]
    split <;> first | exact Nat.le_succ_of_le (ih _) | simp

theorem length_readWidth_le (limit : Nat) (width : Option Nat) (cs : List Char) :
    (readWidth limit width cs).2.length ≤ cs.length := by
  induction cs generalizing width with
  | nil => simp [readWidth]
  | cons c cs ih =>
    simp only [readWidth, List.length_cons]
    split
    . exact Nat.le_succ_of_le (ih _)
    . simp

theorem length_readModifier_le (cs : List Char) : (readModifier cs).2.length ≤ cs.length := by
  cases cs with
  | nil => simp [readModifier]
  | cons c cs => simp only [readModifier]; split <;> simp

theorem length_read_le (limit : Nat) (cs : List Char) : (read limit cs).2.length ≤ cs.length := by
  have h1 := length_readFlags_le plain cs
  have h2 := length_readWidth_le limit none (readFlags plain cs).2
  have h3 := length_readModifier_le (readWidth limit none (readFlags plain cs).2).2
  simp only [read]
  split
  . simp
  . next h =>
    rw [h] at h3
    simp only [List.length_cons] at h3 ⊢
    omega

def pad (t : Directive) (cs : List Char) : List Char :=
  cs.leftpad (t.width.getD 0) (if t.padding = .zeros then '0' else ' ')

def fit (t : Directive) (cs : List Char) : List Char :=
  t.pad (if t.upper then cs.map Char.toUpper else cs)

def number (t : Directive) (padding : Padding) (count n : Nat) : List Char :=
  let digits := Nat.toDigits 10 n
  let count := max count (t.width.getD 0)
  match if t.padding = .byCode then padding else t.padding with
  | .without => t.pad digits
  | .spaces => digits.leftpad count ' '
  | _ => digits.leftpad count '0'

end Directive

def weekdayNames : List String :=
  ["Monday", "Tuesday", "Wednesday", "Thursday", "Friday", "Saturday", "Sunday"]

def monthNames : List String :=
  ["January", "February", "March", "April", "May", "June", "July", "August", "September", "October",
    "November", "December"]

def weekdayName (d : DateTime) : List Char :=
  (weekdayNames.getD (d.date.weekday - 1) "").toList

def monthName (d : DateTime) : List Char :=
  (monthNames.getD (d.date.month - 1) "").toList

def hour12 (d : DateTime) : Nat :=
  if d.time.hour % 12 = 0 then 12 else d.time.hour % 12

def halfOfDay (d : DateTime) : List Char :=
  if d.time.hour < 12 then ['A', 'M'] else ['P', 'M']

def shortDate (d : DateTime) : List Char :=
  Date.digits 2 d.date.month ++ '/' :: Date.digits 2 d.date.day ++ '/'
    :: Date.digits 2 (d.date.year % 100)

def longText (d : DateTime) : List Char :=
  d.weekdayName.take 3 ++ ' ' :: d.monthName.take 3 ++ ' '
    :: (Nat.toDigits 10 d.date.day).leftpad 2 ' ' ++ ' ' :: d.time.clockText ++ ' '
    :: Nat.toDigits 10 d.date.year

/--
The codes that stand for a number, with the padding and the least number of digits of each.
-/
def numberOf? (d : DateTime) (code : Char) : Option (Padding × Nat × Nat) :=
  match code with
  | 'C' => some (.zeros, 1, d.date.year / 100)
  | 'd' => some (.zeros, 2, d.date.day)
  | 'e' => some (.spaces, 2, d.date.day)
  | 'H' => some (.zeros, 2, d.time.hour)
  | 'I' => some (.zeros, 2, d.hour12)
  | 'k' => some (.spaces, 2, d.time.hour)
  | 'l' => some (.spaces, 2, d.hour12)
  | 'j' => some (.zeros, 3, d.date.yearDay)
  | 'M' => some (.zeros, 2, d.time.minute)
  | 'm' => some (.zeros, 2, d.date.month)
  | 'S' => some (.zeros, 2, d.time.second)
  | 'u' => some (.zeros, 1, d.date.weekday)
  | 'w' => some (.zeros, 1, d.date.weekday % 7)
  | 'U' => some (.zeros, 2, d.date.weekFrom 7)
  | 'W' => some (.zeros, 2, d.date.weekFrom 1)
  | 'V' => some (.zeros, 2, d.date.week.2)
  | 'g' => some (.zeros, 2, d.date.week.1 % 100)
  | 'G' => some (.zeros, 1, d.date.week.1)
  | 'y' => some (.zeros, 2, d.date.year % 100)
  | 'Y' => some (.zeros, 1, d.date.year)
  | _ => none

def textOf? (d : DateTime) (code : Char) : Option (List Char) :=
  match code with
  | '%' => some ['%']
  | 'n' => some ['\n']
  | 't' => some ['\t']
  | 'a' => some (d.weekdayName.take 3)
  | 'A' => some d.weekdayName
  | 'b' | 'h' => some (d.monthName.take 3)
  | 'B' => some d.monthName
  | 'p' => some d.halfOfDay
  | 'P' => some (d.halfOfDay.map Char.toLower)
  | 'D' | 'x' => some d.shortDate
  | 'F' => some (Nat.toDigits 10 d.date.year ++ '-' :: Date.digits 2 d.date.month ++ '-'
      :: Date.digits 2 d.date.day)
  | 'T' | 'X' => some d.time.clockText
  | 'R' => some (Date.digits 2 d.time.hour ++ ':' :: Date.digits 2 d.time.minute)
  | 'r' => some (Date.digits 2 d.hour12 ++ ':' :: Date.digits 2 d.time.minute ++ ':'
      :: Date.digits 2 d.time.second ++ ' ' :: d.halfOfDay)
  | 'c' => some d.longText
  | 'Z' => some []
  | _ => none

def refuses (code modifier : Char) : Bool :=
  "%aADF".toList.contains code
    || (modifier == 'E' && "bhBdeHIkljMmSUVgGWw".toList.contains code)
    || (modifier == 'O' && "cxXY".toList.contains code)

/--
The text of a directive. One that has no meaning stands for its own text `source`.
-/
def directiveText (d : DateTime) (t : Directive) (source : List Char) : List Char :=
  match t.code with
  | none => t.fit source
  | some code =>
    if t.modifier.any (refuses code) then
      -- Note: the text of a directive runs from the nearest percent sign.
      let upper := t.upper || (t.changeCase && (code == 'b' || code == 'h'))
      { t with upper }.fit (if code == '%' then ['%'] else source)
    else
      match d.numberOf? code with
      | some (padding, count, n) => t.number padding count n
      | none =>
        match d.textOf? code with
        | some text =>
          if code == 'P' || (t.changeCase && code == 'p') then
            t.pad (text.map Char.toLower)
          else
            let upper := t.upper || (t.changeCase && "aAbBh".toList.contains code)
            { t with upper }.fit text
        | none => if code == 'z' then [] else t.fit source

def fillCalendar (limit : Nat) (d : DateTime) : List Char → List Char
  | [] => []
  | c :: cs =>
    if c == '%' then
      let rest := (Directive.read limit cs).2
      have : (Directive.read limit cs).2.length ≤ cs.length := Directive.length_read_le limit cs
      d.directiveText (Directive.read limit cs).1 ('%' :: cs.take (cs.length - rest.length))
        ++ fillCalendar limit d rest
    else
      c :: fillCalendar limit d cs
termination_by cs => cs.length

/--
How much room a text gets: the first power of two, from 1024, that is at least 256 times the length
of its pattern.
-/
def room (length : Nat) : Nat :=
  if 256 * length ≤ 1024 then 1024 else Nat.pow 2 ((256 * length - 1).log2 + 1)

/--
Fills in a pattern. The pattern ends at its first NUL, also at one that the name of a zone brings
in, and a text that does not fit into its room is dropped.
-/
def format (pattern : String) (d : DateTime) : String :=
  let pattern := d.fillZone (pattern.toList.takeWhile (· != '\x00'))
  let pattern := pattern.takeWhile (· != '\x00')
  let room := room pattern.length
  let text := d.fillCalendar room pattern
  if text.length < room then String.ofList text else ""

end DateTime

def Date.format (pattern : String) (d : Date) : String :=
  (DateTime.ofDate d).format pattern

end Soql
