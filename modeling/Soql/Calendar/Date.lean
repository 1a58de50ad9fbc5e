/-!
This module contains calendar dates of the years 1 to 9999 in the Gregorian calendar, extended
backwards, and the positions of a date in its year and its weeks.
-/

namespace Soql

def isLeapYear (year : Nat) : Bool :=
  year % 4 == 0 && (year % 100 != 0 || year % 400 == 0)

def daysInMonth (year month : Nat) : Nat :=
  match month with
  | 2 => if isLeapYear year then 29 else 28
  | 4 | 6 | 9 | 11 => 30
  | _ => 31

structure Date where
  year : Nat
  month : Nat
  day : Nat
  year_pos : 1 ≤ year
  year_le : year ≤ 9999
  month_pos : 1 ≤ month
  month_le : month ≤ 12
  day_pos : 1 ≤ day
  day_le : day ≤ daysInMonth year month
  deriving DecidableEq

namespace Date

def ofParts? (year month day : Nat) : Option Date :=
  if h : (1 ≤ year ∧ year ≤ 9999) ∧ (1 ≤ month ∧ month ≤ 12)
      ∧ (1 ≤ day ∧ day ≤ daysInMonth year month) then
    some ⟨year, month, day, h.1.1, h.1.2, h.2.1.1, h.2.1.2, h.2.2.1, h.2.2.2⟩
  else
    none

def yearDay (d : Date) : Nat :=
  (List.range' 1 (d.month - 1)).foldl (fun days month => days + daysInMonth d.year month) d.day

/--
The number of days up to this one, from 1 for the first day of the year 1.
-/
def dayNumber (d : Date) : Nat :=
  let past := d.year - 1
  past * 365 + past / 4 - past / 100 + past / 400 + d.yearDay

/--
The day of the week, from 1 for Monday to 7 for Sunday.
-/
def weekday (d : Date) : Nat :=
  (d.dayNumber + 6) % 7 + 1

/--
The week of the year, where weeks begin on the weekday `first` (1 for Monday, 7 for Sunday) and days
before the first such day lie in week 0.
-/
def weekFrom (first : Nat) (d : Date) : Nat :=
  (d.yearDay + 6 - (d.weekday + 7 - first) % 7) / 7

def weeksInYear (year : Nat) : Nat :=
  -- A year has 53 weeks if it ends on a Thursday, or if it ends on a Friday and is a leap year.
  let last := (year * 365 + year / 4 - year / 100 + year / 400) % 7
  if last = 4 || (last = 5 && isLeapYear year) then 53 else 52

/--
The year and number of the week that holds the date, where a week belongs to the year that holds its
Thursday.
-/
def week (d : Date) : Nat × Nat :=
  let number := (d.yearDay + 10 - d.weekday) / 7
  if number = 0 then (d.year - 1, weeksInYear (d.year - 1))
  else if weeksInYear d.year < number then (d.year + 1, 1)
  else (d.year, number)

example : (ofParts? 2000 1 1).map week = some (1999, 52) := by decide

def digits (count n : Nat) : List Char :=
  (Nat.toDigits 10 n).leftpad count '0'

def text (d : Date) : List Char :=
  digits 4 d.year ++ '-' :: digits 2 d.month ++ '-' :: digits 2 d.day

end Date
end Soql
