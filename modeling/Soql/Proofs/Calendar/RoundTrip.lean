import Soql.Query.Compile
import Soql.Proofs.Number.Digits

/-!
This module contains the reading of points in time whose offset is known. Their literals are read
back with nothing lost but the name of the zone, and they are never those of dates.
-/

namespace Soql

/--
A point in time with its offset from universal time. The name of the zone is no part of it.
-/
structure Moment where
  date : Date
  time : TimeOfDay
  offset : Offset
  deriving DecidableEq

namespace Text

def readNumber (cs : List Char) : Option (Nat × List Char) :=
  match takeDigits cs with
  | ([], _) => none
  | (ds, rest) => some (digitsValue 0 ds, rest)

def readUpTo (mark : Char) (cs : List Char) : Option (Nat × List Char) := do
  let (n, rest) ← readNumber cs
  match rest with
  | c :: rest => if c == mark then some (n, rest) else none
  | [] => none

theorem readNumber_append {cs rest : List Char} (h : MadeOf Char.isDigit cs) (hne : cs ≠ [])
    (hrest : takeDigits rest = ([], rest))
    : readNumber (cs ++ rest) = some (Nat.ofDigitChars 10 cs 0, rest) := by
  obtain ⟨c, cs, rfl⟩ := List.exists_cons_of_ne_nil hne
  unfold readNumber
  rw [takeDigits_append h hrest, ← Segment.digitsValue_digitValues]
  rfl

end Text

theorem daysInMonth_le (year month : Nat) : daysInMonth year month ≤ 31 := by
  unfold daysInMonth
  split
  . split <;> omega
  all_goals omega

namespace Date

theorem isDigit_digits (count n : Nat) : Text.MadeOf Char.isDigit (digits count n) :=
  (Text.isDigit_toDigits n).leftpad rfl count

theorem digits_ne_nil (count n : Nat) : digits count n ≠ [] := by
  simp [digits, List.leftpad]

theorem ofDigitChars_digits (count n : Nat) : Nat.ofDigitChars 10 (digits count n) 0 = n := by
  unfold digits List.leftpad
  rw [Nat.ofDigitChars_append, Nat.ofDigitChars_replicate_zero, Nat.mul_zero]
  apply Nat.ofDigitChars_ten_toDigits

theorem readNumber_digits (count n : Nat) {rest : List Char}
    (hrest : Text.takeDigits rest = ([], rest))
    : Text.readNumber (digits count n ++ rest) = some (n, rest) := by
  rw [Text.readNumber_append (isDigit_digits count n) (digits_ne_nil count n) hrest]
  rw [ofDigitChars_digits]

theorem readNumber_digits_end (count n : Nat) :
    Text.readNumber (digits count n) = some (n, []) := by
  have hread : Text.readNumber (digits count n ++ []) = some (n, []) :=
    readNumber_digits count n rfl
  rwa [List.append_nil] at hread

theorem readUpTo_digits (count n : Nat) {mark : Char} (hmark : Text.digitValue? mark = none)
    (rest : List Char)
    : Text.readUpTo mark (digits count n ++ mark :: rest) = some (n, rest) := by
  unfold Text.readUpTo
  rw [readNumber_digits count n (Text.takeDigits_cons_of_none mark rest hmark)]
  simp

theorem ofParts?_eq (d : Date) : ofParts? d.year d.month d.day = some d := by
  unfold ofParts?
  rw [dif_pos]
  exact ⟨⟨d.year_pos, d.year_le⟩, ⟨d.month_pos, d.month_le⟩, d.day_pos, d.day_le⟩

def read? (cs : List Char) : Option (Date × List Char) := do
  let (year, cs) ← Text.readUpTo '-' cs
  let (month, cs) ← Text.readUpTo '-' cs
  let (day, cs) ← Text.readNumber cs
  let date ← ofParts? year month day
  return (date, cs)

theorem read?_text_append (d : Date) {rest : List Char}
    (hrest : Text.takeDigits rest = ([], rest)) : read? (d.text ++ rest) = some (d, rest) := by
  have hdash : Text.digitValue? '-' = none := by decide
  unfold read? text
  simp only [List.append_assoc, List.cons_append]
  simp only [readUpTo_digits, readNumber_digits, hdash, hrest, Option.bind_eq_bind,
    Option.bind_some, ofParts?_eq, Option.pure_def]

theorem read?_text (d : Date) : read? d.text = some (d, []) := by
  have hread : read? (d.text ++ []) = some (d, []) := d.read?_text_append rfl
  rwa [List.append_nil] at hread

theorem length_digits {count n : Nat} (h : n < Nat.pow 10 count) (hcount : 0 < count) :
    (digits count n).length = count := by
  have hle : (Nat.toDigits 10 n).length ≤ count := Segment.length_toDigits_le hcount h
  unfold digits
  rw [List.length_leftpad]
  omega

theorem length_text (d : Date) : d.text.length = 10 := by
  have hyear : d.year < Nat.pow 10 4 := Nat.lt_of_le_of_lt d.year_le (by decide)
  have hmonth : d.month < Nat.pow 10 2 := Nat.lt_of_le_of_lt d.month_le (by decide)
  have hday : d.day < Nat.pow 10 2 := by
    apply Nat.lt_of_le_of_lt d.day_le
    apply Nat.lt_of_le_of_lt (daysInMonth_le ..)
    decide
  unfold text
  simp [length_digits hyear, length_digits hmonth, length_digits hday]

end Date

namespace TimeOfDay

def read? (cs : List Char) : Option (TimeOfDay × List Char) := do
  let (hour, cs) ← Text.readUpTo ':' cs
  let (minute, cs) ← Text.readUpTo ':' cs
  let (second, cs) ← Text.readUpTo '.' cs
  let (microsecond, cs) ← Text.readNumber cs
  let time ← ofParts? hour minute second microsecond
  return (time, cs)

theorem ofParts?_eq (t : TimeOfDay) :
    ofParts? t.hour t.minute t.second t.microsecond = some t := by
  unfold ofParts?
  rw [dif_pos]
  exact ⟨⟨t.hour_lt, t.minute_lt⟩, t.second_lt, t.microsecond_lt⟩

theorem read?_clockText_append (t : TimeOfDay) {rest : List Char}
    (hrest : Text.takeDigits rest = ([], rest))
    : read? (t.clockText ++ '.' :: (Date.digits 6 t.microsecond ++ rest)) = some (t, rest) := by
  have hcolon : Text.digitValue? ':' = none := by decide
  have hpoint : Text.digitValue? '.' = none := by decide
  unfold read? clockText
  simp only [List.append_assoc, List.cons_append]
  simp only [Date.readUpTo_digits, Date.readNumber_digits, hcolon, hpoint, hrest,
    Option.bind_eq_bind, Option.bind_some, ofParts?_eq, Option.pure_def]

end TimeOfDay

namespace Offset

/--
Reads hours, minutes and, where there are any, seconds: how many seconds they are, all in all.
-/
def readSpan (cs : List Char) : Option Nat := do
  let (hours, cs) ← Text.readUpTo ':' cs
  let (minutes, cs) ← Text.readNumber cs
  match cs with
  | [] => return 3600 * hours + 60 * minutes
  | ':' :: cs =>
    let (seconds, rest) ← Text.readNumber cs
    if rest.isEmpty then return 3600 * hours + 60 * minutes + seconds else none
  | _ => none

def read? : List Char → Option Offset
  | '+' :: cs => (readSpan cs).bind fun n => ofSeconds? n
  | '-' :: cs => (readSpan cs).bind fun n => ofSeconds? (-n)
  | _ => none

theorem ofSeconds?_eq (o : Offset) : ofSeconds? o.seconds = some o := by
  unfold ofSeconds?
  rw [dif_pos o.natAbs_lt]

def spanText (n : Nat) : List Char :=
  Date.digits 2 (n / 3600) ++ ':' :: Date.digits 2 (n / 60 % 60)
    ++ if n % 60 = 0 then [] else ':' :: Date.digits 2 (n % 60)

theorem text_eq (o : Offset) :
    o.text [':'] = (if o.seconds < 0 then '-' else '+') :: spanText o.seconds.natAbs := by
  unfold text spanText
  simp

theorem readSpan_spanText (n : Nat) : readSpan (spanText n) = some n := by
  have hcolon : Text.digitValue? ':' = none := by decide
  have hseconds (rest : List Char) : Text.takeDigits (':' :: rest) = ([], ':' :: rest) :=
    Text.takeDigits_cons_of_none ':' rest hcolon
  unfold readSpan spanText
  split
  . have hspan : 3600 * (n / 3600) + 60 * (n / 60 % 60) = n := by omega
    simp only [List.append_nil, Date.readUpTo_digits, Date.readNumber_digits_end, hcolon,
      Option.bind_eq_bind, Option.bind_some, Option.pure_def, hspan]
  . have hspan : 3600 * (n / 3600) + 60 * (n / 60 % 60) + n % 60 = n := by omega
    simp only [List.append_assoc, List.cons_append, Date.readUpTo_digits, Date.readNumber_digits,
      Date.readNumber_digits_end, hcolon, hseconds, Option.bind_eq_bind, Option.bind_some,
      Option.pure_def, hspan, List.isEmpty_nil, if_true]

theorem takeDigits_text (o : Offset) : Text.takeDigits (o.text [':']) = ([], o.text [':']) := by
  rw [text_eq]
  apply Text.takeDigits_cons_of_none
  split <;> decide

theorem read?_text (o : Offset) : read? (o.text [':']) = some o := by
  rw [text_eq]
  -- The sign stands for the whole offset, also where the hours or all but the seconds are zero.
  split
  . next hnegative =>
    have hseconds : -(o.seconds.natAbs : Int) = o.seconds := by omega
    rw [read?, readSpan_spanText, Option.bind_some, hseconds]
    apply ofSeconds?_eq
  . next hnegative =>
    have hseconds : (o.seconds.natAbs : Int) = o.seconds := by omega
    rw [read?, readSpan_spanText, Option.bind_some, hseconds]
    apply ofSeconds?_eq

example : (read? "-00:00:30".toList).map seconds = some (-30) := by decide

end Offset

namespace Moment

def read? (cs : List Char) : Option Moment := do
  let (date, cs) ← Date.read? cs
  match cs with
  | 'T' :: cs =>
    let (time, cs) ← TimeOfDay.read? cs
    let offset ← Offset.read? cs
    return ⟨date, time, offset⟩
  | _ => none

/--
The same point in time, in a zone with a name of its own or none.
-/
def inZone (m : Moment) (name : Option String) : DateTime :=
  ⟨m.date, m.time, .fixed m.offset name⟩

theorem read?_text_inZone (m : Moment) (name : Option String) :
    read? ((m.inZone name).text 'T' true) = some m := by
  have htime (rest : List Char) : Text.takeDigits ('T' :: rest) = ([], 'T' :: rest) := by
    apply Text.takeDigits_cons_of_none
    decide
  unfold read? DateTime.text inZone Zone.offset?
  simp only [Bool.true_or, if_true, List.append_assoc, List.cons_append]
  simp only [Date.read?_text_append, htime, TimeOfDay.read?_clockText_append,
    Offset.takeDigits_text, Offset.read?_text, Option.bind_eq_bind, Option.bind_some,
    Option.pure_def]

theorem read?_text_date (d : Date) : read? d.text = none := by
  unfold read?
  rw [Date.read?_text]
  rfl

theorem text_inZone_ne (m : Moment) (name : Option String) (d : Date) :
    (m.inZone name).text 'T' true ≠ d.text := by
  intro heq
  have hread := read?_text_inZone m name
  rw [heq, read?_text_date] at hread
  cases hread

theorem text_inZone_eq_iff (m m' : Moment) (name name' : Option String) :
    (m.inZone name).text 'T' true = (m'.inZone name').text 'T' true ↔ m = m' := by
  constructor
  . intro heq
    have hread := read?_text_inZone m name
    rw [heq, read?_text_inZone, Option.some.injEq] at hread
    exact hread.symm
  . rintro rfl
    rfl

theorem escape_inZone (keepBlanks : Bool) (m : Moment) (name : Option String) :
    escapeWith keepBlanks "" (.dateTime (m.inZone name))
      = .ok (Text.ofChars ((m.inZone name).text 'T' true)) := rfl

/--
The literal of a point in time with a known offset gives the date, the time of day and the offset
when it is read, and so two literals are equal only if these are, whatever the zones call
themselves. Without a known offset it is the date alone, as for dates, and is no literal of the
other kind.
-/
theorem escape_reads_back :
    (∀ (keepBlanks : Bool) (m : Moment) (name : Option String), ∃ text,
      escapeWith keepBlanks "" (.dateTime (m.inZone name)) = .ok (Text.ofChars text)
        ∧ read? text = some m)
    ∧ (∀ (keepBlanks keepBlanks' : Bool) (m m' : Moment) (name name' : Option String),
      escapeWith keepBlanks "" (.dateTime (m.inZone name))
          = escapeWith keepBlanks' "" (.dateTime (m'.inZone name'))
        ↔ m = m')
    ∧ ∀ (keepBlanks : Bool) (date : Date) (time : TimeOfDay),
      date.text.length = 10 ∧ Date.read? date.text = some (date, [])
        ∧ escapeWith keepBlanks "" (.date date) = .ok (Text.ofChars date.text)
        ∧ escapeWith keepBlanks "" (.dateTime ⟨date, time, .absent⟩)
          = .ok (Text.ofChars date.text)
        ∧ escapeWith keepBlanks "" (.dateTime ⟨date, time, .unknown⟩)
          = .ok (Text.ofChars date.text)
        ∧ ∀ (keepBlanks' : Bool) (m : Moment) (name : Option String),
          escapeWith keepBlanks' "" (.dateTime (m.inZone name)) ≠ .ok (Text.ofChars date.text) := by
  refine ⟨?_, ?_, ?_⟩
  . intro keepBlanks m name
    exact ⟨_, escape_inZone keepBlanks m name, read?_text_inZone m name⟩
  . intro keepBlanks keepBlanks' m m' name name'
    rw [escape_inZone, escape_inZone, Except.ok.injEq, ← text_inZone_eq_iff m m' name name']
    exact ⟨Text.ofChars_injective, congrArg Text.ofChars⟩
  . intro keepBlanks date time
    refine ⟨date.length_text, date.read?_text, rfl, rfl, rfl, ?_⟩
    intro keepBlanks' m name heq
    rw [escape_inZone, Except.ok.injEq] at heq
    exact text_inZone_ne m name date (Text.ofChars_injective heq)

end Moment
end Soql
