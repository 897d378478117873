import CaseFlow.Decimal.Fixed
import CaseFlow.Decimal.Numeral

/-!
# Calendar dates

Dates of the Gregorian calendar from year 1 to year 9999, their written form `YYYY-MM-DD`, and
the ISO 8601 forms that are read: calendar dates and week dates, extended or compact.
-/

namespace CaseFlow

open CaseFlow.Decimal

namespace Calendar

/-- A leap year has a 29th of February. -/
def isLeap (year : Nat) : Bool := year % 4 == 0 && (year % 100 != 0 || year % 400 == 0)

/-- The number of days of a month; no month outside 1 to 12 has any. -/
def daysIn (year month : Nat) : Nat :=
  match month with
  | 1 | 3 | 5 | 7 | 8 | 10 | 12 => 31
  | 4 | 6 | 9 | 11 => 30
  | 2 => if isLeap year then 29 else 28
  | _ => 0

/-- The days before a year, counted from the first day of year 1. -/
def daysBeforeYear (year : Nat) : Nat :=
  let y := year - 1
  365 * y + y / 4 - y / 100 + y / 400

/-- The days of a year before a month. -/
def daysBeforeMonth (year month : Nat) : Nat :=
  ((List.range (month - 1)).map fun m => daysIn year (m + 1)).foldr (· + ·) 0

end Calendar

/-- A date of the calendar. -/
structure Date where
  /-- The year, 1 to 9999. -/
  year : Nat
  /-- The month, 1 to 12. -/
  month : Nat
  /-- The day of the month, from 1. -/
  day : Nat
  /-- The date exists. -/
  valid : (1 ≤ year ∧ year ≤ 9999) ∧ 1 ≤ day ∧ day ≤ Calendar.daysIn year month
  deriving DecidableEq, Repr

namespace Date

open Calendar

instance : Inhabited Date := ⟨⟨1, 1, 1, by decide⟩⟩

/-- The date with the given year, month and day, if there is one. -/
def of? (year month day : Nat) : Option Date :=
  if h : (1 ≤ year ∧ year ≤ 9999) ∧ 1 ≤ day ∧ day ≤ daysIn year month then
    some ⟨year, month, day, h⟩
  else none

/-- The number of a date, counted from 1 for the first day of year 1. -/
def ordinal (d : Date) : Nat := daysBeforeYear d.year + daysBeforeMonth d.year d.month + d.day

/-- The month and day of the `n`-th day of a year, counted from 0. -/
def monthAndDay (year n : Nat) : Nat × Nat :=
  let month := ((List.range 12).filter fun m => daysBeforeMonth year (m + 1) ≤ n).length
  (month, n - daysBeforeMonth year month + 1)

/-- The number of the last date of the calendar. -/
def lastOrdinal : Nat := 3652059

/-- The date with a given number, if it lies in the calendar. -/
def ofOrdinal? (n : Nat) : Option Date :=
  if n = 0 ∨ lastOrdinal < n then none
  else
    -- A year has 365 or 366 days, so the year lies between these two counts.
    let guess := (n - 1) / 366 + 1
    let late := (n - 1) / 365 + 1
    let year := guess + ((List.range (late - guess)).filter fun k =>
      daysBeforeYear (guess + k + 1) < n).length
    let (month, day) := monthAndDay year (n - 1 - daysBeforeYear year)
    of? year month day

/-- The day of the week of a day number, Monday being 0. -/
def weekday (ordinal : Nat) : Nat := (ordinal + 6) % 7

/-- The number of the Monday of the first week of a year: the week that holds its first
Thursday. -/
def firstMonday (year : Nat) : Int :=
  let first := daysBeforeYear year + 1
  let w := weekday first
  (first : Int) - w + (if 3 < w then 7 else 0)

/-- Whether a year has 53 weeks: it starts on a Thursday, or is a leap year that starts on a
Wednesday. -/
def isLong (year : Nat) : Bool :=
  let w := weekday (daysBeforeYear year + 1)
  w == 3 || (w == 2 && isLeap year)

/-- The date on a day (1 to 7) of a week of a year. -/
def ofWeek? (year week day : Nat) : Option Date :=
  if year = 0 ∨ week = 0 ∨ 53 < week ∨ (week = 53 ∧ !isLong year) ∨ day = 0 ∨ 7 < day then none
  else ofOrdinal? (firstMonday year + (week - 1 : Nat) * 7 + (day - 1 : Nat)).toNat

/-- The written form `YYYY-MM-DD`. -/
def text (d : Date) : String :=
  s!"{paddedNat 4 d.year}-{paddedNat 2 d.month}-{paddedNat 2 d.day}"

/-- Takes exactly `n` digits off the front of a text. -/
def takeDigits? (n : Nat) (cs : List Char) : Option (Nat × List Char) :=
  if (cs.take n).length = n ∧ (cs.take n).all Char.isDigit then
    some (digitsValue (cs.take n), cs.drop n)
  else none

/-- Takes the separator off, where the form has one. -/
def takeSeparator? (extended : Bool) (cs : List Char) : Option (List Char) :=
  if extended then
    match cs with
    | '-' :: rest => some rest
    | _ => none
  else some cs

/-- The date at the front of a text: a calendar date or a week date, the day of the week being
optional at the end of the text. -/
def leading? (cs : List Char) : Option Date := do
  let (year, rest) ← takeDigits? 4 cs
  let extended := rest.head? == some '-'
  let rest := if extended then rest.drop 1 else rest
  match rest with
  | 'W' :: rest =>
    let (week, rest) ← takeDigits? 2 rest
    if rest.isEmpty then ofWeek? year week 1
    else
      let rest ← takeSeparator? extended rest
      let (day, _) ← takeDigits? 1 rest
      ofWeek? year week day
  | rest =>
    let (month, rest) ← takeDigits? 2 rest
    let rest ← takeSeparator? extended rest
    let (day, _) ← takeDigits? 2 rest
    of? year month day

/-- Reads a date. A text has seven, eight or ten bytes; after a compact date of eight, two more
are passed over. -/
def parse? (s : String) : Option Date :=
  if s.utf8ByteSize = 7 ∨ s.utf8ByteSize = 8 ∨ s.utf8ByteSize = 10 then leading? s.toList else none

end Date

end CaseFlow
