import CaseFlow.Calendar.Date

/-!
# Timestamps

A timestamp is a date, a time of day and, where it is known, the distance of its clock from
universal time. Timestamps with a known distance denote an instant; the others are local.
-/

namespace CaseFlow

open CaseFlow.Decimal

/-- A date and a time of day. -/
structure Timestamp where
  /-- The date. -/
  date : Date
  /-- The second of the day. -/
  second : Nat
  /-- Microseconds within the second. -/
  microsecond : Nat
  /-- Seconds by which the clock is ahead of universal time; a local timestamp has none. -/
  offset : Option Int
  deriving DecidableEq, Repr, Inhabited

namespace Timestamp

/-- The timestamp at midnight of a date, local. -/
def midnight (d : Date) : Timestamp := ⟨d, 0, 0, none⟩

/-- Whether a timestamp denotes an instant. -/
def isAware (t : Timestamp) : Bool := t.offset.isSome

/-- Microseconds of the wall clock since the day before year 1. -/
def wall (t : Timestamp) : Int :=
  ((t.date.ordinal : Int) * 86400 + t.second) * 1000000 + t.microsecond

/-- Microseconds of universal time; a local timestamp counts as universal. -/
def instant (t : Timestamp) : Int := t.wall - t.offset.getD 0 * 1000000

/-- The timestamp of a wall clock reading in microseconds, if it lies in the calendar. -/
def ofWall? (micros : Int) (offset : Option Int) : Option Timestamp :=
  let seconds := micros.fdiv 1000000
  (Date.ofOrdinal? (seconds.fdiv 86400).toNat).map fun d =>
    ⟨d, (seconds.fmod 86400).toNat, (micros.fmod 1000000).toNat, offset⟩

/-- The timestamp a number of seconds later on the same clock; at the end of the calendar the
clock stands still. -/
def plusSeconds (t : Timestamp) (n : Int) : Timestamp :=
  (ofWall? (t.wall + n * 1000000) t.offset).getD t

/-- The day number of 1970-01-01. -/
def unixEpoch : Int := 719163

/-- The same wall clock reading, taken as universal time. -/
def asUniversal (t : Timestamp) : Timestamp := { t with offset := some 0 }

/-- The same wall clock reading without its offset. -/
def asLocal (t : Timestamp) : Timestamp := { t with offset := none }

/-- The time of day `HH:MM:SS`, with six more digits when there are microseconds. -/
def timeText (t : Timestamp) : String :=
  let base := s!"{paddedNat 2 (t.second / 3600)}:{paddedNat 2 (t.second / 60 % 60)}:" ++
    paddedNat 2 (t.second % 60)
  if t.microsecond = 0 then base else s!"{base}.{paddedNat 6 t.microsecond}"

/-- The hours and minutes of an offset behind its sign, `+HH:MM`. -/
def hoursMinutesText (offset : Int) : String :=
  let n := offset.natAbs
  let sign := if offset < 0 then "-" else "+"
  sign ++ s!"{paddedNat 2 (n / 3600)}:{paddedNat 2 (n / 60 % 60)}"

/-- An offset as `+HH:MM`, with seconds where it has some. -/
def offsetText (offset : Int) : String :=
  let seconds := offset.natAbs % 60
  if seconds = 0 then hoursMinutesText offset
  else s!"{hoursMinutesText offset}:{paddedNat 2 seconds}"

/-- An offset as documents have it: `Z` for universal time, and `+HH:MM` for any other. There is no
place for seconds, and they are left out. -/
def documentOffset (offset : Int) : String :=
  if offset = 0 then "Z" else hoursMinutesText offset

/-- Date, separator, time and offset. -/
def textWith (separator : String) (t : Timestamp) : String :=
  t.date.text ++ separator ++ t.timeText ++ (t.offset.map offsetText).getD ""

/-- The ISO 8601 form. -/
def isoText (t : Timestamp) : String := textWith "T" t

/-- The form shown to people, with a space before the time. -/
def displayText (t : Timestamp) : String := textWith " " t

/-- The form of documents: ISO 8601 with an offset of hours and minutes, or `Z` for universal
time. -/
def documentText (t : Timestamp) : String :=
  t.date.text ++ "T" ++ t.timeText ++ (t.offset.map documentOffset).getD ""

/-! ## Reading -/

/-- Why a text is no date. -/
inductive DateFault where
  /-- Fewer than ten bytes. -/
  | tooShort
  /-- No digit in the year. -/
  | yearDigit
  /-- No hyphen after the year or the month. -/
  | separator
  /-- No digit in the month. -/
  | monthDigit
  /-- No digit in the day. -/
  | dayDigit
  /-- No such month. -/
  | monthRange
  /-- No such day. -/
  | dayRange
  /-- Text after the date. -/
  | extraText
  /-- A count of seconds before the calendar. -/
  | beforeCalendar
  /-- A count of seconds after the calendar. -/
  | afterCalendar
  deriving DecidableEq, Repr

/-- The wording of a date fault. -/
def DateFault.text : DateFault → String
  | .tooShort => "input is too short"
  | .yearDigit => "invalid character in year"
  | .separator => "invalid date separator, expected `-`"
  | .monthDigit => "invalid character in month"
  | .dayDigit => "invalid character in day"
  | .monthRange => "month value is outside expected range of 1-12"
  | .dayRange => "day value is outside expected range"
  | .extraText => "unexpected extra characters at the end of the input"
  | .beforeCalendar => "dates before 0000 are not supported as unix timestamps"
  | .afterCalendar => "dates after 9999 are not supported as unix timestamps"

/-- The hyphen at the front of a text. -/
def takeHyphen : List Char → Except DateFault (List Char)
  | '-' :: rest => .ok rest
  | _ => .error .separator

/-- Takes `n` digits or reports a fault. -/
def takeNumber (n : Nat) (fault : DateFault) (cs : List Char) :
    Except DateFault (Nat × List Char) :=
  match Date.takeDigits? n cs with
  | some r => .ok r
  | none => .error fault

/-- The date `YYYY-MM-DD` at the front of a text, and what follows it. -/
def leadingDate (s : String) : Except DateFault (Date × List Char) := do
  if s.utf8ByteSize < 10 then throw .tooShort
  let (year, rest) ← takeNumber 4 .yearDigit s.toList
  let rest ← takeHyphen rest
  let (month, rest) ← takeNumber 2 .monthDigit rest
  let rest ← takeHyphen rest
  let (day, rest) ← takeNumber 2 .dayDigit rest
  if month = 0 ∨ 12 < month then throw .monthRange
  match Date.of? year month day with
  | some d => return (d, rest)
  | none => throw .dayRange

/-- A whole text as a date. -/
def dateOnly (s : String) : Except DateFault Date := do
  let (d, rest) ← leadingDate s
  if rest.isEmpty then return d else throw .extraText

/-- Six digits of microseconds out of the digits of a fraction; further digits are dropped. -/
def microsecondsOf (digits : List Char) : Nat :=
  digitsValue ((digits ++ List.replicate 6 '0').take 6)

/-- Takes two digits below a bound. -/
def takePair? (bound : Nat) (cs : List Char) : Option (Nat × List Char) := do
  let (n, rest) ← Date.takeDigits? 2 cs
  if n < bound then some (n, rest) else none

/-- An offset, which ends the text. -/
def offset? : List Char → Option (Option Int)
  | [] => some none
  | c :: rest =>
    if c == 'Z' || c == 'z' then (if rest.isEmpty then some (some 0) else none)
    else do
      let sign : Int ← if c == '+' then some 1
        else if c == '-' || c.toNat == 0x2212 then some (-1) else none
      let (hours, rest) ← Date.takeDigits? 2 rest
      let rest := match rest with
        | ':' :: r => r
        | r => r
      let (minutes, rest) ← takePair? 60 rest
      let seconds := hours * 3600 + minutes * 60
      if rest.isEmpty ∧ seconds < 86400 then some (some (sign * seconds)) else none

/-- The seconds of a time of day, a fraction of them, and the offset. -/
def secondsAndOffset? (cs : List Char) : Option (Nat × Nat × Option Int) :=
  match cs with
  | ':' :: rest => do
    let (second, rest) ← takePair? 60 rest
    match rest with
    | c :: rest =>
      if c == '.' || c == ',' then
        let digits := rest.takeWhile Char.isDigit
        if digits.isEmpty then none
        else (offset? (rest.dropWhile Char.isDigit)).map (second, microsecondsOf digits, ·)
      else (offset? (c :: rest)).map (second, 0, ·)
    | [] => some (second, 0, none)
  | _ => (offset? cs).map (0, 0, ·)

/-- A whole text as a date and a time of day. -/
def dateAndTime? (s : String) : Option Timestamp :=
  match leadingDate s with
  | .error _ => none
  | .ok (d, rest) =>
    match rest with
    | [] => none
    | c :: rest => do
      if !(c == 'T' || c == 't' || c == ' ' || c == '_') then none
      let (hour, rest) ← takePair? 24 rest
      let rest ← match rest with
        | ':' :: r => some r
        | _ => none
      let (minute, rest) ← takePair? 60 rest
      let (second, micro, offset) ← secondsAndOffset? rest
      some ⟨d, hour * 3600 + minute * 60 + second, micro, offset⟩

/-- Counts beyond this one are milliseconds. -/
def secondsBound : Int := 20000000000

/-- The timestamp of a count of seconds since 1970, or of milliseconds where the count is too
large for seconds, in universal time. -/
def ofUnix (count : Int) (micros : Nat) : Except DateFault Timestamp :=
  let total := (if count.natAbs ≤ secondsBound then count * 1000000 else count * 1000) + micros
  let wall := total + unixEpoch * 86400 * 1000000
  match ofWall? wall (some 0) with
  | some t => .ok t
  | none => .error (if total < 0 then .beforeCalendar else .afterCalendar)

/-- A count of seconds in decimal digits. -/
def ofUnixText? (s : String) : Option (Except DateFault Timestamp) :=
  let (negative, rest) := takeSign s.toList
  let whole := rest.takeWhile Char.isDigit
  if whole.isEmpty then none
  else
    let n : Int := digitsValue whole
    let count := if negative then -n else n
    match rest.dropWhile Char.isDigit with
    | [] => some (ofUnix count 0)
    | '.' :: fraction =>
      if fraction.all Char.isDigit then
        let micros := microsecondsOf fraction
        -- Below zero the fraction counts down from the second before.
        some (if negative && micros != 0 then ofUnix (count - 1) (1000000 - micros)
          else ofUnix count micros)
      else none
    | _ => none

/-- Reads a timestamp of a document: a date with a time of day, a count of seconds since 1970, or a
date alone, which is its midnight. -/
def ofDocument (s : String) : Except DateFault Timestamp :=
  match dateAndTime? s with
  | some t => .ok t
  | none =>
    match ofUnixText? s with
    | some r => r
    | none => (dateOnly s).map midnight

/-- The seconds `:SS` at the end of an offset, counted in the direction of its sign. -/
def offsetSeconds? : List Char → Option Int
  | sign :: _ :: _ :: ':' :: _ :: _ :: ':' :: cs => do
    let (seconds, rest) ← takePair? 60 cs
    if !rest.isEmpty then none
    else if sign == '+' then some seconds
    else if sign == '-' then some (-seconds) else none
  | _ => none

/-- Reads what a clock shows (`isoText`): a timestamp as documents have it, or one whose offset
`+HH:MM:SS` has seconds as well. -/
def parse (s : String) : Except DateFault Timestamp :=
  match ofDocument s, offsetSeconds? (s.toList.drop (s.length - 9)) with
  | .error _, some seconds => do
    let t ← ofDocument (s.dropEnd 3).toString
    return { t with offset := t.offset.map (· + seconds) }
  | read, _ => read

end Timestamp

end CaseFlow
