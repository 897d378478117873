import CaseFlow.Calendar.Timestamp
import CaseFlow.Proofs.Decimal.Numeral
import CaseFlow.Proofs.Reading.Outcome
import Mathlib.Data.String.Basic
import Mathlib.Data.Nat.Digits.Defs

/-!
# Reading times that were written

A number that is written with zeros before it up to a width is read back by taking as many digits
(`Date.takeDigits?_paddedNat`). From this, part by part, every timestamp that shows a time of day
is read from the form in which documents hold it, as the timestamp that the document keeps
(`Timestamp.ofDocument_documentText`).

Documents have no place for the seconds of an offset. A clock that is five hours, thirty minutes and
fifteen seconds ahead of universal time is written as one that is five and a half hours ahead, and
read as that: the wall clock reading stays, the instant does not. So the module introduces

* `Timestamp.documented`, the timestamp that a document keeps of another one;
* `Timestamp.Valid`, a timestamp that shows a time of day;
* `Timestamp.Proper`, a valid one of which documents keep everything
  (`Timestamp.documented_eq_self_iff`), and which is therefore read back
  (`Timestamp.Proper.documented_eq`).
-/

namespace CaseFlow

open Calendar Decimal

/-! ## Padded numbers -/

namespace Decimal

variable {width n : Nat} {cs : List Char}

/-- Zeros fill a text up to the width. -/
private theorem length_padZeros (h : cs.length ≤ width) : (padZeros width cs).length = width := by
  simp only [padZeros, List.length_append, List.length_replicate]
  omega

/-- Zeros before a sequence of digits do not change its value. -/
private theorem digitsValue_padZeros : digitsValue (padZeros width cs) = digitsValue cs := by
  have hzeros (k : Nat) : Nat.ofDigitChars 10 (List.replicate k '0') 0 = 0 := by
    induction k with
    | zero => rfl
    | succ k ih => rw [List.replicate_succ, Nat.ofDigitChars_cons]; exact ih
  show Nat.ofDigitChars 10 (padZeros width cs) 0 = Nat.ofDigitChars 10 cs 0
  rw [padZeros, Nat.ofDigitChars_append, hzeros]

/-- The digits of a number that is written in a width that it fits. -/
theorem padded_spec (width n : Nat) (hwidth : 0 < width) (hn : n < 10 ^ width) :
    let cs := (paddedNat width n).toList
    cs.length = width ∧ cs.all Char.isDigit = true ∧ digitsValue cs = n := by
  -- What is written is the digits of the number behind as many zeros as the width asks for.
  have hlist : (paddedNat width n).toList = padZeros width (Nat.toDigits 10 n) := by
    simp [paddedNat]
  refine ⟨?_, ?_, ?_⟩
  · rw [hlist]
    exact length_padZeros (Nat.toDigits_length 10 n width hwidth hn)
  · rw [hlist, List.all_eq_true]
    intro c hc
    rcases List.mem_append.mp hc with hc | hc
    · rw [List.eq_of_mem_replicate hc]
      rfl
    · exact Nat.isDigit_of_mem_toDigits (by decide) (by decide) hc
  · rw [hlist, digitsValue_padZeros]
    exact Nat.ofDigitChars_toDigits (by decide) (by decide)

end Decimal

/-- A number that was written in a width is taken off the front of a text in that width. -/
theorem Date.takeDigits?_paddedNat (width n : Nat) (hwidth : 0 < width) (hn : n < 10 ^ width)
    (rest : List Char) :
    takeDigits? width ((paddedNat width n).toList ++ rest) = some (n, rest) := by
  obtain ⟨hlength, hall, hvalue⟩ := padded_spec width n hwidth hn
  have htake : ((paddedNat width n).toList ++ rest).take width = (paddedNat width n).toList :=
    List.take_left' hlength
  have hdrop : ((paddedNat width n).toList ++ rest).drop width = rest := List.drop_left' hlength
  rw [takeDigits?, htake, hdrop, if_pos ⟨hlength, hall⟩, hvalue]

/-! ## Dates -/

namespace Date

/-- The months have numbers up to twelve, and no month has a hundred days. -/
theorem month_day_bounds (d : Date) : 1 ≤ d.month ∧ d.month ≤ 12 ∧ d.day < 100 := by
  obtain ⟨-, hday, hle⟩ := d.valid
  -- A month that has a day is one of the twelve.
  unfold daysIn at hle
  split at hle
  all_goals
    try split at hle
  all_goals
    constructor <;> omega

/-- A date is made of its own year, month and day. -/
@[simp]
theorem of?_self (d : Date) : of? d.year d.month d.day = some d := by
  rw [of?, dif_pos d.valid]

/-- The characters of a written date. -/
theorem toList_text (d : Date) : d.text.toList =
    (paddedNat 4 d.year).toList ++ '-' :: ((paddedNat 2 d.month).toList ++
      '-' :: (paddedNat 2 d.day).toList) := by
  simp [text, toString, String.toList_append]

end Date

namespace Timestamp

variable {s : String} {rest : List Char} {t : Timestamp}

/-- A text has no more characters than bytes. -/
private theorem length_le_utf8Len (cs : List Char) : cs.length ≤ String.utf8Len cs := by
  induction cs with
  | nil => simp
  | cons c cs ih =>
    have := c.utf8Size_pos
    simp only [List.length_cons, String.utf8Len_cons]
    omega

/-- Taking a number that was written off the front never faults. -/
theorem takeNumber_paddedNat (width n : Nat) (hwidth : 0 < width) (hn : n < 10 ^ width)
    (fault : DateFault) (rest : List Char) :
    takeNumber width fault ((paddedNat width n).toList ++ rest) = .ok (n, rest) := by
  rw [takeNumber, Date.takeDigits?_paddedNat width n hwidth hn]

/-- A date that was written is read off the front of a text. -/
private theorem leadingDate_text (d : Date) (h : s.toList = d.text.toList ++ rest) :
    leadingDate s = .ok (d, rest) := by
  obtain ⟨hmonth, hmonth', hday⟩ := d.month_day_bounds
  obtain ⟨⟨-, hyear⟩, -⟩ := d.valid
  have htakeYear := takeNumber_paddedNat 4 d.year (by decide) (by omega)
  have htakeMonth := takeNumber_paddedNat 2 d.month (by decide) (by omega)
  have htakeDay := takeNumber_paddedNat 2 d.day (by decide) (by omega)
  rw [Date.toList_text] at h
  -- The ten characters of the date take ten bytes at least.
  have hlong : ¬ s.utf8ByteSize < 10 := by
    have hbytes := length_le_utf8Len s.toList
    have hyear := (padded_spec 4 d.year (by decide) (by omega)).1
    have hmonth := (padded_spec 2 d.month (by decide) (by omega)).1
    have hday := (padded_spec 2 d.day (by decide) (by omega)).1
    rw [String.utf8Len_toList, h] at hbytes
    simp only [List.length_append, List.length_cons, hyear, hmonth, hday] at hbytes
    omega
  have hrange : ¬ (d.month = 0 ∨ 12 < d.month) := by omega
  simp only [List.append_assoc, List.cons_append] at h
  simp [leadingDate, hlong, h, htakeYear, htakeMonth, htakeDay, takeHyphen, hrange]

/-! ## Times of day -/

/-- A timestamp that shows a time of day, and whose clock is less than a day off universal time, if
it is known how far. -/
structure Valid (t : Timestamp) : Prop where
  /-- The second is one of a day. -/
  second_lt : t.second < 86400
  /-- The microseconds make no second. -/
  microsecond_lt : t.microsecond < 1000000
  /-- The offset has less than 24 hours. -/
  offset_lt : ∀ o, t.offset = some o → o.natAbs < 86400

/-- A valid timestamp whose clock is whole minutes off universal time, if it is known how far. -/
structure Proper (t : Timestamp) : Prop where
  /-- The second is one of a day. -/
  second_lt : t.second < 86400
  /-- The microseconds make no second. -/
  microsecond_lt : t.microsecond < 1000000
  /-- The offset has whole minutes and less than 24 hours. -/
  offset_minutes : ∀ o, t.offset = some o → 60 ∣ o ∧ o.natAbs < 86400

/-- A proper timestamp is valid. -/
theorem Proper.valid (ht : t.Proper) : t.Valid :=
  ⟨ht.second_lt, ht.microsecond_lt, fun o ho => (ht.offset_minutes o ho).2⟩

/-- In universal time the wall clock tells the instant. -/
theorem instant_asUniversal (t : Timestamp) : t.asUniversal.instant = t.wall := by
  simp [instant, asUniversal, wall]

/-! ## What documents keep -/

/-- What documents keep of an offset: its hours and minutes, ahead of universal time or behind. -/
def keptOffset (o : Int) : Int := if o < 0 then -(-o / 60 * 60) else o / 60 * 60

/-- The timestamp that a document keeps: the seconds of its offset are left out. -/
def documented (t : Timestamp) : Timestamp := { t with offset := t.offset.map keptOffset }

/-- An offset is kept as it is exactly if it has whole minutes. -/
private theorem keptOffset_eq_self_iff {o : Int} : keptOffset o = o ↔ 60 ∣ o := by
  unfold keptOffset
  split <;> omega

/-- A timestamp is kept as it is exactly if its offset, if it has one, has whole minutes. -/
theorem documented_eq_self_iff :
    t.documented = t ↔ ∀ o, t.offset = some o → 60 ∣ o := by
  obtain ⟨date, second, microsecond, offset⟩ := t
  cases offset with
  | none => simp [documented]
  | some o => simp [documented, keptOffset_eq_self_iff]

/-- What a document keeps of a valid timestamp has an offset of whole minutes. -/
theorem Valid.documented (ht : t.Valid) : t.documented.Proper where
  second_lt := ht.second_lt
  microsecond_lt := ht.microsecond_lt
  offset_minutes o ho := by
    obtain ⟨o', ho', rfl⟩ := Option.map_eq_some_iff.mp ho
    have hday := ht.offset_lt o' ho'
    unfold keptOffset
    split <;> omega

/-- A proper timestamp is kept as it is. -/
theorem Proper.documented_eq (ht : t.Proper) : t.documented = t :=
  documented_eq_self_iff.mpr fun o ho => (ht.offset_minutes o ho).1

/-! ## Offsets -/

/-- The characters behind the time of day in the form of documents. -/
def zone : Option Int → List Char
  | none => []
  | some o => (documentOffset o).toList

/-- The characters of a written timestamp. -/
private theorem toList_documentText (t : Timestamp) : t.documentText.toList =
    t.date.text.toList ++ 'T' :: (t.timeText.toList ++ zone t.offset) := by
  cases ho : t.offset <;> simp [documentText, ho, zone, String.toList_append]

/-- Two digits that were written are taken off the front of a text. -/
theorem takePair?_paddedNat (bound n : Nat) (hn : n < bound) (hbound : bound ≤ 100)
    (rest : List Char) :
    takePair? bound ((paddedNat 2 n).toList ++ rest) = some (n, rest) := by
  have htake := Date.takeDigits?_paddedNat 2 n (by decide) (by omega) rest
  simp [takePair?, htake, hn]

/-- Hours and minutes that were written behind a sign are read, as so many seconds. -/
theorem offset?_cons {c : Char} {n : Nat} (hday : n < 86400)
    (hzulu : (c == 'Z' || c == 'z') = false) :
    offset? (c :: ((paddedNat 2 (n / 3600)).toList ++ ':' :: (paddedNat 2 (n / 60 % 60)).toList)) =
      (if c == '+' then some (some ((n / 60 * 60 : Nat) : Int))
        else if c == '-' || c.toNat == 0x2212 then some (some (-((n / 60 * 60 : Nat) : Int)))
        else none) := by
  have hhours := Date.takeDigits?_paddedNat 2 (n / 3600) (by decide) (by omega)
    (':' :: (paddedNat 2 (n / 60 % 60)).toList)
  have hrest := takePair?_paddedNat 60 (n / 60 % 60) (by omega) (by decide) []
  rw [List.append_nil] at hrest
  -- Hours and minutes make up the offset but for its seconds, so they are less than a day, too.
  have hsum : n / 3600 * 3600 + n / 60 % 60 * 60 = n / 60 * 60 := by omega
  have hlt : n / 60 * 60 < 86400 := by omega
  rw [offset?, hzulu]
  by_cases hplus : c == '+'
  · simp [hplus, hhours, hrest, hsum, hlt]
    omega
  · by_cases hminus : c == '-' || c.toNat == 0x2212
    · simp [hplus, hminus, hhours, hrest, hsum, hlt]
      omega
    · simp [hplus, hminus]

/-- An offset other than zero is written with a sign, hours and minutes. -/
theorem zone_of_ne {o : Int} (h : o ≠ 0) : zone (some o) =
    (if o < 0 then '-' else '+') :: ((paddedNat 2 (o.natAbs / 3600)).toList ++
      ':' :: (paddedNat 2 (o.natAbs / 60 % 60)).toList) := by
  by_cases hsign : o < 0 <;>
    simp [zone, h, documentOffset, hoursMinutesText, hsign, String.toList_append, toString]

/-- A written offset is read as what documents keep of it. -/
private theorem offset?_zone {offset : Option Int} (h : ∀ o, offset = some o → o.natAbs < 86400) :
    offset? (zone offset) = some (offset.map keptOffset) := by
  cases offset with
  | none => rfl
  | some o =>
    have hday := h o rfl
    -- No offset at all is written as a letter, and the sign of any other is written apart.
    by_cases hzero : o = 0
    · simp [zone, hzero, documentOffset, keptOffset, offset?]
    · rw [zone_of_ne hzero, Option.map_some]
      by_cases hsign : o < 0
      · have hvalue : -((o.natAbs / 60 * 60 : Nat) : Int) = keptOffset o := by
          rw [keptOffset, if_pos hsign]
          omega
        rw [if_pos hsign, offset?_cons hday (by decide), if_neg (by decide), if_pos (by decide),
          hvalue]
      · have hvalue : ((o.natAbs / 60 * 60 : Nat) : Int) = keptOffset o := by
          rw [keptOffset, if_neg hsign]
          omega
        rw [if_neg hsign, offset?_cons hday (by decide), if_pos (by decide), hvalue]

/-- An offset starts with neither a digit nor a decimal point. -/
theorem head_zone (offset : Option Int) : zone offset = [] ∨
    ∃ c cs, zone offset = c :: cs ∧ c.isDigit = false ∧ (c == '.' || c == ',') = false := by
  cases offset with
  | none => exact .inl rfl
  | some o =>
    refine .inr ?_
    by_cases hzero : o = 0
    · exact ⟨'Z', [], by simp [zone, documentOffset, hzero], by decide, by decide⟩
    · refine ⟨_, _, zone_of_ne hzero, ?_, ?_⟩ <;> split <;> decide

/-- Six digits stand for as many microseconds. -/
private theorem microsecondsOf_paddedNat {n : Nat} (hn : n < 1000000) :
    microsecondsOf (paddedNat 6 n).toList = n := by
  obtain ⟨hlength, -, hvalue⟩ := padded_spec 6 n (by decide) (by omega)
  rw [microsecondsOf, List.take_left' hlength, hvalue]

/-- The digits before an offset are those of the fraction. -/
private theorem span_zone {cs : List Char} (hcs : cs.all Char.isDigit = true)
    (offset : Option Int) :
    (cs ++ zone offset).takeWhile Char.isDigit = cs ∧
      (cs ++ zone offset).dropWhile Char.isDigit = zone offset := by
  rw [List.all_eq_true] at hcs
  rw [List.takeWhile_append_of_pos hcs, List.dropWhile_append_of_pos hcs]
  rcases head_zone offset with hnil | ⟨c, rest, hcons, hdigit, -⟩
  · simp [hnil]
  · simp [hcons, hdigit]

/-- Seconds and their fraction are read from what they are written as, with the offset. -/
private theorem secondsAndOffset?_written (second : Nat) (hsecond : second < 60) (ht : t.Valid) :
    secondsAndOffset? (':' :: ((paddedNat 2 second).toList ++
      ((if t.microsecond = 0 then [] else '.' :: (paddedNat 6 t.microsecond).toList) ++
        zone t.offset))) = some (second, t.microsecond, t.documented.offset) := by
  have hpair := takePair?_paddedNat 60 second hsecond (by decide)
  have hzone := offset?_zone ht.offset_lt
  -- A fraction is written unless it is zero, and ends where the offset begins.
  by_cases hmicro : t.microsecond = 0
  · simp only [hmicro, ↓reduceIte, List.nil_append, secondsAndOffset?, hpair, Option.bind_eq_bind,
      Option.bind_some]
    rcases head_zone t.offset with hnil | ⟨c, cs, hcons, -, hpoint⟩
    · rw [hnil] at hzone ⊢
      rw [documented, ← Option.some.inj hzone]
    · rw [hcons] at hzone ⊢
      simp only [hpoint, Bool.false_eq_true, ↓reduceIte, hzone, Option.map_some, documented]
  · -- The six digits of the fraction are taken up to the sign or the letter of the offset.
    obtain ⟨hlength, hall, -⟩ := padded_spec 6 t.microsecond (by decide) ht.microsecond_lt
    obtain ⟨htake, hdrop⟩ := span_zone hall t.offset
    have hdigits : (paddedNat 6 t.microsecond).toList.isEmpty = false := by
      rw [List.isEmpty_eq_false_iff, ← List.length_pos_iff, hlength]
      decide
    have hpoint : ('.' == '.' || '.' == ',') = true := by decide
    simp only [hmicro, ↓reduceIte, List.cons_append, secondsAndOffset?, hpair,
      Option.bind_eq_bind, Option.bind_some, hpoint, htake, hdrop, hdigits, Bool.false_eq_true,
      microsecondsOf_paddedNat ht.microsecond_lt, hzone, Option.map_some, documented]

/-- The characters of a written time of day. -/
theorem toList_timeText (t : Timestamp) : t.timeText.toList =
    (paddedNat 2 (t.second / 3600)).toList ++ ':' :: ((paddedNat 2 (t.second / 60 % 60)).toList ++
      ':' :: ((paddedNat 2 (t.second % 60)).toList ++
        (if t.microsecond = 0 then [] else '.' :: (paddedNat 6 t.microsecond).toList))) := by
  by_cases h : t.microsecond = 0 <;> simp [timeText, h, toString, String.toList_append]

/-- A date with a time of day is read from the form in which documents hold it. -/
private theorem dateAndTime?_documentText (ht : t.Valid) :
    dateAndTime? t.documentText = some t.documented := by
  have hdate := leadingDate_text t.date (toList_documentText t)
  have hday := ht.second_lt
  have hhour := takePair?_paddedNat 24 (t.second / 3600) (by omega) (by decide)
  have hminute := takePair?_paddedNat 60 (t.second / 60 % 60) (by omega) (by decide)
  have hseconds := secondsAndOffset?_written (t.second % 60) (by omega) ht
  have hsum : t.second / 3600 * 3600 + t.second / 60 % 60 * 60 + t.second % 60 = t.second := by
    omega
  simp [dateAndTime?, hdate, toList_timeText, hhour, hminute, hseconds, hsum, documented]

/-- A valid timestamp is read from the form in which documents hold it, as what they keep of it. -/
theorem ofDocument_documentText (ht : t.Valid) : ofDocument t.documentText = .ok t.documented := by
  rw [ofDocument, dateAndTime?_documentText ht]

/-! ## Later times -/

/-- A timestamp in universal time that shows a time of day. -/
structure Universal (t : Timestamp) : Prop where
  /-- It shows a time of day. -/
  proper : t.Proper
  /-- It is in universal time. -/
  offset_eq : t.offset = some 0

/-- A clock that goes on keeps its offset and shows times of day. -/
theorem Proper.plusSeconds (ht : t.Proper) (n : Int) :
    (t.plusSeconds n).Proper ∧ (t.plusSeconds n).offset = t.offset := by
  unfold Timestamp.plusSeconds
  cases h : ofWall? (t.wall + n * 1000000) t.offset with
  | none => exact ⟨ht, rfl⟩
  | some t' =>
    simp only [ofWall?, Option.map_eq_some_iff] at h
    obtain ⟨d, -, rfl⟩ := h
    have hsecond := Int.fmod_lt_of_pos ((t.wall + n * 1000000).fdiv 1000000)
      (show (0 : Int) < 86400 by decide)
    have hmicro := Int.fmod_lt_of_pos (t.wall + n * 1000000) (show (0 : Int) < 1000000 by decide)
    refine ⟨⟨?_, ?_, ht.offset_minutes⟩, rfl⟩ <;> simp only [Option.getD_some] <;> omega

/-- Universal time goes on as universal time. -/
theorem Universal.plusSeconds (ht : t.Universal) (n : Int) : (t.plusSeconds n).Universal := by
  obtain ⟨hproper, hoffset⟩ := ht.proper.plusSeconds n
  exact ⟨hproper, hoffset.trans ht.offset_eq⟩

end Timestamp

end CaseFlow
