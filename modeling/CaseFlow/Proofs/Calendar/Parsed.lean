import CaseFlow.Proofs.Calendar.Written
import CaseFlow.Proofs.Reading.Outcome
import CaseFlow.Value.Portable
import Mathlib.Data.List.Induction

/-!
# What is read as a timestamp

A timestamp is read from a text that is a date, a date with a time of day, or a count of seconds,
and from numbers that are such counts. Whatever is read, the timestamp shows a time of day, and its
clock is whole minutes and less than a day off universal time if it is known how far
(`Timestamp.proper_of_ofDocument`, and `Reader.proper_of_timestamp` for values of every kind).

So it can be written and read again, and nothing of it is lost. The proof follows the parts of the
text: pairs of digits below a bound, a fraction cut to microseconds, an offset of hours and minutes,
and for counts the calendar date and the seconds that are left of a day.
-/

namespace CaseFlow

open CaseFlow.Decimal

/-! ## Digits -/

/-- Digits stand for less than a one with as many zeros. -/
private theorem Decimal.digitsValue_lt {cs : List Char} (h : cs.all Char.isDigit = true) :
    digitsValue cs < 10 ^ cs.length := by
  -- Digits are added at the end, where each one multiplies the value by ten.
  induction cs using List.reverseRecOn with
  | nil => simp [digitsValue]
  | append_singleton cs c ih =>
    rw [List.all_append, Bool.and_eq_true] at h
    have hcs := ih h.1
    have hdigit : c.toNat - 48 ≤ 9 := by
      have hc : c.isDigit = true := by simpa using h.2
      simp only [Char.isDigit, Bool.and_eq_true, decide_eq_true_eq] at hc
      have hle : c.toNat ≤ 57 := hc.2
      omega
    have hstep : digitsValue (cs ++ [c]) = 10 * digitsValue cs + (c.toNat - 48) := by
      simp [digitsValue]
    rw [hstep, List.length_append, List.length_singleton, pow_succ]
    omega

namespace Timestamp

variable {cs rest : List Char} {t : Timestamp} {s : String}

/-- A fraction of digits is less than a second. -/
private theorem microsecondsOf_lt (h : cs.all Char.isDigit = true) :
    microsecondsOf cs < 1000000 := by
  -- The fraction is filled up or cut to six digits, so it is less than a million.
  have hdigits : ((cs ++ List.replicate 6 '0').take 6).all Char.isDigit = true := by
    rw [List.all_eq_true] at h ⊢
    intro c hc
    rcases List.mem_append.mp (List.mem_of_mem_take hc) with hc | hc
    · exact h c hc
    · rw [List.eq_of_mem_replicate hc]
      rfl
  have hlength : ((cs ++ List.replicate 6 '0').take 6).length = 6 := by simp
  have hlt := digitsValue_lt hdigits
  rw [hlength] at hlt
  exact hlt

/-- A pair of digits that is taken is below its bound. -/
theorem lt_of_takePair? {bound n : Nat} (h : takePair? bound cs = some (n, rest)) : n < bound := by
  simp only [takePair?, Option.bind_eq_bind, Option.bind_eq_some_iff] at h
  obtain ⟨⟨m, rest'⟩, -, h⟩ := h
  split at h
  · next hlt =>
    cases h
    exact hlt
  · cases h

/-- What is known of an offset: it has whole minutes and less than a day. -/
def WholeMinutes (offset : Option Int) : Prop :=
  ∀ o, offset = some o → 60 ∣ o ∧ o.natAbs < 86400

/-- An offset that is read has whole minutes and less than a day. -/
theorem wholeMinutes_of_offset? {offset : Option Int} (h : offset? cs = some offset) :
    WholeMinutes offset := by
  rintro o rfl
  -- Hours and minutes make a number of whole minutes, of which the sign makes the offset.
  have hsigned (sign : Int) (hsign : sign.natAbs = 1) (n : Nat) (hminutes : 60 ∣ n)
      (hday : n < 86400) (ho : some (some (sign * n)) = some (some o)) :
      60 ∣ o ∧ o.natAbs < 86400 := by
    obtain rfl := Option.some.inj (Option.some.inj ho)
    refine ⟨Dvd.dvd.mul_left (Int.natCast_dvd_natCast.mpr hminutes) sign, ?_⟩
    rw [Int.natAbs_mul, hsign, one_mul, Int.natAbs_natCast]
    exact hday
  unfold offset? at h
  split at h
  · cases h
  · split at h
    · split at h
      · obtain rfl : (0 : Int) = o := Option.some.inj (Option.some.inj h)
        exact ⟨dvd_zero 60, by decide⟩
      · cases h
    · simp only [Option.bind_eq_bind] at h
      -- The sign is one or the other, or there is no offset.
      split at h
      · simp only [Option.bind_some, Option.bind_eq_some_iff] at h
        obtain ⟨⟨hours, rest⟩, -, ⟨minutes, rest'⟩, -, h⟩ := h
        split at h
        · next hday => exact hsigned 1 rfl _ (by omega) hday.2 h
        · cases h
      · split at h
        · simp only [Option.bind_some, Option.bind_eq_some_iff] at h
          obtain ⟨⟨hours, rest⟩, -, ⟨minutes, rest'⟩, -, h⟩ := h
          split at h
          · next hday => exact hsigned (-1) rfl _ (by omega) hday.2 h
          · cases h
        · cases h

/-- A time of day is read with a second of a minute, a fraction of a second, and an offset. -/
private theorem bounds_of_secondsAndOffset? {second micro : Nat} {offset : Option Int}
    (h : secondsAndOffset? cs = some (second, micro, offset)) :
    second < 60 ∧ micro < 1000000 ∧ WholeMinutes offset := by
  unfold secondsAndOffset? at h
  -- Either seconds are written, with a fraction or without one, or the time ends with the minute.
  split at h
  · simp only [Option.bind_eq_bind, Option.bind_eq_some_iff] at h
    obtain ⟨⟨n, rest⟩, hsecond, h⟩ := h
    -- Behind the seconds comes a fraction, an offset, or nothing.
    have hlt := lt_of_takePair? hsecond
    split at h
    · split at h
      · split at h
        · cases h
        · obtain ⟨o, ho, heq⟩ := Option.map_eq_some_iff.mp h
          cases heq
          exact ⟨hlt, microsecondsOf_lt List.all_takeWhile, wholeMinutes_of_offset? ho⟩
      · obtain ⟨o, ho, heq⟩ := Option.map_eq_some_iff.mp h
        cases heq
        exact ⟨hlt, by decide, wholeMinutes_of_offset? ho⟩
    · cases h
      exact ⟨hlt, by decide, fun o ho => by cases ho⟩
  · obtain ⟨o, ho, heq⟩ := Option.map_eq_some_iff.mp h
    cases heq
    exact ⟨by decide, by decide, wholeMinutes_of_offset? ho⟩

/-- A date with a time of day is read as a proper timestamp. -/
private theorem proper_of_dateAndTime? (h : dateAndTime? s = some t) : t.Proper := by
  unfold dateAndTime? at h
  split at h
  · cases h
  · split at h
    · cases h
    · simp only [Option.bind_eq_bind] at h
      split at h
      · cases h
      · obtain ⟨⟨hour, rest⟩, hhour, h⟩ := Option.bind_eq_some_iff.mp h
        simp only at h
        split at h
        · simp only [Option.bind_some, Option.bind_eq_some_iff] at h
          obtain ⟨⟨minute, rest'⟩, hminute, ⟨second, micro, offset⟩, hseconds, h⟩ := h
          obtain rfl := Option.some.inj h
          -- Hours, minutes and seconds within their bounds make up less than a day.
          have hhour := lt_of_takePair? hhour
          have hminute := lt_of_takePair? hminute
          obtain ⟨hsecond, hmicro, hoffset⟩ := bounds_of_secondsAndOffset? hseconds
          exact ⟨by simp only; omega, hmicro, hoffset⟩
        · cases h

/-- A count of seconds is read as a proper timestamp. -/
theorem proper_of_ofUnix {count : Int} {micros : Nat} (h : ofUnix count micros = .ok t) :
    t.Proper := by
  unfold ofUnix at h
  simp only at h
  split at h
  · next t' ht =>
    obtain rfl := Except.ok.inj h
    simp only [ofWall?, Option.map_eq_some_iff] at ht
    obtain ⟨d, -, rfl⟩ := ht
    -- Both remainders are those of a floored division, which are never negative.
    have hday (n : Int) : n.fmod 86400 < 86400 := Int.fmod_lt_of_pos n (by decide)
    have hsecond (n : Int) : n.fmod 1000000 < 1000000 := Int.fmod_lt_of_pos n (by decide)
    refine ⟨?_, ?_, ?_⟩
    · exact (Int.toNat_lt' (by decide)).mpr (hday _)
    · exact (Int.toNat_lt' (by decide)).mpr (hsecond _)
    · rintro o ⟨⟩
      exact ⟨dvd_zero 60, by decide⟩
  · cases h

/-- Digits that count seconds are read as a proper timestamp. -/
private theorem proper_of_ofUnixText? (h : ofUnixText? s = some (.ok t)) : t.Proper := by
  unfold ofUnixText? at h
  simp only at h
  -- With a fraction or without one, the text stands for a count of seconds.
  split at h
  · cases h
  · split at h
    · exact proper_of_ofUnix (Option.some.inj h)
    · split at h
      · split at h
        · exact proper_of_ofUnix (Option.some.inj h)
        · exact proper_of_ofUnix (Option.some.inj h)
      · cases h
    · cases h

/-- Midnight is a time of day. -/
private theorem proper_midnight (d : Date) : (midnight d).Proper where
  second_lt := Nat.zero_lt_succ _
  microsecond_lt := Nat.zero_lt_succ _
  offset_minutes o ho := by cases ho

/-- Whatever text is read as a timestamp of a document gives a proper one. -/
theorem proper_of_ofDocument (h : ofDocument s = .ok t) : t.Proper := by
  unfold ofDocument at h
  split at h
  · next t' ht =>
    obtain rfl := Except.ok.inj h
    exact proper_of_dateAndTime? ht
  · split at h
    · next r hr =>
      rw [h] at hr
      exact proper_of_ofUnixText? hr
    · obtain ⟨d, -, rfl⟩ := map_eq_ok.mp h
      exact proper_midnight d

end Timestamp

/-- A value that JSON holds as it is gives a proper timestamp, if it gives one. -/
theorem Reader.proper_of_timestamp {v : Value} (hv : v.portable = v) {t : Timestamp}
    (h : Reader.timestamp v = .ok t) : t.Proper := by
  -- A number, whole or not, is taken for a count of seconds.
  have hcount {n : Int} {micros : Nat} (h : Reader.timestamp.ofCount n micros = .ok t) :
      t.Proper := by
    unfold timestamp.ofCount at h
    split at h
    · next t' ht =>
      obtain rfl := Checked.ok.inj h
      exact Timestamp.proper_of_ofUnix ht
    · exact absurd h Checked.refuse_ne_ok
  -- A date or a timestamp is nothing that JSON holds as it is.
  unfold timestamp at h
  split at h
  · cases hv
  · cases hv
  · split at h
    · next t' ht =>
      obtain rfl := Checked.ok.inj h
      exact Timestamp.proper_of_ofDocument ht
    · exact absurd h Checked.refuse_ne_ok
  · exact hcount h
  · -- A number that is not finite is refused.
    simp only at h
    split at h
    · exact hcount h
    · split at h
      · exact absurd h Checked.refuse_ne_ok
      · split at h <;> exact absurd h Checked.refuse_ne_ok
  · exact absurd h Checked.refuse_ne_ok

end CaseFlow
