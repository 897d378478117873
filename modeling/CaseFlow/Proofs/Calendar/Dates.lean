import CaseFlow.Proofs.Calendar.Written
import CaseFlow.Proofs.Text.Trimmed

/-!
# Reading dates

A date is a year and either a month and a day, or a week and maybe a day of it; the hyphens between
them are there throughout or not at all. `Date.leading?_eq` takes the reader apart along these
lines, into functions for what may follow a year (`Date.monthDate?`, `Date.weekDate?`).

* `Date.parse?_text`: a date is read back from its written form, since each number in it is filled
  up to its width.
* `Date.unread_text`: no written form of a date is a number.
* `Date.eq_of_parse?_trim`: blanks around a date may keep it from being read, but never make it
  another one. Before the year they are no digits, and behind the day they are either passed over or
  take a place where a digit should be.
-/

namespace CaseFlow

open Calendar Decimal Text

namespace Text

variable {c : Char} {cs : List Char}

/-- A digit takes one byte. -/
private theorem utf8Size_of_isDigit (h : c.isDigit = true) : c.utf8Size = 1 := by
  have hval : c.val ≤ 0x7F := by
    rw [UInt32.le_iff_toNat_le]
    exact le_trans (toNat_of_isDigit h).2 (by decide)
  exact if_pos hval

/-- Digits take as many bytes as there are of them. -/
private theorem utf8Len_eq_length (h : ∀ c ∈ cs, c.isDigit = true) :
    String.utf8Len cs = cs.length := by
  induction cs with
  | nil => rfl
  | cons c cs ih =>
    rw [List.forall_mem_cons] at h
    rw [String.utf8Len_cons, ih h.2, utf8Size_of_isDigit h.1, List.length_cons]

end Text

namespace Date

variable {n m year : Nat} {extended : Bool} {s : String} {c : Char}
  {cs rest blanks : List Char} {d d' : Date}

/-! ## The parts of a date -/

/-- The date of a year whose month and day follow. -/
def monthDate? (extended : Bool) (year : Nat) (cs : List Char) : Option Date := do
  let (month, rest) ← takeDigits? 2 cs
  let rest ← takeSeparator? extended rest
  let (day, _) ← takeDigits? 2 rest
  of? year month day

/-- The date of a year whose week follows, and maybe the day of that week. -/
def weekDate? (extended : Bool) (year : Nat) (cs : List Char) : Option Date := do
  let (week, rest) ← takeDigits? 2 cs
  if rest.isEmpty then ofWeek? year week 1
  else
    let rest ← takeSeparator? extended rest
    let (day, _) ← takeDigits? 1 rest
    ofWeek? year week day

/-- The date of a year of which a week or a month follows. -/
def yearDate? (extended : Bool) (year : Nat) : List Char → Option Date
  | 'W' :: cs => weekDate? extended year cs
  | cs => monthDate? extended year cs

/-- A date is a year and what follows it; a hyphen behind the year makes it an extended one. -/
theorem leading?_eq (cs : List Char) : leading? cs = (takeDigits? 4 cs).bind fun p =>
    yearDate? (p.2.head? == some '-') p.1 (if p.2.head? == some '-' then p.2.drop 1 else p.2) := by
  unfold leading?
  cases takeDigits? 4 cs <;> rfl

/-- What follows a year is a month unless it starts with the sign of a week. -/
theorem yearDate?_of_ne (h : cs.head? ≠ some 'W') :
    yearDate? extended year cs = monthDate? extended year cs := by
  unfold yearDate?
  split
  · exact absurd rfl h
  · rfl

/-- Where another character than a digit comes first, no digits are taken. -/
theorem takeDigits?_eq_none (hn : 0 < n) (hc : ∀ c ∈ cs.head?, c.isDigit = false) :
    takeDigits? n cs = none := by
  obtain ⟨k, rfl⟩ : ∃ k, n = k + 1 := ⟨n - 1, by omega⟩
  rw [takeDigits?, if_neg]
  cases cs with
  | nil => simp
  | cons c cs => simp [hc c rfl]

/-- There is no digit among blanks. -/
private theorem takeDigits?_of_blanks (hn : 0 < n) (hblanks : ∀ c ∈ blanks, isBlank c = true) :
    takeDigits? n blanks = none :=
  takeDigits?_eq_none hn fun c hc => isDigit_of_isBlank (hblanks c (List.mem_of_mem_head? hc))

/-! ## Dates that were written -/

/-- A date is read from what it was written as. -/
private theorem leading?_text (d : Date) : leading? d.text.toList = some d := by
  obtain ⟨hmonth, hmonth', hday⟩ := d.month_day_bounds
  obtain ⟨⟨-, hyear⟩, -⟩ := d.valid
  -- Each number is read to the end of its width, whatever follows it.
  have htakeYear := takeDigits?_paddedNat 4 d.year (by decide) (by omega)
  have htakeMonth := takeDigits?_paddedNat 2 d.month (by decide) (by omega)
  have htakeDay := takeDigits?_paddedNat 2 d.day (by decide) (by omega) []
  rw [List.append_nil] at htakeDay
  have hread : monthDate? true d.year ((paddedNat 2 d.month).toList ++
      '-' :: (paddedNat 2 d.day).toList) = some d := by
    simp [monthDate?, htakeMonth, takeSeparator?, htakeDay]
  -- The month starts with a digit, so it is not taken for a week.
  obtain ⟨hlength, hdigits, -⟩ := padded_spec 2 d.month (by decide) (by omega)
  rw [List.all_eq_true] at hdigits
  rw [toList_text, leading?_eq, htakeYear]
  cases hcs : (paddedNat 2 d.month).toList with
  | nil => simp [hcs] at hlength
  | cons c cs =>
    rw [hcs] at hread hdigits
    rw [← hread]
    refine yearDate?_of_ne ?_
    rintro ⟨⟩
    exact absurd (hdigits 'W' List.mem_cons_self) (by decide)

/-- A date is read back from its written form. -/
theorem parse?_text (d : Date) : parse? d.text = some d := by
  obtain ⟨hmonth, hmonth', hday⟩ := d.month_day_bounds
  obtain ⟨⟨-, hyear⟩, -⟩ := d.valid
  -- Eight digits and two hyphens take ten bytes.
  have hsize : d.text.utf8ByteSize = 10 := by
    have hbytes (width n : Nat) (hwidth : 0 < width) (hn : n < 10 ^ width) :
        String.utf8Len (paddedNat width n).toList = width := by
      obtain ⟨hlength, hall, -⟩ := padded_spec width n hwidth hn
      rw [utf8Len_eq_length (List.all_eq_true.mp hall), hlength]
    rw [← String.utf8Len_toList, toList_text]
    simp only [String.utf8Len_append, String.utf8Len_cons, hbytes 4 d.year (by decide) (by omega),
      hbytes 2 d.month (by decide) (by omega), hbytes 2 d.day (by decide) (by omega)]
    rfl
  rw [parse?, if_pos (.inr (.inr hsize)), leading?_text]

/-- The written form of a date has digits and hyphens. -/
theorem isDigit_of_mem_text (hc : c ∈ d.text.toList) : c.isDigit = true ∨ c = '-' := by
  obtain ⟨hmonth, hmonth', hday⟩ := d.month_day_bounds
  obtain ⟨⟨-, hyear⟩, -⟩ := d.valid
  -- Each of the three numbers fits the width that it is written in.
  have hdigits (width n : Nat) (hwidth : 0 < width) (hn : n < 10 ^ width)
      (hc : c ∈ (paddedNat width n).toList) : c.isDigit = true :=
    List.all_eq_true.mp (padded_spec width n hwidth hn).2.1 c hc
  simp only [toList_text, List.mem_append, List.mem_cons] at hc
  rcases hc with hc | rfl | hc | rfl | hc
  · exact .inl (hdigits 4 d.year (by decide) (by omega) hc)
  · exact .inr rfl
  · exact .inl (hdigits 2 d.month (by decide) (by omega) hc)
  · exact .inr rfl
  · exact .inl (hdigits 2 d.day (by decide) (by omega) hc)

/-- There is no blank in a written date. -/
theorem isBlank_of_mem_text (hc : c ∈ d.text.toList) : isBlank c = false := by
  rcases isDigit_of_mem_text hc with hdigit | rfl
  · exact isBlank_of_isDigit hdigit
  · rfl

/-- Trimming leaves a written date as it is. -/
@[simp]
theorem trim_text (d : Date) : trim d.text = d.text :=
  trim_eq_self_of_forall fun _ hc => isBlank_of_mem_text hc

/-- No written form of a date is a number. -/
theorem unread_text (d : Date) : readInt? d.text = none ∧ readFloat? d.text = none := by
  obtain ⟨⟨-, hyear⟩, -⟩ := d.valid
  obtain ⟨hlength, hdigits, -⟩ := padded_spec 4 d.year (by decide) (by omega)
  -- Nothing is trimmed from a date, and its digits are ASCII digits already.
  have hchars : numeralChars d.text = d.text.toList := by
    have hspace : trimList isSpace d.text.toList = d.text.toList := by
      refine trimList_eq_self_of_forall fun c hc => ?_
      rw [isSpace, isBlank_of_mem_text hc, Bool.false_and]
    rw [numeralChars_eq, hspace]
    refine (List.map_congr_left fun c hc => ?_).trans (List.map_id _)
    rcases isDigit_of_mem_text hc with hdigit | rfl
    · exact asciiDigit_of_isDigit hdigit
    · rfl
  -- The year is digits, and a hyphen follows them.
  rw [toList_text] at hchars
  cases hcs : (paddedNat 4 d.year).toList with
  | nil => simp [hcs] at hlength
  | cons c cs =>
    rw [hcs] at hchars hdigits
    refine unread_of_hyphen (List.all_eq_true.mp hdigits) ?_ hchars
    intro hunderscore
    have hmem : '_' ∈ d.text.toList := by
      rw [toList_text]
      exact List.mem_append_right _ (List.mem_cons_of_mem _ hunderscore)
    exact absurd (isDigit_of_mem_text hmem) (by decide)

/-- A written date is not empty. -/
@[simp]
theorem isEmpty_text (d : Date) : d.text.isEmpty = false := by
  rw [Bool.eq_false_iff]
  intro hempty
  have hnone : parse? d.text = none := by
    rw [String.isEmpty_iff.mp hempty]
    rfl
  rw [parse?_text] at hnone
  cases hnone

/-! ## Dates between blanks -/

/-- Digits are taken off the front whatever follows. -/
theorem takeDigits?_append (h : takeDigits? n cs = some (m, rest)) (more : List Char) :
    takeDigits? n (cs ++ more) = some (m, rest ++ more) := by
  unfold takeDigits? at h
  split at h
  · next hdigits =>
    cases h
    have hle : n ≤ cs.length := by
      rw [← hdigits.1, List.length_take]
      exact min_le_right _ _
    rw [takeDigits?, List.take_append_of_le_length hle, List.drop_append_of_le_length hle,
      if_pos hdigits]
  · cases h

/-- A separator is taken off the front whatever follows. -/
theorem takeSeparator?_append (h : takeSeparator? extended cs = some rest) (more : List Char) :
    takeSeparator? extended (cs ++ more) = some (rest ++ more) := by
  unfold takeSeparator? at h ⊢
  split at h
  · split at h
    · cases h
      simp [*]
    · cases h
  · cases h
    simp [*]

/-- What follows the day of a date makes no difference. -/
private theorem monthDate?_append (h : monthDate? extended year cs = some d) (more : List Char) :
    monthDate? extended year (cs ++ more) = some d := by
  simp only [monthDate?, Option.bind_eq_bind, Option.bind_eq_some_iff, Prod.exists] at h
  obtain ⟨month, rest, hmonth, rest', hseparator, day, rest'', hday, hdate⟩ := h
  simp [monthDate?, takeDigits?_append hmonth, takeSeparator?_append hseparator,
    takeDigits?_append hday, hdate]

/-- What follows the day of a week makes no difference either, and blanks are no such day. -/
private theorem weekDate?_append (h : weekDate? extended year cs = some d)
    (hblanks : ∀ c ∈ blanks, isBlank c = true)
    (h' : weekDate? extended year (cs ++ blanks) = some d') : d' = d := by
  simp only [weekDate?, Option.bind_eq_bind, Option.bind_eq_some_iff, Prod.exists] at h h'
  obtain ⟨week, rest, hweek, h⟩ := h
  obtain ⟨week', rest', hweek', h'⟩ := h'
  rw [takeDigits?_append hweek] at hweek'
  cases hweek'
  -- Without a day the date ends after the week, or else a day is read before the blanks.
  by_cases hend : rest.isEmpty = true
  · rw [if_pos hend] at h
    rw [List.isEmpty_iff.mp hend, List.nil_append] at h'
    split at h'
    · exact Option.some.inj (h'.symm.trans h)
    · -- A separator, if one is asked for, is no blank, and a digit is none.
      obtain ⟨rest', hseparator, h'⟩ := Option.bind_eq_some_iff.mp h'
      unfold takeSeparator? at hseparator
      split at hseparator
      · split at hseparator
        · exact absurd (hblanks '-' List.mem_cons_self) (by decide)
        · cases hseparator
      · cases hseparator
        rw [takeDigits?_of_blanks (by decide) hblanks] at h'
        cases h'
  · have hend' : ¬ (rest ++ blanks).isEmpty = true := by
      simp only [List.isEmpty_iff] at hend ⊢
      exact fun hnil => hend (List.append_eq_nil_iff.mp hnil).1
    rw [if_neg hend] at h
    rw [if_neg hend'] at h'
    simp only [Option.bind_eq_some_iff, Prod.exists] at h
    obtain ⟨rest', hseparator, day, rest'', hday, hdate⟩ := h
    simp only [takeSeparator?_append hseparator, Option.bind_some, takeDigits?_append hday,
      hdate] at h'
    exact (Option.some.inj h').symm

/-- Nothing behind the year is no date. -/
theorem yearDate?_nil : yearDate? extended year [] = none := by
  rw [yearDate?_of_ne (by simp), monthDate?, takeDigits?_eq_none (by decide) (by simp)]
  rfl

/-- Blanks behind a date do not make another date of it. -/
theorem yearDate?_append (h : yearDate? extended year cs = some d)
    (hblanks : ∀ c ∈ blanks, isBlank c = true)
    (h' : yearDate? extended year (cs ++ blanks) = some d') : d' = d := by
  cases cs with
  | nil =>
    rw [yearDate?_nil] at h
    cases h
  | cons c cs =>
    -- A week is announced by its letter; anything else is a month.
    by_cases hweek : c = 'W'
    · subst hweek
      exact weekDate?_append h hblanks h'
    · rw [yearDate?_of_ne (by simpa using hweek)] at h h'
      rw [monthDate?_append h] at h'
      exact (Option.some.inj h').symm

/-- Blanks behind a date do not make it another one. -/
private theorem leading?_append (h : leading? cs = some d)
    (hblanks : ∀ c ∈ blanks, isBlank c = true)
    (h' : leading? (cs ++ blanks) = some d') : d' = d := by
  rw [leading?_eq, Option.bind_eq_some_iff] at h h'
  obtain ⟨⟨year, rest⟩, hyear, h⟩ := h
  rw [takeDigits?_append hyear] at h'
  obtain ⟨-, ⟨⟩, h'⟩ := h'
  cases rest with
  | nil =>
    simp only [List.head?_nil, Option.none_beq_some, Bool.false_eq_true, ↓reduceIte] at h
    rw [yearDate?_nil] at h
    cases h
  | cons c rest =>
    -- The same character decides in both texts whether the date is an extended one.
    by_cases hextended : c = '-'
    · subst hextended
      replace h : yearDate? true year rest = some d := h
      exact yearDate?_append h hblanks h'
    · have hhead : (some c == some '-') = false := by simpa using hextended
      simp only [List.cons_append, List.head?_cons, hhead, Bool.false_eq_true, ↓reduceIte] at h h'
      exact yearDate?_append h hblanks h'

/-- A text that is a date, between blanks and without them, is the same one in both. -/
theorem eq_of_parse?_trim (h : parse? (trim s) = some d) (h' : parse? s = some d') : d' = d := by
  -- A date is read without or with a time of day; in either case it is what the text starts with.
  have hleading {s : String} {d : Date} (h : parse? s = some d) : leading? s.toList = some d := by
    unfold parse? at h
    split at h
    · exact h
    · cases h
  replace h := hleading h
  replace h' := hleading h'
  obtain ⟨before, after, hs, hbefore, hafter⟩ := exists_trimList isBlank s.toList
  rw [trim, String.toList_ofList] at h
  -- The year comes first, so no blank does.
  cases before with
  | nil =>
    rw [hs, List.nil_append] at h'
    exact leading?_append h hafter h'
  | cons c before =>
    have hblank : isBlank c = true := hbefore c List.mem_cons_self
    have hfirst : ∀ c ∈ s.toList.head?, c.isDigit = false := by
      rw [hs]
      rintro _ ⟨⟩
      exact isDigit_of_isBlank hblank
    rw [leading?_eq, takeDigits?_eq_none (by decide) hfirst] at h'
    cases h'

end Date
end CaseFlow
