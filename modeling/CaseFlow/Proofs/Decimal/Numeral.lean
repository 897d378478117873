import CaseFlow.Decimal.Numeral
import CaseFlow.Proofs.Text.Trimmed

/-!
# Texts that are numbers

A numeral holds digits, signs, points, underscores and the letters of exponents and special values
(`Decimal.isNumeralChar`). Each part of the reader passes over such characters only, so a text with
any other character inside is no number (`Decimal.unread_of_mem`). That is enough for most texts
that are known not to be numbers; one that begins as a date does is recognized by its first hyphen,
behind digits (`Decimal.unread_of_hyphen`).

Of the blanks around a numeral those that are white space are passed over (`Decimal.read_trim`),
while information separators, which are trimmed elsewhere, keep the text from being read
(`Decimal.unread_of_separator`).
-/

namespace CaseFlow

open CaseFlow.Text

namespace Decimal

variable {s : String} {c : Char} {cs ds : List Char} {x : Float}

/-- A character that a numeral may hold: a digit, a sign, a point, an underscore, or a letter of an
exponent or of a special value, in either case. -/
def isNumeralChar (c : Char) : Bool :=
  c.isDigit || ['+', '-', '.', '_', 'e', 'i', 'n', 'f', 't', 'y', 'a'].contains c.toLower

/-- A digit may stand in a numeral. -/
theorem isNumeralChar_of_isDigit (h : c.isDigit = true) : isNumeralChar c = true := by
  rw [isNumeralChar, h, Bool.true_or]

/-- No blank is part of a numeral. -/
private theorem isBlank_of_isNumeralChar (h : isNumeralChar c = true) : isBlank c = false := by
  rw [isNumeralChar, Bool.or_eq_true] at h
  rcases h with h | h
  · exact isBlank_of_isDigit h
  · -- A capital letter is not blank, and every other character is the one of the list.
    unfold Char.toLower at h
    split at h
    · next hupper =>
      have hlow : 65 ≤ c.toNat := hupper.1
      have hhigh : c.toNat ≤ 90 := hupper.2
      exact isBlank_eq_false (by omega) (by omega)
    · revert h
      simp only [List.contains_eq_mem, List.mem_cons, List.not_mem_nil, or_false, decide_eq_true_eq]
      rintro (rfl | rfl | rfl | rfl | rfl | rfl | rfl | rfl | rfl | rfl | rfl) <;> rfl

/-! ## What is read holds numeral characters only -/

/-- Joining digits removes the underscores and nothing else. -/
theorem mem_of_joinDigits {before : Option Char} (h : joinDigits before cs = some ds) :
    ∀ c ∈ cs, c = '_' ∨ c ∈ ds := by
  fun_induction joinDigits before cs generalizing ds with
  | case1 => simp
  -- An underscore between digits is dropped, and is the one kind of character that is.
  | case2 b d rest hdigits ih =>
    intro c hc
    rcases List.mem_cons.mp hc with rfl | hc
    · exact .inl rfl
    · exact ih h c hc
  | case3 => cases h
  | case4 => cases h
  | case5 before c rest hc ih =>
    obtain ⟨ds', hds', rfl⟩ := Option.map_eq_some_iff.mp h
    intro c' hc'
    rcases List.mem_cons.mp hc' with rfl | hc'
    · exact .inr List.mem_cons_self
    · exact (ih hds' c' hc').imp_right (List.mem_cons_of_mem c)

/-- Joining digits drops underscores only, so what they are joined from is numeral as well. -/
private theorem numeral_of_joinDigits {before : Option Char} (h : joinDigits before cs = some ds)
    (hds : ∀ c ∈ ds, isNumeralChar c = true) : ∀ c ∈ cs, isNumeralChar c = true := by
  intro c hc
  rcases mem_of_joinDigits h c hc with rfl | hc
  · rfl
  · exact hds c hc

/-- Digits are read from digits and underscores. -/
theorem isDigit_of_digits? (h : digits? cs = some ds) :
    ∀ c ∈ cs, c = '_' ∨ c.isDigit = true := by
  unfold digits? at h
  split at h
  · next hjoin =>
    split at h
    · cases h
    · next hall =>
      rw [Bool.or_eq_true, not_or, Bool.not_eq_true, Bool.not_eq_true, Bool.not_eq_false'] at hall
      exact fun c hc => (mem_of_joinDigits hjoin c hc).imp_right (List.all_eq_true.mp hall.2 c)
  · cases h

/-- A sign may stand before a numeral. -/
theorem numeral_of_takeSign (h : ∀ c ∈ (takeSign cs).2, isNumeralChar c = true) :
    ∀ c ∈ cs, isNumeralChar c = true := by
  unfold takeSign at h
  split at h
  · exact List.forall_mem_cons.mpr ⟨rfl, h⟩
  · exact List.forall_mem_cons.mpr ⟨rfl, h⟩
  · exact h

/-- A whole number is read from the characters of numerals only. -/
private theorem numeral_of_readInt? {n : Int} (h : readInt? s = some n) :
    ∀ c ∈ numeralChars s, isNumeralChar c = true := by
  unfold readInt? at h
  simp only at h
  split at h
  · next hdigits =>
    refine numeral_of_takeSign fun c hc => ?_
    rcases isDigit_of_digits? hdigits c hc with rfl | hdigit
    · rfl
    · exact isNumeralChar_of_isDigit hdigit
  · cases h

/-- An exponent is read from the characters of numerals only. -/
theorem numeral_of_exponent? {e : Int} (h : exponent? cs = some e) :
    ∀ c ∈ cs, isNumeralChar c = true := by
  unfold exponent? at h
  split at h
  · simp
  · next c rest =>
    split at h
    · next he =>
      simp only at h
      split at h
      · cases h
      · next hall =>
        rw [Bool.or_eq_true, not_or, Bool.not_eq_true, Bool.not_eq_true, Bool.not_eq_false'] at hall
        -- Behind the sign stand digits, and at least one of them.
        have hdigits : ∀ c ∈ (takeSign rest).2, isNumeralChar c = true := fun c hc =>
          isNumeralChar_of_isDigit (List.all_eq_true.mp hall.2 c hc)
        refine List.forall_mem_cons.mpr ⟨?_, numeral_of_takeSign hdigits⟩
        rw [Bool.or_eq_true, beq_iff_eq, beq_iff_eq] at he
        rcases he with rfl | rfl <;> rfl
    · cases h

/-- Digits may stand before a numeral. -/
theorem numeral_of_dropWhile (h : ∀ c ∈ cs.dropWhile Char.isDigit, isNumeralChar c = true) :
    ∀ c ∈ cs, isNumeralChar c = true := by
  intro c hc
  rw [← List.takeWhile_append_dropWhile (p := Char.isDigit) (l := cs), List.mem_append] at hc
  rcases hc with hc | hc
  · exact isNumeralChar_of_isDigit (List.mem_takeWhile_imp hc)
  · exact h c hc

/-- A decimal number is read from the characters of numerals only. -/
private theorem numeral_of_decimal? (h : decimal? cs = some x) :
    ∀ c ∈ cs, isNumeralChar c = true := by
  refine numeral_of_dropWhile ?_
  unfold decimal? at h
  dsimp only at h
  -- Behind the whole part there may be a point with a fraction, and then the exponent comes.
  split at h
  · next rest hpoint =>
    split at h
    · cases h
    · obtain ⟨e, he, -⟩ := Option.map_eq_some_iff.mp h
      rw [hpoint]
      exact List.forall_mem_cons.mpr ⟨rfl, numeral_of_dropWhile (numeral_of_exponent? he)⟩
  · split at h
    · cases h
    · obtain ⟨e, he, -⟩ := Option.map_eq_some_iff.mp h
      exact numeral_of_exponent? he

/-- A special value is written in letters. -/
theorem letters_of_specialWord? (h : specialWord? cs = some x) :
    ∀ c ∈ cs, c.toLower ∈ ['i', 'n', 'f', 't', 'y', 'a'] := by
  intro c hc
  have hlower : c.toLower ∈ (String.ofList (cs.map Char.toLower)).toList := by
    rw [String.toList_ofList]
    exact List.mem_map_of_mem hc
  -- Three words are known, and each of them is spelled with these letters.
  have hletters (word : String) (hword : String.ofList (cs.map Char.toLower) = word)
      (hall : ∀ c ∈ word.toList, c ∈ ['i', 'n', 'f', 't', 'y', 'a']) :
      c.toLower ∈ ['i', 'n', 'f', 't', 'y', 'a'] :=
    hall c.toLower (hword ▸ hlower)
  unfold specialWord? at h
  split at h
  · next hinf => exact hletters "inf" hinf (by simp)
  · next hinfinity => exact hletters "infinity" hinfinity (by simp)
  · next hnan => exact hletters "nan" hnan (by simp)
  · cases h

/-- A word for infinity or for no number is made of the characters of numerals. -/
private theorem numeral_of_specialWord? (h : specialWord? cs = some x) :
    ∀ c ∈ cs, isNumeralChar c = true := by
  intro c hc
  have hletter := letters_of_specialWord? h c hc
  rw [isNumeralChar, Bool.or_eq_true, List.contains_eq_mem, decide_eq_true_eq]
  refine .inr (List.mem_of_mem_drop (i := 5) ?_)
  exact hletter

/-- Any float is read from the characters of numerals only. -/
private theorem numeral_of_readFloat? (h : readFloat? s = some x) :
    ∀ c ∈ numeralChars s, isNumeralChar c = true := by
  obtain ⟨ds, hjoin, hfloat⟩ := Option.bind_eq_some_iff.mp h
  refine numeral_of_joinDigits hjoin (numeral_of_takeSign ?_)
  obtain ⟨x', hx', -⟩ := Option.map_eq_some_iff.mp hfloat
  -- Behind the sign there is a special value, or else a decimal number.
  rw [Option.orElse_eq_orElse, Option.orElse_eq_or, Option.or_eq_some_iff] at hx'
  rcases hx' with hspecial | ⟨-, hdecimal⟩
  · exact numeral_of_specialWord? hspecial
  · exact numeral_of_decimal? hdecimal

/-- A text that has another character than those of numerals inside is read as no number. -/
theorem unread_of_mem (hc : c ∈ numeralChars s) (hother : isNumeralChar c = false) :
    readInt? s = none ∧ readFloat? s = none := by
  have hnone {α : Type} {o : Option α}
      (h : ∀ a, o = some a → ∀ c ∈ numeralChars s, isNumeralChar c = true) : o = none := by
    cases o with
    | none => rfl
    | some a => simp [h a rfl c hc] at hother
  exact ⟨hnone fun n h => numeral_of_readInt? h, hnone fun x h => numeral_of_readFloat? h⟩

/-- No sign stands before digits. -/
private theorem takeSign_of_isDigit (hc : c.isDigit = true) (cs : List Char) :
    takeSign (c :: cs) = (false, c :: cs) := by
  unfold takeSign
  split
  · next h => cases h; cases hc
  · next h => cases h; cases hc
  · rfl

/-- Where there is no underscore nothing is dropped. -/
private theorem joinDigits_of_notMem {before : Option Char} (h : '_' ∉ cs) :
    joinDigits before cs = some cs := by
  induction cs generalizing before with
  | nil => rw [joinDigits]
  | cons c cs ih =>
    rw [List.mem_cons, not_or] at h
    rw [joinDigits, ih h.2]
    · rfl
    · exact Ne.symm h.1

/-- Behind digits a hyphen is neither a sign nor part of an exponent. -/
theorem unread_of_hyphen {rest : List Char} (hds : ∀ d ∈ c :: ds, d.isDigit = true)
    (hrest : '_' ∉ rest) (hs : numeralChars s = c :: ds ++ '-' :: rest) :
    readInt? s = none ∧ readFloat? s = none := by
  have hhyphen : '-' ∈ numeralChars s := by simp [hs]
  have hsign : takeSign (numeralChars s) = (false, numeralChars s) := by
    rw [hs]
    exact takeSign_of_isDigit (hds c List.mem_cons_self) _
  constructor
  · -- A whole number has no hyphen behind its sign.
    have hdigits : digits? (numeralChars s) = none := by
      cases h : digits? (numeralChars s) with
      | none => rfl
      | some ds' => exact absurd (isDigit_of_digits? h '-' hhyphen) (by decide)
    simp only [readInt?, hsign, hdigits]
  · -- There is no underscore, so that joining leaves the characters as they are.
    have hjoin : joinDigits none (numeralChars s) = some (numeralChars s) := by
      refine joinDigits_of_notMem ?_
      rw [hs]
      intro hmem
      rcases List.mem_append.mp hmem with hmem | hmem
      · exact absurd (hds '_' hmem) (by decide)
      · rcases List.mem_cons.mp hmem with hmem | hmem
        · exact absurd hmem (by decide)
        · exact hrest hmem
    have hspecial : specialWord? (numeralChars s) = none := by
      cases h : specialWord? (numeralChars s) with
      | none => rfl
      | some x => exact absurd (letters_of_specialWord? h '-' hhyphen) (by decide)
    -- The digits before the hyphen are the whole part, and no exponent starts with a hyphen.
    have hdecimal : decimal? (numeralChars s) = none := by
      have htake : (numeralChars s).takeWhile Char.isDigit = c :: ds := by
        rw [hs, List.takeWhile_append_of_pos hds]
        exact List.append_nil _
      have hdrop : (numeralChars s).dropWhile Char.isDigit = '-' :: rest := by
        rw [hs, List.dropWhile_append_of_pos hds]
        rfl
      simp [decimal?, htake, hdrop, exponent?]
    simp [readFloat?, hjoin, float?, hsign, hspecial, hdecimal]

/-! ## Numbers between blanks -/

/-- The digits of all scripts are not blank. -/
private theorem isBlank_of_scriptZeros {z : Nat} (hz : z ∈ scriptZeros) (hlow : z ≤ c.toNat)
    (hhigh : c.toNat < z + 10) : isBlank c = false := by
  have htable : ∀ z ∈ scriptZeros, (z = 0x30 ∨ 0x600 ≤ z) ∧ (z + 10 ≤ 0x1680 ∨ 0x1681 ≤ z) ∧
      (z + 10 ≤ 0x2000 ∨ 0x3001 ≤ z) := by decide
  obtain ⟨hfirst, hogham, hspaces⟩ := htable z hz
  simp only [isBlank, Bool.or_eq_false_iff, Bool.and_eq_false_iff, decide_eq_false_iff_not,
    beq_eq_false_iff_ne, not_le]
  omega

/-- The ten characters from zero on are digits. -/
private theorem isDigit_ofNat {k : Nat} (hk : k < 10) : (Char.ofNat (48 + k)).isDigit = true := by
  have hall : ∀ k < 10, (Char.ofNat (48 + k)).isDigit = true := by decide
  exact hall k hk

/-- A character is one that stays as it is, or a digit of some script, which is not blank. -/
theorem asciiDigit_cases (c : Char) : asciiDigit c = c ∨
    (asciiDigit c).isDigit = true ∧ isBlank c = false := by
  unfold asciiDigit
  split
  · next z hz =>
    have hin := List.find?_some hz
    rw [Bool.and_eq_true, decide_eq_true_eq, decide_eq_true_eq] at hin
    exact .inr ⟨isDigit_ofNat (by omega),
      isBlank_of_scriptZeros (List.mem_of_find?_eq_some hz) hin.1 hin.2⟩
  · exact .inl rfl

/-- Spelling a digit in the plain way makes no space and removes none. -/
private theorem isSpace_asciiDigit (c : Char) : isSpace (asciiDigit c) = isSpace c := by
  rcases asciiDigit_cases c with h | ⟨hdigit, hblank⟩
  · rw [h]
  · rw [isSpace, isSpace, isBlank_of_isDigit hdigit, hblank, Bool.false_and, Bool.false_and]

/-- A blank is no digit of another script. -/
private theorem asciiDigit_of_isBlank (h : isBlank c = true) : asciiDigit c = c := by
  rcases asciiDigit_cases c with hc | ⟨-, hblank⟩
  · exact hc
  · rw [h] at hblank
    cases hblank

/-- A plain digit is spelled as it is. -/
theorem asciiDigit_of_isDigit (h : c.isDigit = true) : asciiDigit c = c := by
  obtain ⟨hlow, hhigh⟩ := toNat_of_isDigit h
  have hfind : scriptZeros.find? (fun z => z ≤ c.toNat && c.toNat < z + 10) = some 0x30 :=
    List.find?_cons_of_pos (by simp; omega)
  rw [asciiDigit, hfind]
  have hvalue : 48 + (c.toNat - 0x30) = c.toNat := by omega
  simp only [hvalue, Char.ofNat_toNat]

/-- The characters of a numeral are those of the trimmed text, with digits spelled in the plain way.
-/
theorem numeralChars_eq (s : String) :
    numeralChars s = (trimList isSpace s.toList).map asciiDigit :=
  trimList_map isSpace_asciiDigit

/-- A trimmed text has no white space around it. -/
theorem numeralChars_trim (s : String) :
    numeralChars (trim s) = (trimList isBlank s.toList).map asciiDigit := by
  have hspace : trimList isSpace (trimList isBlank s.toList) = trimList isBlank s.toList :=
    trimList_of_imp fun c hc => isBlank_of_isSpace hc
  rw [numeralChars_eq, trim, String.toList_ofList, hspace]

/-- Where trimming removes white space only, it makes no difference to the number that is read. -/
theorem read_trim (h : trimList isSpace s.toList = trimList isBlank s.toList) :
    readInt? (trim s) = readInt? s ∧ readFloat? (trim s) = readFloat? s := by
  have hchars : numeralChars (trim s) = numeralChars s := by
    rw [numeralChars_trim, numeralChars_eq, h]
  simp only [readInt?, readFloat?, hchars, and_self]

/-- A text with an information separator around it is read as no number. -/
theorem unread_of_separator (h : trimList isSpace s.toList ≠ trimList isBlank s.toList) :
    readInt? s = none ∧ readFloat? s = none := by
  -- Without its white space the text still has a blank that trimming removes.
  obtain ⟨c, hc, hblank⟩ : ∃ c ∈ trimList isSpace s.toList, isBlank c = true := by
    by_contra hnone
    push Not at hnone
    refine h ?_
    rw [← trimList_trimList_of_imp (p := isBlank) fun c hc => isBlank_of_isSpace hc]
    exact (trimList_eq_self_of_forall fun c hc => by simpa using hnone c hc).symm
  have hmem : c ∈ numeralChars s := by
    rw [numeralChars_eq, ← asciiDigit_of_isBlank hblank]
    exact List.mem_map_of_mem hc
  refine unread_of_mem hmem ?_
  rw [Bool.eq_false_iff]
  intro hnumeral
  rw [isBlank_of_isNumeralChar hnumeral] at hblank
  cases hblank

/-- A text with a character inside that no numeral has is read as no number when it is trimmed. -/
theorem unread_trim_of_mem (hc : c ∈ s.toList) (hblank : isBlank c = false)
    (hother : isNumeralChar (asciiDigit c) = false) :
    readInt? (trim s) = none ∧ readFloat? (trim s) = none := by
  refine unread_of_mem (c := asciiDigit c) ?_ hother
  rw [numeralChars_trim]
  exact List.mem_map_of_mem (mem_trimList hc hblank)

end Decimal
end CaseFlow
