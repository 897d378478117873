import CaseFlow.Proofs.Calendar.Dates
import CaseFlow.Value.Display

/-!
# What values are shown as

A submitted value may be taken for the text that it is shown as, so it matters what such texts can
be taken for in turn.

* `Value.trim_shown`: numbers are shown with digits, signs, points and letters, dates with digits
  and hyphens, and lists and objects with brackets at their ends, so that there are no blanks to
  trim.
* `Value.unread_shown`: dates, timestamps, lists and objects are shown with characters, or with
  hyphens in places, that no numeral has, so that they are not taken for numbers.

Timestamps are left out of the first: that they have no blanks at their ends is not needed. Both go
by cases on the value; the characters of a number are traced to its digits and its layout.
-/

namespace CaseFlow

open CaseFlow.Text Decimal

/-! ## Numbers have no blanks -/

namespace Decimal

/-- The digits of a number hold no blank. -/
theorem isBlank_of_mem_toDigits {n : Nat} {c : Char} (h : c ∈ Nat.toDigits 10 n) :
    isBlank c = false :=
  isBlank_of_isDigit (Nat.isDigit_of_mem_toDigits (by decide) (by decide) h)

private theorem mem_of_mem_stripZeros {c : Char} {cs : List Char} (h : c ∈ stripZeros cs) :
    c ∈ cs := by
  rw [stripZeros, List.mem_reverse] at h
  exact List.mem_reverse.mp ((List.dropWhile_sublist _).mem h)

/-- A number is written without a blank, in every layout. -/
private theorem isBlank_of_mem_write (l : Layout) (d : Digits) :
    ∀ c ∈ l.write d, isBlank c = false := by
  have hdigits (n : Nat) : ∀ c ∈ Nat.toDigits 10 n, isBlank c = false :=
    fun c hc => isBlank_of_mem_toDigits hc
  have hzeros (k : Nat) : ∀ c ∈ List.replicate k '0', isBlank c = false := by
    intro c hc
    rw [List.eq_of_mem_replicate hc]
    rfl
  unfold Layout.write
  extract_lets cs whole fraction exponent digits mantissa
  -- All parts of the number are made of its digits and of zeros.
  have hcs : ∀ c ∈ cs, isBlank c = false := by
    simp only [cs]
    split
    · exact hzeros 1
    · exact fun c hc => hdigits _ c (mem_of_mem_stripZeros hc)
  clear_value cs
  have hfraction : ∀ c ∈ fraction, isBlank c = false := by
    simp only [fraction]
    split
    · exact hzeros 1
    · exact fun c hc => hcs c (List.mem_of_mem_drop hc)
  have hmantissa : ∀ c ∈ mantissa, isBlank c = false := by
    simp only [mantissa]
    -- Without an exponent the point stands before, among or behind the digits; with one it follows
    -- the first.
    split
    · exact hcs
    · rw [List.forall_mem_cons] at hcs ⊢
      exact ⟨hcs.1, List.forall_mem_cons.mpr ⟨rfl, hcs.2⟩⟩
    · simp
  split
  · split
    · simp only [List.forall_mem_cons, List.forall_mem_append]
      exact ⟨rfl, rfl, hzeros _, hcs⟩
    · simp only [List.forall_mem_cons, List.forall_mem_append]
      exact ⟨⟨fun c hc => hcs c (List.mem_of_mem_take hc), hzeros _⟩, rfl, hfraction⟩
  · simp only [List.forall_mem_cons, List.forall_mem_append]
    refine ⟨hmantissa, rfl, ?_, hzeros _, hdigits _⟩
    split <;> rfl

/-- The text of a floating-point number holds no blank. -/
private theorem isBlank_of_mem_floatText (x : Float) :
    ∀ c ∈ (floatText x).toList, isBlank c = false := by
  -- The sign stands before the digits and is no blank.
  have hsign (negative : Bool) (cs : List Char) (hcs : ∀ c ∈ cs, isBlank c = false) :
      ∀ c ∈ (String.ofList (if negative then '-' :: cs else cs)).toList, isBlank c = false := by
    rw [String.toList_ofList]
    split
    · exact List.forall_mem_cons.mpr ⟨rfl, hcs⟩
    · exact hcs
  unfold floatText
  extract_lets sign
  split
  · simp [isBlank]
  · exact hsign _ _ (by simp [isBlank])
  · exact hsign _ _ (by simp [isBlank])
  · exact hsign _ _ (isBlank_of_mem_write _ _)

end Decimal

namespace Value

private theorem isBlank_of_mem_toString (n : Int) :
    ∀ c ∈ (toString n).toList, isBlank c = false := by
  have hdigits (k : Nat) : ∀ c ∈ Nat.toDigits 10 k, isBlank c = false :=
    fun c hc => isBlank_of_mem_toDigits hc
  cases n with
  | ofNat k => simpa [toString, Int.repr, Nat.repr] using hdigits k
  | negSucc k =>
    have hlist : (toString (Int.negSucc k)).toList = '-' :: Nat.toDigits 10 (k + 1) := by
      simp [toString, Int.repr, Nat.repr]
    rw [hlist]
    exact List.forall_mem_cons.mpr ⟨rfl, hdigits (k + 1)⟩

/-! ## What is shown -/

/-- Neither a truth value nor a number, a date, a list or an object is shown with blanks around
it. -/
theorem trim_shown {v : Value} (hv : ∀ s, v ≠ .text s) (ht : ∀ t, v ≠ .timestamp t) :
    trim v.shown = v.shown := by
  cases v with
  | text s => exact absurd rfl (hv s)
  | null => rfl
  | bool b => cases b <;> rfl
  | int n => exact trim_eq_self_of_forall (isBlank_of_mem_toString n)
  | float x => exact trim_eq_self_of_forall (isBlank_of_mem_floatText x)
  | date d => exact Date.trim_text d
  | timestamp t => exact absurd rfl (ht t)
  | list vs =>
    -- The brackets are the first and the last character, so that blanks within do not matter.
    have hlist : (shown (.list vs)).toList = '[' :: ((writtenItems vs).toList ++ [']']) := by
      simp [shown, written]
    exact trim_eq_self_of_ends hlist rfl rfl
  | object fs =>
    have hlist : (shown (.object fs)).toList =
        '\x7b' :: ((writtenFields fs).toList ++ ['\x7d']) := by
      simp [shown, written]
    exact trim_eq_self_of_ends hlist rfl rfl

/-- Neither a date nor a timestamp, a list or an object is shown as a number. -/
theorem unread_shown {v : Value} (hv : v.isEmpty = false) (htext : ∀ s, v ≠ .text s)
    (hbool : ∀ b, v ≠ .bool b) (hint : ∀ n, v ≠ .int n) (hfloat : ∀ x, v ≠ .float x) :
    readInt? (trim v.shown) = none ∧ readFloat? (trim v.shown) = none := by
  cases v with
  | null => cases hv
  | text s => exact absurd rfl (htext s)
  | bool b => exact absurd rfl (hbool b)
  | int n => exact absurd rfl (hint n)
  | float x => exact absurd rfl (hfloat x)
  | date d =>
    rw [shown, Date.trim_text]
    exact d.unread_text
  | timestamp t =>
    -- One character that no number is written with is enough.
    refine unread_trim_of_mem (c := ':') ?_ (by decide) (by decide)
    simp [shown, Timestamp.displayText, Timestamp.textWith, Timestamp.toList_timeText]
  | list vs =>
    exact unread_trim_of_mem (c := '[') (by simp [shown, written]) (by decide) (by decide)
  | object fs =>
    exact unread_trim_of_mem (c := '\x7b') (by simp [shown, written]) (by decide) (by decide)

end Value

end CaseFlow
