import CaseFlow.Text.Blank
import Mathlib.Data.List.DropRight

/-!
# Trimmed texts

Trimming drops the characters of one kind at both ends of a text. What is left has none of them at
either end, so trimming it again changes nothing (`Text.trim_trim`). A text is what trimming leaves
of it between two runs of such characters (`Text.exists_trimList`), which make no difference to what
is left (`Text.trimList_surround`); all other lemmas are drawn from these two.

Two kinds of blanks are trimmed: those that count as white space in every text, and the fewer ones
that may stand around a number. Trimming one kind before or after the other is trimming the larger
kind (`Text.trimList_trimList_of_imp`, `Text.trimList_of_imp`). No digit is a blank of either kind.
-/

namespace CaseFlow.Text

variable {p q : Char → Bool} {cs : List Char} {c : Char}

/-- Dropping at the end keeps the first character, if any is left. -/
private theorem dropWhile_rdropWhile_dropWhile :
    ((cs.dropWhile p).rdropWhile p).dropWhile p = (cs.dropWhile p).rdropWhile p := by
  rw [List.dropWhile_eq_self_iff]
  intro hne
  have hpre := List.rdropWhile_prefix p (l := cs.dropWhile p)
  have hhead := List.dropWhile_get_zero_not p cs (lt_of_lt_of_le hne hpre.length_le)
  have := hpre.getElem (i := 0) hne
  simpa [this] using hhead

/-- Trimming a list of characters twice is trimming it once. -/
theorem trimList_trimList : trimList p (trimList p cs) = trimList p cs := by
  show ((((cs.dropWhile p).rdropWhile p).dropWhile p).rdropWhile p)
    = (cs.dropWhile p).rdropWhile p
  rw [dropWhile_rdropWhile_dropWhile, List.rdropWhile_idempotent]

/-- Trimming twice is trimming once. -/
@[simp]
theorem trim_trim (s : String) : trim (trim s) = trim s := by
  simp [trim, trimList_trimList]

/-- A list of characters is what trimming leaves of it, with what it drops on either side. -/
theorem exists_trimList (p : Char → Bool) (cs : List Char) :
    ∃ before after, cs = before ++ trimList p cs ++ after ∧
      (∀ c ∈ before, p c = true) ∧ ∀ c ∈ after, p c = true := by
  refine ⟨cs.takeWhile p, (cs.dropWhile p).rtakeWhile p, ?_, fun c hc => List.mem_takeWhile_imp hc,
    fun c hc => List.mem_rtakeWhile_imp hc⟩
  have hkept : (cs.dropWhile p).rdropWhile p ++ (cs.dropWhile p).rtakeWhile p = cs.dropWhile p :=
    List.rdropWhile_append_rtakeWhile
  show cs = cs.takeWhile p ++ (cs.dropWhile p).rdropWhile p ++ (cs.dropWhile p).rtakeWhile p
  rw [List.append_assoc, hkept, List.takeWhile_append_dropWhile]

/-- Characters that trimming drops make no difference at either end. -/
theorem trimList_surround {before after : List Char} (hbefore : ∀ c ∈ before, p c = true)
    (hafter : ∀ c ∈ after, p c = true) : trimList p (before ++ cs ++ after) = trimList p cs := by
  have hreverse : ∀ c ∈ after.reverse, p c = true := fun c hc => hafter c (List.mem_reverse.mp hc)
  unfold trimList
  rw [List.append_assoc, List.dropWhile_append_of_pos hbefore, List.dropWhile_append]
  split
  · next hnone =>
    -- Nothing but such characters is left, before and after.
    rw [List.isEmpty_iff] at hnone
    rw [hnone, ← List.append_nil after, List.dropWhile_append_of_pos hafter]
    rfl
  · rw [List.reverse_append, List.dropWhile_append_of_pos hreverse]

/-- Trimming less before makes no difference. -/
theorem trimList_trimList_of_imp (h : ∀ c, q c = true → p c = true) :
    trimList p (trimList q cs) = trimList p cs := by
  obtain ⟨before, after, hcs, hbefore, hafter⟩ := exists_trimList q cs
  conv => rhs; rw [hcs]
  rw [trimList_surround (fun c hc => h c (hbefore c hc)) fun c hc => h c (hafter c hc)]

/-- Trimming only drops characters. -/
theorem trimList_sublist : (trimList p cs).Sublist cs := by
  obtain ⟨before, after, hcs, -, -⟩ := exists_trimList p cs
  conv => rhs; rw [hcs, List.append_assoc]
  exact (List.sublist_append_left _ after).trans (List.sublist_append_right before _)

/-- Trimming less afterwards makes no difference. -/
theorem trimList_of_imp (h : ∀ c, q c = true → p c = true) :
    trimList q (trimList p cs) = trimList p cs := by
  refine trimList_sublist.antisymm ?_
  have hagain : trimList p (trimList q (trimList p cs)) = trimList p cs := by
    rw [trimList_trimList_of_imp h, trimList_trimList]
  have hsub : (trimList p (trimList q (trimList p cs))).Sublist (trimList q (trimList p cs)) :=
    trimList_sublist
  rwa [hagain] at hsub

/-- Trimming leaves every character that it does not drop at an end. -/
theorem mem_trimList (hc : c ∈ cs) (hp : p c = false) : c ∈ trimList p cs := by
  obtain ⟨before, after, hcs, hbefore, hafter⟩ := exists_trimList p cs
  rw [hcs, List.mem_append, List.mem_append] at hc
  rcases hc with (hc | hc) | hc
  · rw [hbefore c hc] at hp
    cases hp
  · exact hc
  · rw [hafter c hc] at hp
    cases hp

/-- Where no end is to be dropped, trimming changes nothing. -/
theorem trimList_eq_self (hfirst : ∀ c ∈ cs.head?, p c = false)
    (hlast : ∀ c ∈ cs.getLast?, p c = false) : trimList p cs = cs := by
  show (cs.dropWhile p).rdropWhile p = cs
  have hdrop : cs.dropWhile p = cs := by
    cases cs with
    | nil => rfl
    | cons c cs => simpa using hfirst c rfl
  rw [hdrop, List.rdropWhile_eq_self_iff]
  intro hne
  simpa using hlast _ (List.getLast?_eq_some_getLast hne)

/-- Where no character is to be dropped, trimming changes nothing. -/
theorem trimList_eq_self_of_forall (h : ∀ c ∈ cs, p c = false) : trimList p cs = cs :=
  trimList_eq_self (fun c hc => h c (List.mem_of_mem_head? hc))
    fun c hc => h c (List.mem_of_mem_getLast? hc)

/-- Trimming goes before a map that keeps what it drops. -/
theorem trimList_map {f : Char → Char} (h : ∀ c, p (f c) = p c) :
    trimList p (cs.map f) = (trimList p cs).map f := by
  have hcomp : p ∘ f = p := funext h
  simp only [trimList, List.dropWhile_map, ← List.map_reverse, hcomp]

/-- A text with no blank at either end is its own trim. -/
private theorem trim_eq_self {s : String} (hfirst : ∀ c ∈ s.toList.head?, isBlank c = false)
    (hlast : ∀ c ∈ s.toList.getLast?, isBlank c = false) : trim s = s := by
  rw [trim, trimList_eq_self hfirst hlast, String.ofList_toList]

theorem trim_eq_self_of_ends {s : String} {first last : Char} {cs : List Char}
    (hs : s.toList = first :: (cs ++ [last])) (hfirst : isBlank first = false)
    (hlast : isBlank last = false) : trim s = s := by
  apply trim_eq_self
  · rw [hs]
    rintro c ⟨⟩
    exact hfirst
  · rw [hs, ← List.cons_append, List.getLast?_concat]
    rintro c ⟨⟩
    exact hlast

theorem trim_eq_self_of_forall {s : String} (h : ∀ c ∈ s.toList, isBlank c = false) :
    trim s = s := by
  rw [trim, trimList_eq_self_of_forall h, String.ofList_toList]

/-! ## Blanks -/

theorem isBlank_of_isSpace (h : isSpace c = true) : isBlank c = true := by
  rw [isSpace, Bool.and_eq_true] at h
  exact h.1

/-- A character between the exclamation mark and the tilde is not blank. -/
theorem isBlank_eq_false (hlow : 0x21 ≤ c.toNat) (hhigh : c.toNat ≤ 0x7E) : isBlank c = false := by
  simp only [isBlank, Bool.or_eq_false_iff, Bool.and_eq_false_iff, decide_eq_false_iff_not,
    beq_eq_false_iff_ne, not_le]
  omega

theorem toNat_of_isDigit (h : c.isDigit = true) : 0x30 ≤ c.toNat ∧ c.toNat ≤ 0x39 := by
  simp only [Char.isDigit, Bool.and_eq_true, decide_eq_true_eq, UInt32.le_iff_toNat_le] at h
  exact h

theorem isBlank_of_isDigit (h : c.isDigit = true) : isBlank c = false := by
  obtain ⟨hlow, hhigh⟩ := toNat_of_isDigit h
  exact isBlank_eq_false (by omega) (by omega)

/-- A blank is no digit. -/
theorem isDigit_of_isBlank (h : isBlank c = true) : c.isDigit = false := by
  rw [Bool.eq_false_iff]
  intro hdigit
  rw [isBlank_of_isDigit hdigit] at h
  cases h

end CaseFlow.Text
