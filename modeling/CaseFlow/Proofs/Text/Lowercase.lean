import CaseFlow.Text.Lowercase

/-!
# Two ways to lower a text

A text is lowered by the Unicode tables or by its ASCII letters only. The two differ in the capital
letters outside ASCII, of which the tables leave none and the other way leaves all. So a text that
is lowered by its ASCII letters comes out as one that is lowered by the tables only if it has no
such letter, and if the tables make the same of both (`lowerAscii_eq_lower_iff`).

The tables are runs of code points, and each letter outside ASCII that is lowered lies in one of
them. That no lower-case form is a capital letter again is a matter of how any two runs lie to each
other, which is decided run by run (`misses`) and not letter by letter.
-/

namespace CaseFlow.Text

variable {c : Char} {before cs : List Char} {s t : String} {r q : Nat × Nat × Nat × Int} {n : Nat}

/-- A capital letter outside ASCII, which only the tables lower. -/
def isForeignCapital (c : Char) : Bool := decide (0x80 ≤ c.toNat) && lowerFrom [] [c] != [c]

/-- Whether a text has a capital letter outside ASCII. -/
def hasForeignCapital (s : String) : Bool := s.toList.any isForeignCapital

/-! ## The letters of the tables -/

/-- Whether a code point is one of a run. -/
def inRun (n : Nat) (r : Nat × Nat × Nat × Int) : Bool :=
  r.1 ≤ n && n ≤ r.2.1 && (n - r.1) % r.2.2.1 == 0

/-- The lower-case form of a code point of a run. -/
def lowered (r : Nat × Nat × Nat × Int) (n : Nat) : Nat := n + r.2.2.2.toNat - (-r.2.2.2).toNat

/-- Whether no lower-case form of the first run is a letter of the second: it lies before or after
that, or between two letters of it. -/
def misses (r q : Nat × Nat × Nat × Int) : Bool :=
  Nat.blt (lowered r r.2.1) q.1 || Nat.blt q.2.1 (lowered r r.1) ||
    ((Nat.beq r.1 r.2.1 || Nat.beq r.2.2.1 2) && Nat.beq q.2.2.1 2 &&
      Nat.beq ((lowered r r.1 + q.1) % 2) 1)

/-- No lower-case form is a capital letter, be it the dotted capital I or one of a run. -/
private theorem misses_lowerRuns : (lowerRuns.all fun r =>
    Nat.blt 0 (lowered r r.1) && ((0x130, 0x130, 1, 0) :: lowerRuns).all (misses r)) = true := by
  decide +kernel

/-- A run of which no lower-case form is in another one has none of them there. -/
private theorem not_inRun_of_misses (hpos : 0 < lowered r r.1) (h : misses r q = true)
    (hn : inRun n r = true) : inRun (lowered r n) q = false := by
  rw [Bool.eq_false_iff]
  intro hboth
  simp only [inRun, Bool.and_eq_true, decide_eq_true_eq, beq_iff_eq] at hn hboth
  simp only [misses, Bool.or_eq_true, Bool.and_eq_true, Nat.blt_eq, Nat.beq_eq] at h
  simp only [lowered] at hpos h hboth
  obtain ⟨⟨hfirst, hlast⟩, hstep⟩ := hn
  obtain ⟨⟨hfirst', hlast'⟩, hstep'⟩ := hboth
  -- The lower-case forms lie before the second run, after it, or between its letters: then both
  -- runs step by two, or the first is one letter, and their first code points differ in parity.
  rcases h with (h | h) | ⟨⟨h | h, hq⟩, hodd⟩
  · omega
  · omega
  · rw [hq] at hstep'
    omega
  · rw [h] at hstep
    rw [hq] at hstep'
    omega

/-- What a run lowers a letter to stands in no run, so that lowering twice is lowering once. -/
private theorem not_inRun_lowered (hr : r ∈ lowerRuns) (hn : inRun n r = true)
    (hq : q ∈ (0x130, 0x130, 1, 0) :: lowerRuns) : inRun (lowered r n) q = false := by
  have hmisses := List.all_eq_true.mp misses_lowerRuns r hr
  rw [Bool.and_eq_true, Nat.blt_eq, List.all_eq_true] at hmisses
  exact not_inRun_of_misses hmisses.1 (hmisses.2 q hq) hn

/-! ## Letters -/

private theorem toNat_ofNat_cases (n : Nat) :
    (Char.ofNat n).toNat = n ∨ (Char.ofNat n).toNat = 0 := by
  unfold Char.ofNat
  by_cases h : n.isValidChar
  · rw [dif_pos h]
    exact .inl rfl
  · rw [dif_neg h]
    exact .inr rfl

/-- Outside ASCII no letter is lowered as an ASCII letter. -/
theorem toLower_of_le (h : 0x80 ≤ c.toNat) : c.toLower = c := by
  refine dif_neg ?_
  rintro ⟨-, hle⟩
  have hle : c.toNat ≤ 90 := hle
  omega

/-- An ASCII letter is lowered to one. -/
private theorem toNat_toLower_lt (h : c.toNat < 0x80) : c.toLower.toNat < 0x80 := by
  unfold Char.toLower
  split
  · next hupper =>
    have hle : c.toNat ≤ 90 := hupper.2
    have hsum : (c.val + 32).toNat = c.toNat + 32 := by
      rw [UInt32.toNat_add]
      exact Nat.mod_eq_of_lt (by show c.toNat + 32 < 2 ^ 32; omega)
    show (c.val + 32).toNat < 0x80
    omega
  · exact h

/-- The letters that are no capital letters outside ASCII. -/
theorem isForeignCapital_eq_false_iff : isForeignCapital c = false ↔
    c.toNat < 0x80 ∨ c.toNat ≠ 0x3A3 ∧ c.toNat ≠ 0x130 ∧ lowerChar c = c := by
  by_cases hsigma : c.toNat = 0x3A3
  · obtain rfl : c = 'Σ' := Char.toNat_inj.mp hsigma
    decide
  by_cases hdotted : c.toNat = 0x130
  · obtain rfl : c = 'İ' := Char.toNat_inj.mp hdotted
    decide
  by_cases hascii : c.toNat < 0x80
  · simp [isForeignCapital, hascii, Nat.not_le.mpr hascii]
  · simp [isForeignCapital, lowerFrom, hsigma, hdotted, hascii, Nat.not_lt.mp hascii]

/-- A letter outside ASCII that is in no run is not lowered. -/
theorem lowerChar_of_not_inRun (hascii : ¬c.toNat < 0x80)
    (h : ∀ r ∈ lowerRuns, inRun c.toNat r = false) : lowerChar c = c := by
  have hnone : lowerRuns.find? (inRun c.toNat) = none :=
    List.find?_eq_none.mpr fun r hr => by simp [h r hr]
  unfold inRun at hnone
  rw [lowerChar, if_neg hascii, hnone]

/-- A letter that is lowered by a run is no capital letter outside ASCII afterwards. -/
private theorem isForeignCapital_ofNat (hr : r ∈ lowerRuns) (hn : inRun n r = true) :
    isForeignCapital (Char.ofNat (lowered r n)) = false := by
  rw [isForeignCapital_eq_false_iff]
  have houtside {q} (hq : q ∈ (0x130, 0x130, 1, 0) :: lowerRuns) := not_inRun_lowered hr hn hq
  -- A number that is no code point would become the first one, which is an ASCII letter.
  rcases toNat_ofNat_cases (lowered r n) with h | h
  · rw [← h] at houtside
    by_cases hascii : (Char.ofNat (lowered r n)).toNat < 0x80
    · exact .inl hascii
    refine .inr ⟨fun hsigma => ?_, fun hdotted => ?_, ?_⟩
    · have hrun := houtside (q := (0x3A3, 0x3AB, 1, 32)) (by decide)
      rw [hsigma] at hrun
      cases hrun
    · have hrun := houtside (List.mem_cons_self ..)
      rw [hdotted] at hrun
      cases hrun
    · exact lowerChar_of_not_inRun hascii fun q hq => houtside (List.mem_cons_of_mem _ hq)
  · exact .inl (by omega)

/-- Nothing that the tables lower is a capital letter outside ASCII afterwards. -/
private theorem isForeignCapital_lowerChar (hsigma : c.toNat ≠ 0x3A3) (hdotted : c.toNat ≠ 0x130) :
    isForeignCapital (lowerChar c) = false := by
  by_cases hascii : c.toNat < 0x80
  · rw [lowerChar, if_pos hascii]
    exact isForeignCapital_eq_false_iff.mpr (.inl (toNat_toLower_lt hascii))
  -- A letter of no run stays, and is its own lower-case form; one of a run leaves all runs.
  cases hfound : lowerRuns.find? (inRun c.toNat) with
  | none =>
    have hsame := lowerChar_of_not_inRun hascii fun r hr => by
      simpa using List.find?_eq_none.mp hfound r hr
    rw [hsame]
    exact isForeignCapital_eq_false_iff.mpr (.inr ⟨hsigma, hdotted, hsame⟩)
  | some r =>
    -- The runs are tables of shifts, so that the letter is the one that its run shifts it to.
    have hlowered : lowerChar c = Char.ofNat (lowered r c.toNat) := by
      have himage : ((c.toNat : Int) + r.2.2.2).toNat = lowered r c.toNat := by
        unfold lowered
        omega
      unfold inRun at hfound
      rw [lowerChar, if_neg hascii, hfound]
      exact congrArg Char.ofNat himage
    rw [hlowered]
    exact isForeignCapital_ofNat (List.mem_of_find?_eq_some hfound) (List.find?_some hfound)

/-! ## Texts -/

/-- Without capital letters outside ASCII, lowering by the tables lowers the ASCII letters. -/
private theorem lowerFrom_eq_map (h : ∀ c ∈ cs, isForeignCapital c = false) (before : List Char) :
    lowerFrom before cs = cs.map Char.toLower := by
  induction cs generalizing before with
  | nil => rfl
  | cons c cs ih =>
    obtain ⟨hc, hcs⟩ := List.forall_mem_cons.mp h
    -- Sigma and the dotted I, which are lowered apart, are capital letters outside ASCII.
    have hhere : c.toNat ≠ 0x3A3 ∧ c.toNat ≠ 0x130 ∧ lowerChar c = c.toLower := by
      by_cases hascii : c.toNat < 0x80
      · exact ⟨by omega, by omega, if_pos hascii⟩
      · obtain ⟨hsigma, hdotted, hsame⟩ :=
          (isForeignCapital_eq_false_iff.mp hc).resolve_left hascii
        exact ⟨hsigma, hdotted, by rw [hsame, toLower_of_le (Nat.not_lt.mp hascii)]⟩
    simp [lowerFrom, hhere, ih hcs]

/-- No capital letter outside ASCII is left by the tables. -/
private theorem isForeignCapital_of_mem_lowerFrom (h : c ∈ lowerFrom before cs) :
    isForeignCapital c = false := by
  induction cs generalizing before with
  | nil => cases h
  | cons d cs ih =>
    rw [lowerFrom] at h
    -- What the first letter is lowered to depends on its neighbours, and is no capital in either
    -- case.
    rcases List.mem_append.mp h with h | h
    · split at h
      · -- A capital sigma becomes one of two small ones.
        split at h <;> rw [List.mem_singleton.mp h] <;> decide
      · split at h
        · -- A dotted capital I becomes a small one and a dot.
          rw [List.mem_cons, List.mem_singleton] at h
          rcases h with rfl | rfl <;> decide
        · next hsigma hdotted =>
          rw [List.mem_singleton.mp h]
          exact isForeignCapital_lowerChar (by simpa using hsigma) (by simpa using hdotted)
    · exact ih h

/-- What lowering the ASCII letters makes of one text and lowering by the tables of another are the
same exactly if the tables make the same of both, and there is no capital letter outside ASCII in
the first. -/
theorem lowerAscii_eq_lower_iff :
    lowerAscii s = lower t ↔ lower s = lower t ∧ hasForeignCapital s = false := by
  -- Without such a letter the two lowerings do the same.
  have hagree (h : hasForeignCapital s = false) : lower s = lowerAscii s := by
    have hnone : ∀ c ∈ s.toList, isForeignCapital c = false := by
      simpa [hasForeignCapital, List.any_eq_false] using h
    rw [lower, lowerAscii, lowerFrom_eq_map hnone]
  constructor
  · intro h
    have hnone : hasForeignCapital s = false := by
      rw [hasForeignCapital, List.any_eq_false]
      intro c hc hforeign
      have hbeyond : 0x80 ≤ c.toNat := by
        simp only [isForeignCapital, Bool.and_eq_true, decide_eq_true_eq] at hforeign
        exact hforeign.1
      -- Such a letter would be there still in the other text.
      have hlists : s.toList.map Char.toLower = lowerFrom [] t.toList := by
        simpa [lowerAscii, lower] using congrArg String.toList h
      have hmem : c ∈ lowerFrom [] t.toList := by
        rw [← hlists, ← toLower_of_le hbeyond]
        exact List.mem_map_of_mem hc
      rw [isForeignCapital_of_mem_lowerFrom hmem] at hforeign
      cases hforeign
    exact ⟨(hagree hnone).trans h, hnone⟩
  · rintro ⟨h, hnone⟩
    exact (hagree hnone).symm.trans h

end CaseFlow.Text
