import CaseFlow.Proofs.Text.Trimmed
import CaseFlow.Workflow.Identity
import Mathlib.Data.List.Dedup
import Mathlib.Data.List.Nodup
import Mathlib.Data.List.Perm.Subperm
import Mathlib.Data.Nat.Find

/-!
# Ids that are new

An id that is drawn until it is not in use is not in use, as long as the texts that are drawn for it
have distinct heads (`IdSource.drawNew_not_mem`). The search is bounded by the number of ids in use.
It ends at the bound with an id in use only if all candidates up to there are in use
(`IdSource.drawNew_not_mem_of_finds`); but different heads make different candidates, and these
would be one more than there are ids (`IdSource.le_length_of_forall_mem`).

What is meant needs no bound: draw until an id is not in use (`IdSource.Search`). Such a search may
have no end, namely where all candidates are in use (`IdSource.exists_search_iff`). Where heads are
distinct it ends at the first candidate that is not in use, with at most one more draw than there
are different ids in use, and the bounded search gives the same (`IdSource.search_finds_first`).
-/

namespace CaseFlow.IdSource

open CaseFlow.Text

variable {s : IdSource} {kind : String} {taken : List String} {bound i j k m : Nat}
  {r : String × IdSource}

/-- The id that comes of the text to be drawn next but `k`. -/
def candidate (s : IdSource) (kind : String) (k : Nat) : String := s!"{kind}-{s.head 8 k}"

/-- The texts that are drawn on the way from one source to another have distinct heads. -/
def DrawsApart (s s' : IdSource) : Prop := ((List.range (s'.drawn - s.drawn)).map (s.head 8)).Nodup

instance (s s' : IdSource) : Decidable (s.DrawsApart s') :=
  inferInstanceAs (Decidable (List.Nodup _))

/-- Different heads make different candidates. -/
private theorem candidate_inj :
    s.candidate kind i = s.candidate kind j ↔ s.head 8 i = s.head 8 j := by
  simp only [candidate, String.append_right_inj]
  exact Iff.rfl

/-- A search from place `first` on, up to place `last`, ends at place `m`. -/
structure SearchEnds (s : IdSource) (kind : String) (taken : List String) (first last m : Nat) :
    Prop where
  /-- The search goes forward, -/
  first_le : first ≤ m
  /-- and not beyond the last place. -/
  le_last : m ≤ last
  /-- Before its end all candidates are in use. -/
  passed : ∀ i, first ≤ i → i < m → s.candidate kind i ∈ taken
  /-- It ends at a candidate that is not in use, or at the last place. -/
  ends : m < last → s.candidate kind m ∉ taken

private theorem misses_succ : s.misses kind taken (bound + 1) k =
    if taken.contains (s.candidate kind k) then s.misses kind taken bound (k + 1) else k := rfl

/-- The search ends where its misses do, within any bound. -/
theorem searchEnds_misses (s : IdSource) (kind : String) (taken : List String) (bound k : Nat) :
    s.SearchEnds kind taken k (k + bound) (s.misses kind taken bound k) := by
  induction bound generalizing k with
  | zero =>
    exact ⟨Nat.le_refl k, Nat.le_refl k, fun i hi hlt => absurd hlt (Nat.not_lt.mpr hi),
      fun hlt => absurd hlt (Nat.lt_irrefl k)⟩
  | succ bound ih =>
    -- A candidate that is taken is passed over; at one that is free the search ends.
    rw [misses_succ]
    by_cases htaken : s.candidate kind k ∈ taken
    · rw [if_pos (List.contains_iff_mem.mpr htaken)]
      obtain ⟨hfirst, hlast, hpassed, hends⟩ := ih (k + 1)
      refine ⟨by omega, by omega, fun i hi hlt => ?_, fun hlt => hends (by omega)⟩
      rcases Nat.eq_or_lt_of_le hi with rfl | hi
      · exact htaken
      · exact hpassed i hi hlt
    · rw [if_neg (mt List.contains_iff_mem.mp htaken)]
      exact ⟨Nat.le_refl k, by omega, fun i hi hlt => by omega, fun _ => htaken⟩

/-- One of the texts that the search goes through gives an id that is not in use. -/
def Finds (s : IdSource) (kind : String) (taken : List String) : Prop :=
  ∃ k < taken.length + 1, s.candidate kind k ∉ taken

instance (s : IdSource) (kind : String) (taken : List String) : Decidable (s.Finds kind taken) :=
  inferInstanceAs (Decidable (∃ k < taken.length + 1, s.candidate kind k ∉ taken))

/-- A search that has something to find finds it. -/
theorem drawNew_not_mem_of_finds (h : s.Finds kind taken) : (s.drawNew kind taken).1 ∉ taken := by
  obtain ⟨k, hk, hfree⟩ := h
  have hsearch := s.searchEnds_misses kind taken taken.length 0
  show s.candidate kind (s.misses kind taken taken.length 0) ∉ taken
  generalize s.misses kind taken taken.length 0 = m at hsearch ⊢
  intro hmem
  have hlast : ¬m < 0 + taken.length := fun hlt => hsearch.ends hlt hmem
  -- The search would have passed the candidate, or ended at it.
  rcases Nat.lt_or_ge k m with hlt | hge
  · exact hfree (hsearch.passed k (Nat.zero_le k) hlt)
  · obtain rfl : k = m := by omega
    exact hfree hmem

/-- The texts before place `bound` have heads without blanks, as heads of hexadecimal digits are. -/
def Blankless (s : IdSource) (bound : Nat) : Prop :=
  ∀ k < bound, ∀ c ∈ (s.head 8 k).toList, isBlank c = false

instance (s : IdSource) (bound : Nat) : Decidable (s.Blankless bound) :=
  inferInstanceAs (Decidable (∀ k < bound, ∀ c ∈ (s.head 8 k).toList, isBlank c = false))

/-- An id that is drawn has no blanks if its parts have none. -/
theorem trim_drawNew (hkind : kind.toList.any isBlank = false)
    (h : s.Blankless (taken.length + 1)) :
    trim (s.drawNew kind taken).1 = (s.drawNew kind taken).1 := by
  have hsearch := s.searchEnds_misses kind taken taken.length 0
  show trim (s.candidate kind (s.misses kind taken taken.length 0)) = s.candidate kind _
  generalize s.misses kind taken taken.length 0 = m at hsearch ⊢
  have hlast := hsearch.le_last
  refine trim_eq_self_of_forall fun c hc => ?_
  simp only [candidate, String.toList_append, List.mem_append] at hc
  -- The id is made of the kind, a hyphen, and a part of the text that was drawn.
  rcases hc with (hc | hc) | hc
  · exact Bool.eq_false_iff.mpr (List.any_eq_false.mp hkind c hc)
  · obtain rfl : c = '-' := List.mem_singleton.mp hc
    decide
  · exact h m (by omega) c hc

/-- There are no more candidates in use than ids in use, if their heads are distinct. -/
theorem le_length_of_forall_mem (hheads : ((List.range m).map (s.head 8)).Nodup)
    (htaken : ∀ i < m, s.candidate kind i ∈ taken) : m ≤ taken.length := by
  have hnodup : ((List.range m).map (s.candidate kind)).Nodup := by
    refine List.Nodup.map_on (fun i hi j hj heq => ?_) List.nodup_range
    exact List.inj_on_of_nodup_map hheads hi hj (candidate_inj.mp heq)
  have hsubset : (List.range m).map (s.candidate kind) ⊆ taken := by
    intro id hid
    obtain ⟨i, hi, rfl⟩ := List.mem_map.mp hid
    exact htaken i (List.mem_range.mp hi)
  simpa using (hnodup.subperm hsubset).length_le

/-- A search through texts with distinct heads has something to find. -/
private theorem finds_of_drawsApart (h : s.DrawsApart (s.drawNew kind taken).2) :
    s.Finds kind taken := by
  have hsearch := s.searchEnds_misses kind taken taken.length 0
  have hheads : ((List.range (s.misses kind taken taken.length 0 + 1)).map (s.head 8)).Nodup := by
    simpa [DrawsApart, drawNew, skip] using h
  generalize s.misses kind taken taken.length 0 = m at hsearch hheads
  by_contra hnone
  have hall : ∀ k < taken.length + 1, s.candidate kind k ∈ taken := by
    intro k hk
    by_contra hfree
    exact hnone ⟨k, hk, hfree⟩
  -- With all candidates in use the search goes to its end, and so many are not in use.
  obtain rfl : m = taken.length := by
    by_contra hne
    have hle := hsearch.le_last
    exact hsearch.ends (by omega) (hall m (by omega))
  have hlong := le_length_of_forall_mem hheads hall
  omega

/-- An id that is drawn to be new is new, if the texts that are drawn have distinct heads. -/
theorem drawNew_not_mem (h : s.DrawsApart (s.drawNew kind taken).2) :
    (s.drawNew kind taken).1 ∉ taken :=
  drawNew_not_mem_of_finds (finds_of_drawsApart h)

/-! ## The search without a bound -/

/-- After some candidates are skipped the next ones follow. -/
@[simp]
theorem candidate_skip : (s.skip j).candidate kind i = s.candidate kind (j + i) := by
  simp only [candidate, head, skip, Nat.add_assoc]

@[simp]
theorem skip_skip : (s.skip i).skip j = s.skip (i + j) := by
  simp only [skip, Nat.add_assoc]

/-- The search for an id that is not in use, from a source to the id and the source after it, with
as many draws as it takes. A search without an end is related to nothing. -/
inductive Search (kind : String) (taken : List String) : IdSource → String × IdSource → Prop where
  /-- The id that is drawn is not in use. -/
  | found {s : IdSource} (hfree : (s.draw kind 8).1 ∉ taken) : Search kind taken s (s.draw kind 8)
  /-- The id that is drawn is in use, and the search goes on. -/
  | again {s : IdSource} {r : String × IdSource} (hmem : (s.draw kind 8).1 ∈ taken)
      (hrest : Search kind taken (s.draw kind 8).2 r) : Search kind taken s r

/-- The text to be drawn next but `k` is the first that gives an id that is not in use. -/
structure FirstFree (s : IdSource) (kind : String) (taken : List String) (k : Nat) : Prop where
  /-- The texts before it give ids in use, -/
  passed : ∀ i < k, s.candidate kind i ∈ taken
  /-- and it does not. -/
  free : s.candidate kind k ∉ taken

/-- If some candidate is free there is a first one. -/
theorem exists_firstFree (hfree : s.candidate kind k ∉ taken) :
    ∃ m ≤ k, s.FirstFree kind taken m := by
  have hsome : ∃ m, s.candidate kind m ∉ taken := ⟨k, hfree⟩
  refine ⟨Nat.find hsome, Nat.find_min' hsome hfree, ?_, Nat.find_spec hsome⟩
  intro i hi
  exact Decidable.of_not_not (Nat.find_min hsome hi)

/-- There is one first free candidate at most. -/
theorem FirstFree.unique (hk : s.FirstFree kind taken k) (hm : s.FirstFree kind taken m) :
    k = m := by
  rcases Nat.lt_trichotomy k m with hlt | heq | hgt
  · exact absurd (hm.passed k hlt) hk.free
  · exact heq
  · exact absurd (hk.passed m hgt) hm.free

/-- What is first after a text that gives an id in use is first together with that text. -/
private theorem FirstFree.of_skip (hmem : s.candidate kind 0 ∈ taken)
    (h : (s.skip 1).FirstFree kind taken k) : s.FirstFree kind taken (1 + k) where
  passed := by
    rintro (_ | i) hi
    · exact hmem
    · have hpassed := h.passed i (by omega)
      rwa [candidate_skip, Nat.add_comm] at hpassed
  free := by simpa using h.free

/-- A search goes on behind texts that give ids in use. -/
private theorem search_of_skip (hpassed : ∀ i < k, s.candidate kind i ∈ taken)
    (h : (s.skip k).Search kind taken r) : s.Search kind taken r := by
  induction k with
  | zero => exact h
  | succ k ih =>
    have hmem : (s.skip k).candidate kind 0 ∈ taken := by
      simpa using hpassed k (Nat.lt_succ_self k)
    rw [← skip_skip] at h
    exact ih (fun i hi => hpassed i (Nat.lt_succ_of_lt hi)) (.again hmem h)

/-- A search that ends has drawn the texts up to the first that gives an id not in use. -/
theorem exists_firstFree_of_search (h : s.Search kind taken r) :
    ∃ k, s.FirstFree kind taken k ∧ r = (s.candidate kind k, s.skip (k + 1)) := by
  induction h with
  | found hfree => exact ⟨0, ⟨nofun, hfree⟩, rfl⟩
  | again hmem _ ih =>
    obtain ⟨k, hfirst, hr⟩ := ih
    refine ⟨1 + k, .of_skip hmem hfirst, hr.trans ?_⟩
    exact Prod.ext candidate_skip skip_skip

/-- A search ends at the first text that gives an id not in use, and nowhere else. -/
theorem FirstFree.search_iff (h : s.FirstFree kind taken k) :
    s.Search kind taken r ↔ r = (s.candidate kind k, s.skip (k + 1)) := by
  constructor
  · intro hsearch
    obtain ⟨m, hfirst, hr⟩ := exists_firstFree_of_search hsearch
    rw [hr, h.unique hfirst]
  · rintro rfl
    have hfree : (s.skip k).candidate kind 0 ∉ taken := by simpa using h.free
    have hfound : (s.skip k).Search kind taken
        ((s.skip k).candidate kind 0, (s.skip k).skip 1) := .found hfree
    rw [candidate_skip, skip_skip] at hfound
    exact search_of_skip h.passed hfound

/-- A search has an end unless all texts give ids in use. -/
theorem exists_search_iff :
    (∃ r, s.Search kind taken r) ↔ ∃ k, s.candidate kind k ∉ taken := by
  constructor
  · rintro ⟨r, hsearch⟩
    obtain ⟨k, hfirst, -⟩ := exists_firstFree_of_search hsearch
    exact ⟨k, hfirst.free⟩
  · rintro ⟨k, hfree⟩
    obtain ⟨m, -, hfirst⟩ := exists_firstFree hfree
    exact ⟨_, hfirst.search_iff.mpr rfl⟩

/-- The bounded search gives what the search without a bound does exactly where it has something
to find. -/
private theorem search_drawNew_iff :
    s.Search kind taken (s.drawNew kind taken) ↔ s.Finds kind taken := by
  have hbounded := s.searchEnds_misses kind taken taken.length 0
  constructor
  · intro hsearch
    obtain ⟨k, hfirst, hr⟩ := exists_firstFree_of_search hsearch
    -- Both searches have drawn equally often, so that they ended at the same candidate.
    have hdrawn : s.drawn + (s.misses kind taken taken.length 0 + 1) = s.drawn + (k + 1) :=
      congrArg (fun r => r.2.drawn) hr
    have hlast := hbounded.le_last
    exact ⟨k, by omega, hfirst.free⟩
  · intro hfinds
    have hfirst : s.FirstFree kind taken (s.misses kind taken taken.length 0) :=
      ⟨fun i hi => hbounded.passed i (Nat.zero_le i) hi, drawNew_not_mem_of_finds hfinds⟩
    exact hfirst.search_iff.mpr rfl

/-- Among texts with distinct heads, one more than there are different ids in use, there is one
that gives an id not in use. -/
private theorem exists_free_of_nodup (kind : String)
    (hheads : ((List.range (taken.dedup.length + 1)).map (s.head 8)).Nodup) :
    ∃ k ≤ taken.dedup.length, s.candidate kind k ∉ taken := by
  by_contra! hnone
  have hall : ∀ i < taken.dedup.length + 1, s.candidate kind i ∈ taken.dedup :=
    fun i hi => List.mem_dedup.mpr (hnone i (Nat.le_of_lt_succ hi))
  have hlong := le_length_of_forall_mem hheads hall
  omega

/-- If the heads of the next texts are distinct, as far as one text more than there are different
ids in use, the search for a new id ends within these texts. It gives the first candidate that is
not in use and nothing else, and the texts it draws are those up to there. The bound of the search
by the number of ids in use makes no difference. -/
theorem search_finds_first (s : IdSource) (kind : String) (taken : List String)
    (hheads : ((List.range (taken.dedup.length + 1)).map (s.head 8)).Nodup) :
    ∃ k ≤ taken.dedup.length, s.FirstFree kind taken k ∧
      (∀ r, s.Search kind taken r ↔ r = (s!"{kind}-{s.head 8 k}", s.skip (k + 1))) ∧
      s.drawNew kind taken = (s!"{kind}-{s.head 8 k}", s.skip (k + 1)) := by
  obtain ⟨n, hn, hfree⟩ := exists_free_of_nodup kind hheads
  obtain ⟨k, hk, hfirst⟩ := exists_firstFree hfree
  have hfinds : s.Finds kind taken :=
    ⟨n, Nat.lt_succ_of_le (hn.trans (List.dedup_sublist taken).length_le), hfree⟩
  have hdraw := hfirst.search_iff.mp (search_drawNew_iff.mpr hfinds)
  exact ⟨k, hk.trans hn, hfirst, fun _ => hfirst.search_iff, hdraw⟩

/-- Of two ids in use, one is listed twice, and the next two texts give both: the third is drawn. -/
theorem search_finds_first_sample :
    let s := IdSource.counter.skip 4
    let taken := ["node-00000006", "node-00000005", "node-00000006"]
    ((List.range (taken.dedup.length + 1)).map (s.head 8)).Nodup ∧ taken.dedup.length = 2 ∧
      s.FirstFree "node" taken 2 ∧
      (∀ r, s.Search "node" taken r ↔ r = ("node-00000007", IdSource.counter.skip 7)) ∧
      s.drawNew "node" taken = ("node-00000007", IdSource.counter.skip 7) := by
  intro s taken
  have hheads : ((List.range (taken.dedup.length + 1)).map (s.head 8)).Nodup := by decide
  have hlength : taken.dedup.length = 2 := by decide
  obtain ⟨k, hk, hfirst, hsearch, hdraw⟩ := search_finds_first s "node" taken hheads
  -- The first two candidates are in use, so that it is the third one.
  obtain rfl : k = 2 := by
    have hzero : k ≠ 0 := fun h => hfirst.free (by rw [h]; decide)
    have hone : k ≠ 1 := fun h => hfirst.free (by rw [h]; decide)
    omega
  have hpair : (s!"node-{s.head 8 2}", s.skip 3) = ("node-00000007", IdSource.counter.skip 7) :=
    Prod.ext (by decide) rfl
  exact ⟨hheads, hlength, hfirst, fun r => hpair ▸ hsearch r, hdraw.trans hpair⟩

end CaseFlow.IdSource
