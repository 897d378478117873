import CaseFlow.Board.Lists
import CaseFlow.Proofs.Board.Columns
import CaseFlow.Proofs.Service.Ownership
import CaseFlow.Proofs.Service.Seeding

/-!
# The most recent cases

The most recent cases are sorted twice. The store lists rows by what the wall clock read when their
cases were opened, and by id where that is the same; the launcher sorts the cases of that list
again, by the instants at which they were opened. The two agree (`Cases.recent_agrees`): a case that
is read from a row counts as opened in universal time, where the wall clock tells the instant, and a
stable sort leaves what is in order as it is. So the ids by which the store breaks ties are
respected by a sort that knows nothing of them.

The list itself can be had after every run in universal time in which only such cases are seeded and
saved as can be read again. All that are accepted as cases can, if their histories show times
(`Case.legible_of_accepted`).
-/

namespace CaseFlow

open Service

variable {cases : List Case} {w : World} {op : Operation} {c : Case} {r : CaseRow}

/-! ## The newest first -/

/-- No case was opened at a later instant than one before it. -/
def LatestFirst (cases : List Case) : Prop :=
  cases.Pairwise fun a b => b.createdAt.instant ≤ a.createdAt.instant

/-- Sorting leaves out no case and repeats none. -/
private theorem newestFirst_perm (cases : List Case) : (newestFirst cases).Perm cases :=
  List.mergeSort_perm cases _

/-- The later instants come first, so the key by which cases are sorted is the instant in the order
turned round. -/
private theorem newestFirst_eq (cases : List Case) : newestFirst cases = cases.mergeSort fun a b =>
    OrderDual.toDual a.createdAt.instant ≤ OrderDual.toDual b.createdAt.instant := rfl

/-- Sorted cases are in order. -/
private theorem latestFirst_newestFirst (cases : List Case) : LatestFirst (newestFirst cases) :=
  @pairwise_mergeSort_key _ _ _ (fun c : Case => OrderDual.toDual c.createdAt.instant) cases

/-- Cases that were opened at one instant stay in order. -/
private theorem filter_newestFirst (cases : List Case) (t : Int) :
    (newestFirst cases).filter (·.createdAt.instant = t) =
      cases.filter (·.createdAt.instant = t) := by
  rw [newestFirst_eq]
  refine filter_mergeSort_key fun a _ b _ ha hb => ?_
  rw [of_decide_eq_true ha, of_decide_eq_true hb]

/-- What is in order is left as it is. -/
theorem LatestFirst.eq (h : LatestFirst cases) : newestFirst cases = cases :=
  List.mergeSort_of_pairwise (h.imp decide_eq_true)

/-- Cases can be sorted if no local time is among those at which they were opened. -/
theorem recentCases_of_aware (h : ∀ c ∈ cases, c.createdAt.isAware = true) (limit : Option Int) :
    recentCases cases limit = .ok (takeLimit limit (newestFirst cases)) := by
  have hlocal : cases.any (fun c => !c.createdAt.isAware) = false := by
    rw [List.any_eq_false]
    intro c hc
    rw [h c hc]
    exact Bool.false_ne_true
  rw [recentCases, hlocal, Bool.and_false]
  rfl

/-- A limit takes as many items as it says, or all that there are. -/
private theorem takeLimit_natCast {α : Type} (n : Nat) (xs : List α) :
    takeLimit (some n) xs = xs.take (min n xs.length) := by
  have hn : (0 : Int) ≤ n := Int.natCast_nonneg n
  rw [takeLimit, if_pos hn, Int.toNat_natCast, ← List.take_eq_take_min]

/-! ## What the store lists -/

namespace Cases

variable {cs : List Case} {appId : Option String}

/-- Cases can be listed exactly if the store can be used and each row can be read. -/
theorem list_eq_ok : ((list appId).perform w).1 = .ok cs ↔
    w.store.condition = .ready ∧ (w.store.listCases appId).mapM readRow = .ok cs := by
  constructor
  · intro h
    obtain ⟨w', hlist⟩ := fst_perform_eq_ok.mp h
    obtain ⟨_, _, hquery, -⟩ := perform_bind_eq_ok.mp hlist
    have hready := (perform_query_eq_ok.mp hquery).1
    exact ⟨hready, (fst_perform_list hready appId).symm.trans h⟩
  · rintro ⟨hready, hrows⟩
    rw [fst_perform_list hready, hrows]

/-- Whatever is stored, the cases listed are in order, and none of them was opened at a local
time. -/
private theorem latestFirst_of_list (h : ((list appId).perform w).1 = .ok cs) :
    LatestFirst cs ∧ ∀ c ∈ cs, c.createdAt.isAware = true := by
  -- All that matters of a case is when it was opened, and that is read from its row.
  have hrows := mapM_eq_ok.mp (list_eq_ok.mp h).2
  have htimes : cs.map (·.createdAt) =
      (w.store.listCases appId).map (·.createdAt.asUniversal) :=
    map_eq_of_forall₂ hrows fun _ _ hread =>
      CaseRow.createdAt_of_read (mapError_eq_ok.mp hread)
  constructor
  · suffices hsorted : (cs.map (·.createdAt)).Pairwise fun s t => t.instant ≤ s.instant from
      List.pairwise_map.mp hsorted
    rw [htimes, List.pairwise_map]
    refine (Store.pairwise_listCases appId).imp fun hbefore => ?_
    rw [Timestamp.instant_asUniversal, Timestamp.instant_asUniversal]
    -- The store sorts by wall clocks, which are taken for universal time when the rows are read.
    rcases Store.listedBefore_iff.mp hbefore with hlater | ⟨hsame, -⟩
    · exact hlater.le
    · exact hsame.ge
  · intro c hc
    have htime := List.mem_map_of_mem (f := (·.createdAt)) hc
    rw [htimes] at htime
    obtain ⟨r, -, hr⟩ := List.mem_map.mp htime
    rw [← hr]
    rfl

end Cases

/-! ## Runs after which the cases can be listed -/

/-- What is read from the row of a case that can be read again can be read again itself. -/
theorem Store.Holds.legible_of_read {s : Store} {id : Option String} (hs : s.Holds Case.Legible)
    (hrow : id.bind s.case? = some r) (hread : r.read = .ok c) : c.Legible := by
  obtain ⟨c₀, rfl, hc₀⟩ := hs.of_row hrow
  exact (CaseRow.of_read_ofCase hc₀.timed hread).2.2

namespace Operation

/-- The cases that an operation is given can be read again. -/
def BringsLegible : Operation → Prop
  | seedCases cs => ∀ c ∈ cs, c.Legible
  | saveCase c => c.Legible
  | _ => True

/-- In universal time a case that an operation keeps can be read again. -/
private theorem legible_of_keepsCase (hs : w.store.Holds Case.Legible) (hclock : w.clock.Universal)
    (hop : op.BringsLegible) (hkeeps : op.KeepsCase w c) : c.Legible := by
  -- A case is kept as it was brought, opened, completed, or placed.
  cases hkeeps with
  | saved => exact hop
  | @created appId o w' hcreated =>
    obtain ⟨-, d, now, ids, ids', hnow, hopened⟩ := (Cases.create_yields appId o).of_ok hcreated
    exact (Case.storable_of_opened hopened (hnow hclock)).toLegible
  | @completed id q w' hcompleted =>
    obtain ⟨-, row, c₀, d, rules, now, hnow, hrow, hread, hcomplete⟩ :=
      (Cases.complete_yields q).of_ok hcompleted
    exact (hs.legible_of_read hrow hread).complete (hnow hclock).proper.valid hcomplete
  | @placed id stepId w' hplaced =>
    obtain ⟨-, row, c₀, d, hrow, hread, hplace⟩ := (Cases.setStep_yields stepId).of_ok hplaced
    exact (hs.legible_of_read hrow hread).place hplace

/-- Every operation leaves rows that can be read, if the cases it was given can be. -/
private theorem legible_after (hs : w.store.Holds Case.Legible) (hclock : w.clock.Universal)
    (hop : op.BringsLegible) : (w.after op).store.Holds Case.Legible := by
  refine holds_after hs (fun cs hseeds => ?_) fun c => legible_of_keepsCase hs hclock hop
  subst hseeds
  exact hop

end Operation

/-- A world that operations lead to from an empty store, in universal time, where the cases that
they are given can be read again. Between two operations the source of ids, the clock, the rules
chosen and the log may become anything. -/
inductive World.Readable : World → Prop where
  /-- Nothing is stored. -/
  | empty {w : World} (h : w.store = {}) : Readable w
  /-- An operation is performed, whether it fails or not. -/
  | after {w w₁ : World} (h : Readable w) (hstore : w₁.store = w.store)
      (hclock : w₁.clock.Universal) (op : Operation) (hop : op.BringsLegible) :
      Readable (w₁.after op)

namespace World.Readable

/-- A run in universal time is a run. -/
theorem reachable (h : w.Readable) : w.Reachable := by
  induction h with
  | empty h => exact .empty h
  | after _ hstore _ op _ ih => exact .after ih hstore op

/-- Along such a run every row can be read. -/
private theorem legible (h : w.Readable) : w.store.Holds Case.Legible := by
  induction h with
  | empty h =>
    rw [h]
    exact fun r hr => by cases hr
  | after _ hstore hclock op hop ih => exact op.legible_after (hstore ▸ ih) hclock hop

/-- The cases can be listed. -/
private theorem exists_list (h : w.Readable) (appId : Option String) :
    ∃ cs, ((Cases.list appId).perform w).1 = .ok cs := by
  have hread : ∀ r ∈ w.store.listCases appId, ∃ c, Cases.readRow r = .ok c := by
    intro r hr
    have hr : r ∈ w.store.cases := (List.mem_filter.mp ((List.mergeSort_perm _ _).mem_iff.mp hr)).1
    obtain ⟨c, rfl, hc⟩ := h.legible r hr
    exact ⟨_, mapError_eq_ok.mpr hc.read_ofCase⟩
  obtain ⟨cs, hcs⟩ := exists_mapM_eq_ok.mpr hread
  exact ⟨cs, Cases.list_eq_ok.mpr ⟨h.reachable.ready, hcs⟩⟩

end World.Readable

/-! ## The two orders -/

/-- After every run in universal time the cases can be listed, and of the cases listed, whatever was
stored, the most recent ones are the first, as many as the limit says or as there are. Any cases
that were all opened at times with an offset are sorted by the instants at which they were opened,
the latest first, where cases that were opened at one instant keep their order. -/
theorem Cases.recent_agrees :
    (∀ w : World, w.Readable → ∃ cs, ((list none).perform w).1 = .ok cs) ∧
    (∀ (w : World) (cs : List Case), ((list none).perform w).1 = .ok cs →
      ∀ n : Nat, recentCases cs (some n) = .ok (cs.take (min n cs.length))) ∧
    ∀ cases : List Case, (∀ c ∈ cases, c.createdAt.isAware = true) →
      ∃ recent, recentCases cases none = .ok recent ∧ recent.Perm cases ∧
        recent.Pairwise (fun a b => b.createdAt.instant ≤ a.createdAt.instant) ∧
        ∀ t, recent.filter (·.createdAt.instant = t) = cases.filter (·.createdAt.instant = t) := by
  refine ⟨fun w hw => hw.exists_list none, fun w cs hcs n => ?_, fun cases haware => ?_⟩
  · -- What the store lists is sorted before, and a stable sort leaves it so.
    obtain ⟨hsorted, haware⟩ := latestFirst_of_list hcs
    rw [recentCases_of_aware haware, hsorted.eq, takeLimit_natCast]
  · exact ⟨newestFirst cases, recentCases_of_aware haware none, newestFirst_perm cases,
      latestFirst_newestFirst cases, filter_newestFirst cases⟩

/-! ## Sample lists -/

namespace Sample

/-- The run with two apps is one in universal time, and the case that is saved in it can be read
again. -/
private theorem readable_movedWorld : movedWorld.Readable := by
  -- No operation of the run takes the clock off universal time.
  have hnext {w : World} (hw : w.Readable ∧ w.clock.Universal) (op : Operation)
      (hseeds : op.seedsCases = false) (hop : op.BringsLegible) :
      (w.after op).Readable ∧ (w.after op).clock.Universal :=
    ⟨hw.1.after rfl hw.2 op hop, (op.service_changes hseeds w).universal hw.2⟩
  have hstart : emptyWorld.Readable ∧ emptyWorld.clock.Universal := ⟨.empty rfl, universal_noon⟩
  have husers := hnext hstart (.seedUsers Seed.users) rfl trivial
  have hcreated := hnext husers (.createApp founding) rfl trivial
  have hopened := hnext hcreated (.createCase (some "app-1") opening) rfl trivial
  have hsecond := hnext hopened (.createApp { founding with id := some "app-2" }) rfl trivial
  let saved : Case := { id := "case-1", appId := "app-2", title := "Report", createdAt := noon }
  have hlegible : saved.Legible :=
    ⟨by unfold IsName; decide +kernel, rfl, fun _ h => by cases h⟩
  have hsaved := hnext hsecond (.saveCase saved) rfl hlegible
  let later : Operation := .createCase (some "app-1") { opening with caseId := .text "case-2" }
  exact (hnext hsaved later rfl trivial).1

/-- Two cases that were opened at noon, one of them further east, and one that was opened later. -/
def tiedCases : List Case :=
  [{ id := "c1", appId := "app", title := "Here", createdAt := noon },
    { id := "c2", appId := "app", title := "There",
      createdAt := { noon with second := 46800, offset := some 3600 } },
    { id := "c3", appId := "app", title := "Later", createdAt := { noon with second := 46800 } }]

end Sample

/-- Of the two cases of the sample run the one that is listed first is the most recent one. Of the
tied cases the two of noon keep their order. -/
theorem Cases.recent_agrees_sample :
    (∃ a b, ((list none).perform Sample.movedWorld).1 = .ok [a, b] ∧
      recentCases [a, b] (some (1 : Nat)) = .ok [a]) ∧
    ∃ recent, recentCases Sample.tiedCases none = .ok recent ∧
      (recent.filter (·.createdAt.instant = Sample.noon.instant)).map (·.id) = ["c1", "c2"] := by
  obtain ⟨hlist, htake, hsort⟩ := recent_agrees
  constructor
  · obtain ⟨cs, hcs⟩ := hlist Sample.movedWorld Sample.readable_movedWorld
    -- The cases are only counted; that they can be listed is part of the theorem.
    have hlength : cs.length = 2 := by
      rw [← (mapM_eq_ok.mp (list_eq_ok.mp hcs).2).length_eq, Store.listCases_perm.length_eq]
      decide +kernel
    obtain ⟨a, b, rfl⟩ := List.length_eq_two.mp hlength
    exact ⟨a, b, hcs, htake _ _ hcs 1⟩
  · obtain ⟨recent, hrecent, -, -, hties⟩ := hsort Sample.tiedCases (by decide)
    refine ⟨recent, hrecent, ?_⟩
    rw [hties]
    decide

end CaseFlow
