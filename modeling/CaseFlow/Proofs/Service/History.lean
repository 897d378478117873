import CaseFlow.Proofs.Service.Ledger
import Mathlib.Logic.Relation

/-!
# Histories in the store

The history of a stored case only ever grows, by one entry for each step of the case that is
completed (`World.Chronicled.history_append_only`). It is written as JSON and read again whenever
the case moves. That no entry is lost or changed on the way rests on two facts about rows: what is
read from a row has the history that documents keep of the one written (`CaseRow.of_read_ofCase`),
and documents keep everything of what was read from a row once. Whoever moves a case has to read its
row first, so a row which cannot be read stays as it is.

The time of an entry is what the clock showed when the step was completed. The operation gives the
case back with that time; the row has the time as documents keep it, which is the same unless the
clock was off universal time by a number of seconds that makes no whole minutes. Such a clock is
rare but there is nothing to keep it out, and the time in the history is then not the time that the
clock showed (`World.HasHistory.drops_seconds`).

All that an operation can do to a row is said once (`Operation.rewrites_of_row`): the row stays, its
case completes a step, or its case is placed on one. What becomes of the history follows case by
case (`World.HasHistory.turn`), and for a run by induction (`World.HasHistory.run`).
-/

namespace CaseFlow

open Service

variable {w w₁ w' : World} {op : Operation} {id : String} {h : List Event} {r r' : CaseRow}
  {c c' : Case}

/-! ## One row -/

/-- World `w'` has all the rows of world `w`, and perhaps more. -/
structure World.SparesRows (w w' : World) : Prop where
  /-- What was found is found. -/
  rows : ∀ id r, w.store.case? id = some r → w'.store.case? id = some r
  /-- The store stays as usable as it was. -/
  condition_eq : w'.store.condition = w.store.condition

private theorem World.sequential_sparesRows : World.Sequential World.SparesRows where
  becomes h := ⟨fun _ _ hr => h.store_eq ▸ hr, congrArg Store.condition h.store_eq⟩
  trans h h₁ := ⟨fun id r hr => h₁.rows id r (h.rows id r hr),
    h₁.condition_eq.trans h.condition_eq⟩

/-- A case that is kept under an id that was free leaves all other rows. -/
private theorem World.Keeps.sparesRows (h : w.Keeps c w') (hfree : w.store.case? c.id = none) :
    w.SparesRows w' := by
  refine ⟨fun id r hr => ?_, h.changes.condition_eq⟩
  rw [h.store_eq, Store.case?_keepCase, if_neg]
  · exact hr
  · rintro rfl
    rw [hr] at hfree
    cases hfree

namespace Operation

/-- Seeding cases leaves all rows that there are. -/
theorem sparesRows_of_seedsCases (hop : op.seedsCases = true) : w.SparesRows (w.after op) := by
  cases op with
  | seedCases cs =>
    rw [World.after, service, perform_map]
    exact Cases.seed_leads World.sequential_sparesRows (fun _ _ _ _ hfree h => h.sparesRows hfree) w
  | _ => cases hop

/-- No operation changes what the store can be used for. -/
theorem condition_after (op : Operation) (w : World) :
    (w.after op).store.condition = w.store.condition := by
  cases hop : op.seedsCases with
  | false => exact (service_changes op hop w).condition_eq
  | true => exact (sparesRows_of_seedsCases hop).condition_eq

/-- A row that there is after an operation is the one before it or that of a case which the
operation kept, if the row is not a new one. -/
private theorem row_after (hw : w.store.caseIds.Nodup) (hrow : w.store.case? id = some r)
    (hrow' : (w.after op).store.case? id = some r') :
    r' = r ∨ ∃ c, r' = .ofCase c ∧ c.id = id ∧ op.KeepsCase w c := by
  cases hop : op.seedsCases with
  | true =>
    -- Cases are seeded under free ids only, so the row that was found is still found.
    rw [(sparesRows_of_seedsCases hop).rows id r hrow, Option.some.injEq] at hrow'
    exact .inl hrow'.symm
  | false =>
    -- Any other operation makes one change to the table of cases, and its outcome tells which.
    rw [Store.case?, (service_changes op hop w).cases_eq, Store.find?_casesAfter hw] at hrow'
    cases hchange : op.change (op.service.perform w).1 with
    | nothing =>
      simp only [hchange, hrow, Option.some.injEq] at hrow'
      exact .inl hrow'.symm
    | dropApp appId =>
      simp only [hchange, hrow] at hrow'
      exact .inl (Option.some.inj (Option.filter_eq_some_iff.mp hrow').1).symm
    | keep c =>
      simp only [hchange, hrow] at hrow'
      split at hrow'
      · next hid =>
        -- The case that is kept is the one under the id.
        exact .inr ⟨c, (Option.some.inj hrow').symm, hid.symm, keepsCase_of_change hchange⟩
      · exact .inl (Option.some.inj hrow').symm

/-- An operation opens or saves cases under ids that are free. -/
def AddsNew (w : World) : Operation → Prop
  | createCase appId o => ∀ c w', (Cases.create appId o).perform w = (.ok c, w') →
      w.store.case? c.id = none
  | saveCase c => w.store.case? c.id = none
  | _ => True

/-- An operation completes the step of the case under an id. -/
def Completes (w : World) (id : String) (op : Operation) : Prop :=
  ∃ q c', op = .completeStep (some id) q ∧ ((Cases.complete (some id) q).perform w).1 = .ok c'

/-- What becomes of the row under an id. -/
inductive Rewrites (w : World) (id : String) (r : CaseRow) (op : Operation) : CaseRow → Prop where
  /-- It stays. -/
  | stays (hop : ¬ op.Completes w id) : Rewrites w id r op r
  /-- Its case completes the step at which it is. -/
  | completed {q : Completion} {c c' : Case} {d : Document} (hop : op = .completeStep (some id) q)
      (hok : ((Cases.complete (some id) q).perform w).1 = .ok c')
      (hfind : ((Cases.find (some id)).perform w).1 = .ok c)
      (h : ({ lookup := w.store.user?, strict := w.policy.strict } : Rules).complete c d q
        w.clock.now = .ok c') : Rewrites w id r op (.ofCase c')
  /-- Its case is placed on a step. -/
  | placed {stepId : Option String} {c c' : Case} {d : Document} (hop : ¬ op.Completes w id)
      (hread : r.read = .ok c) (h : c.place d stepId = .ok c') : Rewrites w id r op (.ofCase c')

/-- A row that there is after an operation is one of these, if no case was added in its place. -/
theorem rewrites_of_row (hw : w.store.caseIds.Nodup) (hnew : op.AddsNew w)
    (hrow : w.store.case? id = some r) (hrow' : (w.after op).store.case? id = some r') :
    op.Rewrites w id r r' := by
  by_cases hop : op.Completes w id
  · obtain ⟨q, c', rfl, hok⟩ := hop
    obtain ⟨w', hperform⟩ := fst_perform_eq_ok.mp hok
    obtain ⟨c, d, hfind, -, hcomplete⟩ := Cases.complete_eq_ok.mp hok
    obtain ⟨hid, hkept⟩ := Cases.case?_of_complete hperform
    have hafter : w.after (.completeStep (some id) q) = w' := by
      rw [World.after, service, perform_map, hperform]
    rw [hafter, Option.some.inj hid, hkept, Option.some.injEq] at hrow'
    rw [← hrow']
    exact .completed rfl hok (congrArg Prod.fst hfind) hcomplete
  · rcases row_after hw hrow hrow' with rfl | ⟨c', rfl, rfl, hkeeps⟩
    · exact .stays hop
    · cases hkeeps with
      | saved =>
        -- The id is taken, so the case cannot be a new one.
        rw [AddsNew, hrow] at hnew
        cases hnew
      | created hcreated =>
        have hfree := hnew _ _ hcreated
        rw [hrow] at hfree
        cases hfree
      | completed hcompleted =>
        -- The case would be the one under the id that was asked for.
        obtain ⟨rfl, -⟩ := Cases.case?_of_complete hcompleted
        exact absurd ⟨_, _, rfl, fst_perform_eq_ok.mpr ⟨_, hcompleted⟩⟩ hop
      | @placed id' stepId w' hplaced =>
        obtain ⟨-, row, c, d, hfound, hread, hplace⟩ := (Cases.setStep_yields stepId).of_ok hplaced
        -- A placement keeps the id, so the row that was read is the one under it.
        have hid : row.id = c'.id := by
          obtain ⟨n, -, rfl⟩ := Case.place_eq_ok.mp hplace
          exact (CaseRow.id_of_read hread).symm
        have hsame : id'.bind w.store.case? = some r := by
          rw [Store.eq_id_of_case? hfound, Option.bind_some, hid, hrow]
        rw [hsame, Option.some.injEq] at hfound
        exact .placed hop (hfound ▸ hread) hplace

end Operation

/-! ## The history of one case -/

/-- The history of the case under an id: what documents keep of the case in the row, and what every
case has that is found. -/
structure World.HasHistory (w : World) (id : String) (h : List Event) : Prop where
  /-- The row is that of a case of whose history documents keep this one. -/
  stored : ∃ c : Case, w.store.case? id = some (.ofCase c) ∧ c.Timed ∧
    c.history.map Event.documented = h
  /-- A case that is found has the history. -/
  found : ∀ c, ((Cases.find (some id)).perform w).1 = .ok c → c.history = h

/-- The row of a case has what documents keep of the history of the case. -/
theorem World.hasHistory_of_row (hrow : w.store.case? id = some (.ofCase c)) (hc : c.Timed) :
    w.HasHistory id (c.history.map Event.documented) :=
  ⟨⟨c, hrow, hc, rfl⟩, fun _ hfound =>
    (CaseRow.of_read_ofCase hc (Cases.read_of_find hfound hrow)).1⟩

/-- An operation on the store of world `w` that does not delete the case under an id. World `w₁`,
from which it starts, may differ from `w` in anything but the store. -/
structure World.Turn (id : String) (w w₁ : World) (op : Operation) : Prop where
  /-- The store is the one before. -/
  store_eq : w₁.store = w.store
  /-- The clock shows a time. -/
  clock_valid : w₁.clock.now.Valid
  /-- Ids that are drawn are free. -/
  addsNew : op.AddsNew w₁
  /-- The case is not deleted. -/
  stays : ((w₁.after op).store.case? id).isSome = true

namespace World.HasHistory

/-- What is read from the row has the history, and its row can be read in turn. -/
theorem of_read (hh : w.HasHistory id h) (hrow : w.store.case? id = some r)
    (hread : r.read = .ok c) : c.history = h ∧ c.Legible := by
  obtain ⟨c₀, hrow₀, hc₀, rfl⟩ := hh.stored
  rw [hrow, Option.some.injEq] at hrow₀
  obtain ⟨hhistory, -, hlegible⟩ := CaseRow.of_read_ofCase hc₀ (hrow₀ ▸ hread)
  exact ⟨hhistory, hlegible⟩

/-- Of a history in the store documents keep everything. -/
theorem map_documented_eq (hh : w.HasHistory id h) : h.map Event.documented = h := by
  obtain ⟨c₀, -, hc₀, rfl⟩ := hh.stored
  exact Event.map_documented_eq (Event.documented_proper hc₀)

/-- All that matters of a world is the store. -/
theorem of_store_eq (hh : w.HasHistory id h) (hstore : w₁.store = w.store) :
    w₁.HasHistory id h := by
  obtain ⟨c, hrow, hc, rfl⟩ := hh.stored
  exact hasHistory_of_row (hstore ▸ hrow) hc

/-- An operation adds one entry to the history if it completes the step of the case, and none
otherwise. The case that it gives back has the entry with the time that the clock showed, and the
store has the entry with that time as documents keep it. -/
theorem turn (hh : w.HasHistory id h) (hw : w.store.caseIds.Nodup) (ht : w.Turn id w₁ op) :
    (op.Completes w₁ id → ∃ q c c' stepId userId, op = .completeStep (some id) q ∧
      ((Cases.find (some id)).perform w₁).1 = .ok c ∧ c.currentStep = some stepId ∧
      q.userId = some userId ∧ ((Cases.complete (some id) q).perform w₁).1 = .ok c' ∧
      c'.history = h ++ [⟨stepId, userId, w₁.clock.now⟩] ∧
      (w₁.after op).HasHistory id (h ++ [⟨stepId, userId, w₁.clock.now.documented⟩])) ∧
    (¬ op.Completes w₁ id → (w₁.after op).HasHistory id h) := by
  have hh₁ := hh.of_store_eq ht.store_eq
  obtain ⟨c₀, hrow, hc₀, hkept⟩ := hh₁.stored
  obtain ⟨r', hrow'⟩ := Option.isSome_iff_exists.mp ht.stays
  cases Operation.rewrites_of_row (ht.store_eq ▸ hw) ht.addsNew hrow hrow' with
  | stays hop =>
    refine ⟨fun h => absurd h hop, fun _ => ?_⟩
    rw [← hkept]
    exact hasHistory_of_row hrow' hc₀
  | @completed q c c' d hop hok hfind hcomplete =>
    obtain ⟨stepId, userId, hstep, huser, hhistory⟩ := Rules.history_of_complete hcomplete
    have hread := hh₁.of_read hrow (Cases.read_of_find hfind hrow)
    rw [hread.1] at hhistory
    refine ⟨fun _ => ⟨q, c, c', stepId, userId, hop, hfind, hstep, huser, hok, hhistory, ?_⟩,
      fun h => absurd ⟨q, c', hop, hok⟩ h⟩
    -- The entries before the new one were in a document already, and stay what they are.
    have hrow'' := hasHistory_of_row hrow' (hread.2.complete ht.clock_valid hcomplete).timed
    rw [hhistory, List.map_append, hh.map_documented_eq] at hrow''
    exact hrow''
  | @placed stepId c c' d hop hread hplace =>
    -- A placement starts from what is read, which has the history that the row had.
    refine ⟨fun h => absurd h hop, fun _ => ?_⟩
    obtain ⟨hsame, hlegible⟩ := hh₁.of_read hrow hread
    have hrow'' := hasHistory_of_row hrow' (hlegible.place hplace).timed
    rw [Case.history_of_place hplace, hsame, hh.map_documented_eq] at hrow''
    exact hrow''

/-- An operation adds to the history or leaves it. -/
private theorem exists_prefix (hh : w.HasHistory id h) (hw : w.store.caseIds.Nodup)
    (ht : w.Turn id w₁ op) : ∃ h', (w₁.after op).HasHistory id h' ∧ h <+: h' := by
  obtain ⟨hgrows, hstays⟩ := hh.turn hw ht
  by_cases hop : op.Completes w₁ id
  · obtain ⟨-, -, -, stepId, userId, -, -, -, -, -, -, hh'⟩ := hgrows hop
    exact ⟨_, hh', List.prefix_append _ _⟩
  · exact ⟨h, hstays hop, List.prefix_rfl⟩

/-- A case that was found is found after an operation, whatever time the clock showed. -/
private theorem exists_found (hh : w.HasHistory id h) (hw : w.store.caseIds.Nodup)
    (ht : w.Turn id w₁ op)
    (hc : ((Cases.find (some id)).perform w₁).1 = .ok c) :
    ∃ c', ((Cases.find (some id)).perform (w₁.after op)).1 = .ok c' := by
  obtain ⟨c₀, hrow, -, -⟩ := (hh.of_store_eq ht.store_eq).stored
  obtain ⟨r', hrow'⟩ := Option.isSome_iff_exists.mp ht.stays
  have hread := Cases.read_of_find hc hrow
  have hlegible := ((hh.of_store_eq ht.store_eq).of_read hrow hread).2
  have hready : (w₁.after op).store.condition = .ready := by
    obtain ⟨w₂, hperform⟩ := fst_perform_eq_ok.mp hc
    rw [op.condition_after]
    exact (Cases.find_eq_ok.mp hperform).1
  -- It is enough that the row can be read.
  suffices hread' : ∃ c', r'.read = .ok c' by
    obtain ⟨c', hread'⟩ := hread'
    exact ⟨c', fst_perform_eq_ok.mpr
      ⟨_, Cases.find_eq_ok.mpr ⟨hready, rfl, r', hrow', hread'⟩⟩⟩
  -- The row is as it was, or was written by a completion or a placement, whose rows can be read.
  cases Operation.rewrites_of_row (ht.store_eq ▸ hw) ht.addsNew hrow hrow' with
  | stays => exact ⟨c, hread⟩
  | completed hop hok hfind hcomplete =>
    have hsame := (Cases.read_of_find hfind hrow).symm.trans hread
    obtain rfl := Except.ok.inj hsame
    exact ⟨_, (hlegible.complete ht.clock_valid hcomplete).read_ofCase⟩
  | placed hop hread₁ hplace =>
    obtain rfl := Except.ok.inj (hread₁.symm.trans hread)
    exact ⟨_, (hlegible.place hplace).read_ofCase⟩

end World.HasHistory

/-! ## Worlds with histories -/

/-- Every row is that of a case whose steps were left at times. -/
def Store.Timed (s : Store) : Prop := ∀ r ∈ s.cases, ∃ c : Case, r = .ofCase c ∧ c.Timed

namespace Store.Timed

/-- The times of a row are read from it. -/
theorem of_read {s : Store} {id : Option String} (hs : s.Timed) (hrow : id.bind s.case? = some r)
    (hread : r.read = .ok c) : c.Timed := by
  have hrows : s.Holds Case.Timed := hs
  obtain ⟨c₀, rfl, hc₀⟩ := hrows.of_row hrow
  exact (CaseRow.of_read_ofCase hc₀ hread).2.2.timed

end Store.Timed

namespace Operation

/-- The steps of the cases that an operation is given were left at times. -/
def BringsTimed : Operation → Prop
  | seedCases cs => ∀ c ∈ cs, c.Timed
  | saveCase c => c.Timed
  | _ => True

/-- A case that is kept has times that can be written, if the clock and the cases brought have. -/
private theorem timed_of_keepsCase (hw : w.store.Timed) (hclock : w.clock.now.Valid)
    (hop : op.BringsTimed) (hkeeps : op.KeepsCase w c) : c.Timed := by
  -- A case is opened without a history; a completion adds the time that the clock shows.
  cases hkeeps with
  | saved => exact hop
  | @created appId o w' hcreated =>
    obtain ⟨-, d, now, ids, ids', -, hopened⟩ := (Cases.create_yields appId o).of_ok hcreated
    obtain ⟨-, -, hhistory, -⟩ := Case.OpenedIn.fresh ⟨_, now, ids, ids', hopened⟩
    rw [Case.Timed, hhistory]
    exact fun e he => by cases he
  | completed hcompleted =>
    obtain ⟨c₀, d, hfind, -, hcomplete⟩ :=
      Cases.complete_eq_ok.mp (fst_perform_eq_ok.mpr ⟨_, hcompleted⟩)
    obtain ⟨-, -, row, hrow, hread⟩ := Cases.find_eq_ok.mp hfind
    exact Case.forall_history_of_complete (hw.of_read hrow hread) hclock hcomplete
  | @placed id stepId w' hplaced =>
    obtain ⟨-, row, c₀, d, hrow, hread, hplace⟩ := (Cases.setStep_yields stepId).of_ok hplaced
    rw [Case.Timed, Case.history_of_place hplace]
    exact hw.of_read hrow hread

/-- Every operation leaves rows with times. -/
private theorem timed_after (hw : w.store.Timed) (hclock : w.clock.now.Valid)
    (hop : op.BringsTimed) :
    (w.after op).store.Timed := by
  have hrows : w.store.Holds Case.Timed := hw
  refine holds_after hrows (fun cs hseeds => ?_) fun c => timed_of_keepsCase hw hclock hop
  subst hseeds
  exact hop

end Operation

/-- A world that operations lead to from an empty store, with the clock showing a time at each of
them. Between two operations the source of ids, the clock, the rules chosen and the log may become
anything. -/
inductive World.Chronicled : World → Prop where
  /-- Nothing is stored. -/
  | empty {w : World} (h : w.store = {}) : Chronicled w
  /-- An operation is performed, whether it fails or not. -/
  | after {w w₁ : World} (h : Chronicled w) (hstore : w₁.store = w.store)
      (hclock : w₁.clock.now.Valid) (op : Operation) (hop : op.BringsTimed) :
      Chronicled (w₁.after op)

/-- World `w'` is what an operation makes of world `w`, without deleting the case under an id. -/
def World.Next (id : String) (w w' : World) : Prop :=
  ∃ w₁ op, w.Turn id w₁ op ∧ w' = w₁.after op

namespace World

/-- A chronicled world is reachable. -/
theorem Chronicled.reachable (hw : w.Chronicled) : w.Reachable := by
  induction hw with
  | empty h => exact .empty h
  | after _ hstore _ op _ ih => exact .after ih hstore op

/-- In a chronicled world every stored case has times that can be written. -/
theorem Chronicled.timed (hw : w.Chronicled) : w.store.Timed := by
  induction hw with
  | empty h =>
    rw [h]
    exact fun r hr => by cases hr
  | after _ hstore hclock op hop ih => exact op.timed_after (hstore ▸ ih) hclock hop

/-- Every stored case has a history. -/
theorem Chronicled.exists_hasHistory (hw : w.Chronicled)
    (hstored : (w.store.case? id).isSome = true) : ∃ h, w.HasHistory id h := by
  obtain ⟨r, hrow⟩ := Option.isSome_iff_exists.mp hstored
  obtain ⟨c₀, rfl, hc₀⟩ := hw.timed r (List.mem_of_find?_eq_some hrow)
  exact ⟨_, hasHistory_of_row hrow hc₀⟩

/-- Along a run the history only grows. -/
theorem HasHistory.run (hh : w.HasHistory id h) (hw : w.store.caseIds.Nodup)
    (hrun : Relation.ReflTransGen (Next id) w w') :
    ∃ h', w'.HasHistory id h' ∧ h <+: h' := by
  -- That ids are distinct is carried along, since the next step needs it of its store.
  suffices hboth : w'.store.caseIds.Nodup ∧ ∃ h', w'.HasHistory id h' ∧ h <+: h' from hboth.2
  induction hrun with
  | refl => exact ⟨hw, h, hh, List.prefix_rfl⟩
  | tail _ hnext ih =>
    obtain ⟨hnodup, h', hh', hmore⟩ := ih
    obtain ⟨w₁, op, hturn, rfl⟩ := hnext
    obtain ⟨h'', hh'', hmore'⟩ := hh'.exists_prefix hnodup hturn
    refine ⟨op.service_leads w₁ ?_, h'', hh'', hmore.trans hmore'⟩
    rw [hturn.store_eq]
    exact hnodup

end World

/-- A step that was completed stays so, or is the current one again, when the history grows. -/
private theorem Case.stepStatus_ne_pending {nodeId : String} (hmore : c.history <+: c'.history)
    (hdone : c.stepStatus nodeId = .completed) : c'.stepStatus nodeId ≠ .pending := by
  -- That a step counts as completed says that the history has an entry for it.
  have hleft : c.history.any (·.stepId == nodeId) = true := by
    unfold stepStatus at hdone
    split at hdone
    · cases hdone
    · split at hdone
      · next hany => exact hany
      · cases hdone
  have hleft' : c'.history.any (·.stepId == nodeId) = true := by
    obtain ⟨rest, hrest⟩ := hmore
    rw [← hrest, List.any_append, hleft, Bool.true_or]
  rw [stepStatus, if_pos hleft']
  split <;> decide

/-- The history of every stored case is append-only. An operation that does not delete the case,
and opens cases under free ids only, adds one entry to its history if it completes the step of the
case: the step at which the case was found, the user who acts, and what the clock showed. The case
that the operation gives back has exactly that time; in the store it is what documents keep of it,
the same time exactly if its offset, where there is one, has whole minutes. Every other operation
adds no entry, whether it fails or not. A case that could be found before the operation can be found
after it. Along a run of such operations the history before is a prefix of the history after, so no
step of the case goes back from completed to pending. -/
theorem World.Chronicled.history_append_only (hw : w.Chronicled)
    (hstored : (w.store.case? id).isSome = true) :
    ∃ h, w.HasHistory id h ∧
      (∀ w₁ op, w.Turn id w₁ op →
        (op.Completes w₁ id → ∃ q c c' stepId userId, op = .completeStep (some id) q ∧
          ((Cases.find (some id)).perform w₁).1 = .ok c ∧ c.currentStep = some stepId ∧
          q.userId = some userId ∧ ((Cases.complete (some id) q).perform w₁).1 = .ok c' ∧
          c'.history = h ++ [⟨stepId, userId, w₁.clock.now⟩] ∧
          (w₁.after op).HasHistory id (h ++ [⟨stepId, userId, w₁.clock.now.documented⟩]) ∧
          (w₁.clock.now.documented = w₁.clock.now ↔
            ∀ o, w₁.clock.now.offset = some o → 60 ∣ o)) ∧
        (¬ op.Completes w₁ id → (w₁.after op).HasHistory id h) ∧
        ∀ c, ((Cases.find (some id)).perform w₁).1 = .ok c →
          ∃ c', ((Cases.find (some id)).perform (w₁.after op)).1 = .ok c') ∧
      ∀ w', Relation.ReflTransGen (World.Next id) w w' →
        ∃ h', w'.HasHistory id h' ∧ h <+: h' ∧
          ∀ c c', ((Cases.find (some id)).perform w).1 = .ok c →
            ((Cases.find (some id)).perform w').1 = .ok c' →
            ∀ nodeId, c.stepStatus nodeId = .completed → c'.stepStatus nodeId ≠ .pending := by
  have hnodup := hw.reachable.nodup
  obtain ⟨h, hh⟩ := hw.exists_hasHistory hstored
  refine ⟨h, hh, fun w₁ op hturn => ?_, fun w' hrun => ?_⟩
  · -- One turn either completes a step of this case or leaves its history alone.
    obtain ⟨hgrows, hstays⟩ := hh.turn hnodup hturn
    refine ⟨fun hop => ?_, hstays, fun c hc => hh.exists_found hnodup hturn hc⟩
    obtain ⟨q, c, c', stepId, userId, hq, hfind, hstep, huser, hok, hhistory, hh'⟩ := hgrows hop
    exact ⟨q, c, c', stepId, userId, hq, hfind, hstep, huser, hok, hhistory, hh',
      Timestamp.documented_eq_self_iff⟩
  · -- Along a run the history only grows, and what is found has the history of the store.
    obtain ⟨h', hh', hmore⟩ := hh.run hnodup hrun
    refine ⟨h', hh', hmore, fun c c' hc hc' nodeId => Case.stepStatus_ne_pending ?_⟩
    rw [hh.found c hc, hh'.found c' hc']
    exact hmore

/-! ## A sample run -/

/-- A run in universal time is one in which the clock shows times. -/
private theorem World.Recorded.chronicled {l : Ledger} (hw : w.Recorded l) : w.Chronicled := by
  induction hw with
  | empty h => exact .empty h
  | after _ hstore hclock op hop ih =>
    refine .after ih hstore hclock.proper.valid op ?_
    cases op with
    | seedCases cs => cases hop
    | saveCase c => cases hop
    | _ => trivial

namespace Sample

/-- The sample installation, with the clock at noon again. -/
def noonWorld : World := { openedWorld with clock := emptyWorld.clock }

/-- The completion of the first step by the first user. -/
def completion : Operation := .completeStep (some "case-1") ⟨some "start", some "user-1", none, []⟩

/-- The sample installation after the completion. -/
def completedWorld : World := noonWorld.after completion

theorem chronicled_openedWorld : openedWorld.Chronicled := by
  obtain ⟨l, h⟩ := recorded_openedWorld
  exact h.chronicled

/-- The sample case is found at the start, with nothing in its history. -/
private theorem find_noonWorld : ∃ c, ((Cases.find (some "case-1")).perform noonWorld).1 = .ok c ∧
    c.history = [] ∧ c.currentStep = some "start" := by
  have heval : ((Cases.find (some "case-1")).perform noonWorld).1.toOption.any (fun c =>
      c.history.isEmpty && c.currentStep == some "start") = true := by decide +kernel
  obtain ⟨c, hc, hfound⟩ := any_toOption_eq_true.mp heval
  rw [Bool.and_eq_true, List.isEmpty_iff, beq_iff_eq] at hfound
  exact ⟨c, hc, hfound⟩

private theorem completes_completion : completion.Completes noonWorld "case-1" := by
  let completed := Cases.complete (some "case-1") ⟨some "start", some "user-1", none, []⟩
  obtain ⟨c', hok⟩ : ∃ c', (completed.perform noonWorld).1 = .ok c' :=
    isOk_eq_true.mp (by decide +kernel)
  exact ⟨_, c', rfl, hok⟩

/-- After the completion it is found with the first step completed. -/
theorem find_completedWorld : ∃ c, ((Cases.find (some "case-1")).perform completedWorld).1 = .ok c ∧
    c.stepStatus "start" = .completed := by
  have heval : ((Cases.find (some "case-1")).perform completedWorld).1.toOption.any
      (·.stepStatus "start" == .completed) = true := by decide +kernel
  obtain ⟨c, hc, hdone⟩ := any_toOption_eq_true.mp heval
  exact ⟨c, hc, beq_iff_eq.mp hdone⟩

theorem isSome_case?_completedWorld : (completedWorld.store.case? "case-1").isSome = true := by
  obtain ⟨c, hc, -⟩ := find_completedWorld
  obtain ⟨r, hr, -⟩ := Cases.exists_row_of_find hc
  rw [hr]
  rfl

theorem turn_completion : openedWorld.Turn "case-1" noonWorld completion where
  store_eq := rfl
  clock_valid := universal_noon.proper.valid
  addsNew := trivial
  stays := isSome_case?_completedWorld

private theorem chronicled_completedWorld : completedWorld.Chronicled := by
  have hstore : noonWorld.store = openedWorld.store := rfl
  exact .after chronicled_openedWorld hstore turn_completion.clock_valid completion trivial

end Sample

/-- The completion at noon is the one entry in the history of the sample case, and in no run after
it is the first step pending again. -/
theorem World.Chronicled.history_append_only_sample :
    Sample.completedWorld.HasHistory "case-1" [⟨"start", "user-1", Sample.noon⟩] ∧
      ∀ w' c', Relation.ReflTransGen (World.Next "case-1") Sample.completedWorld w' →
        ((Cases.find (some "case-1")).perform w').1 = .ok c' →
          c'.stepStatus "start" ≠ .pending := by
  constructor
  · obtain ⟨c₀, hc₀, hempty, hstart⟩ := Sample.find_noonWorld
    obtain ⟨r, hr, -⟩ := Cases.exists_row_of_find hc₀
    have hstored : (Sample.openedWorld.store.case? "case-1").isSome = true :=
      Option.isSome_iff_exists.mpr ⟨r, hr⟩
    obtain ⟨h, hh, hturns, -⟩ := history_append_only Sample.chronicled_openedWorld hstored
    obtain ⟨q, c, -, stepId, userId, hop, hfind, hstep, huser, -, -, hh', -⟩ :=
      (hturns _ _ Sample.turn_completion).1 Sample.completes_completion
    -- The clock is read from another world, with the same store.
    have hsame : Sample.noonWorld.HasHistory "case-1" h := hh.of_store_eq rfl
    obtain rfl := Except.ok.inj (hfind.symm.trans hc₀)
    have hnoon : Sample.noonWorld.clock.now.documented = Sample.noon :=
      Sample.universal_noon.proper.documented_eq
    rw [← hsame.found c hfind, hempty, hnoon] at hh'
    obtain rfl := Option.some.inj (hstart.symm.trans hstep)
    cases hop
    obtain rfl := Option.some.inj huser
    exact hh'
  · intro w' c' hrun hc'
    obtain ⟨c, hc, hdone⟩ := Sample.find_completedWorld
    obtain ⟨_, -, -, hruns⟩ :=
      history_append_only Sample.chronicled_completedWorld Sample.isSome_case?_completedWorld
    obtain ⟨_, -, -, hstatus⟩ := hruns w' hrun
    exact hstatus c c' hc hc' "start" hdone

/-! ## A clock with seconds in its offset -/

namespace Sample

/-- The sample installation, with a clock that shows noon and is five hours, thirty minutes and
fifteen seconds ahead of universal time. -/
def aheadWorld : World :=
  { openedWorld with clock := { emptyWorld.clock with now := { noon with offset := some 19815 } } }

private theorem turn_aheadWorld : openedWorld.Turn "case-1" aheadWorld completion where
  store_eq := rfl
  clock_valid := ⟨by decide, by decide, fun o ho => by
    obtain rfl : 19815 = o := Option.some.inj ho
    decide⟩
  addsNew := trivial
  stays := by decide +kernel

private theorem completes_aheadWorld : completion.Completes aheadWorld "case-1" := by
  let completed := Cases.complete (some "case-1") ⟨some "start", some "user-1", none, []⟩
  obtain ⟨c', hok⟩ : ∃ c', (completed.perform aheadWorld).1 = .ok c' :=
    isOk_eq_true.mp (by decide +kernel)
  exact ⟨_, c', rfl, hok⟩

/-- After the completion the case is found with a time of a clock that is five and a half hours
ahead. -/
private theorem find_after_aheadWorld : ∃ c,
    ((Cases.find (some "case-1")).perform (aheadWorld.after completion)).1 = .ok c ∧
      c.history.getLast?.map (·.completedAt.offset) = some (some 19800) := by
  have heval : ((Cases.find (some "case-1")).perform
      (aheadWorld.after completion)).1.toOption.any (fun c =>
        c.history.getLast?.map (·.completedAt.offset) == some (some 19800)) = true := by
    decide +kernel
  obtain ⟨c, hc, hoffset⟩ := any_toOption_eq_true.mp heval
  exact ⟨c, hc, beq_iff_eq.mp hoffset⟩

end Sample

/-- It is not so that every completion adds an entry with the time that the clock showed: a clock
that is five hours, thirty minutes and fifteen seconds ahead of universal time leaves an entry of
one that is five and a half hours ahead, which denotes another instant. -/
theorem World.HasHistory.drops_seconds :
    ¬ ∀ (w w₁ : World) (id : String) (op : Operation) (h : List Event), w.Chronicled →
      w.HasHistory id h → w.Turn id w₁ op → op.Completes w₁ id →
      ∃ stepId userId, (w₁.after op).HasHistory id (h ++ [⟨stepId, userId, w₁.clock.now⟩]) := by
  intro hkeeps
  have hstored : (Sample.openedWorld.store.case? "case-1").isSome = true := by decide +kernel
  obtain ⟨h, hh⟩ := Sample.chronicled_openedWorld.exists_hasHistory hstored
  obtain ⟨stepId, userId, hh'⟩ := hkeeps _ _ _ _ h Sample.chronicled_openedWorld hh
    Sample.turn_aheadWorld Sample.completes_aheadWorld
  obtain ⟨c, hc, hlast⟩ := Sample.find_after_aheadWorld
  -- The last entry would have the offset of the clock, but it is found with another.
  rw [hh'.found c hc, List.getLast?_append] at hlast
  have hoffset : Sample.aheadWorld.clock.now.offset = some 19815 := rfl
  simp [hoffset] at hlast

end CaseFlow
