import CaseFlow.Proofs.Service.Operation

/-!
# What operations gave back

A ledger notes the last case that an operation gave back under each id, until the app of the case is
removed. Along every run of operations from an empty store, in universal time, the store stays in
step with the ledger (`World.Recorded.inStep`): it finds and lists the cases of the ledger and no
others. They come back as they were given, but for recorded numbers that are not finite, which are
lost (`World.Recorded.gives_back`).

The store holds rows and the ledger cases, so what ties them is that every case of the ledger can be
stored (`Case.Storable`). Opening, completing and placing a case in universal time keep it so; one
step of the store is compared with one note in the ledger (`World.InStep.note`), and runs follow by
induction.
-/

namespace CaseFlow

open Service

/-! ## Cases that can be stored -/

namespace Case

variable {c : Case} {now : Timestamp}

/-- A case that is opened in universal time comes back from its row. -/
theorem storable_of_opened {d : Document} {o : Opening} {ids ids' : IdSource}
    (h : opened d o now ids = (.ok c, ids')) (hnow : now.Universal) : c.Storable := by
  obtain ⟨-, -, hhistory, hdata⟩ := OpenedIn.fresh ⟨o, now, ids, ids', h⟩
  unfold opened at h
  cases hstarts : d.starts with
  | nil => simp [hstarts] at h
  | cons start rest =>
    simp only [hstarts, Prod.mk.injEq, bind_eq_ok, mapError_eq_ok, Checked.toExcept_eq_ok] at h
    obtain ⟨⟨tags, -, hread⟩, -⟩ := h
    have hfrom := readFields_eq_ok.mp hread
    -- The time that is read is the one that was written.
    obtain rfl : now = c.createdAt := Checked.ok.inj hfrom.createdAt
    have hproper : ∀ e ∈ c.history, e.completedAt.Proper := by
      rw [hhistory]
      exact fun e he => by cases he
    refine ⟨⟨hfrom.title_isName, hfrom.dropBlank_tags, fun e he => (hproper e he).valid⟩,
      hnow.offset_eq, hproper, ?_⟩
    rw [hdata]
    exact fun p hp => by cases hp

/-- A completion adds an entry with the time that the clock showed. -/
theorem forall_history_of_complete {r : Rules} {d : Document} {q : Completion} {c' : Case}
    {P : Timestamp → Prop} (hc : ∀ e ∈ c.history, P e.completedAt) (hnow : P now)
    (h : r.complete c d q now = .ok c') : ∀ e ∈ c'.history, P e.completedAt := by
  obtain ⟨stepId, userId, -, -, hhistory⟩ := Rules.history_of_complete h
  intro e he
  rw [hhistory, List.mem_append, List.mem_singleton] at he
  rcases he with he | rfl
  · exact hc e he
  · exact hnow

/-- A completion leaves the row of a case readable. -/
theorem Legible.complete {r : Rules} {d : Document} {q : Completion} {c' : Case}
    (hc : c.Legible) (hnow : now.Valid) (h : r.complete c d q now = .ok c') : c'.Legible := by
  have htimed : c'.Timed := forall_history_of_complete hc.timed hnow h
  obtain ⟨n, next, userId, user, vs, -, rfl⟩ := Rules.complete_eq_ok.mp h
  exact { hc with timed := htimed }

/-- A placement leaves the row of a case readable. -/
theorem Legible.place {d : Document} {stepId : Option String} {c' : Case} (hc : c.Legible)
    (h : c.place d stepId = .ok c') : c'.Legible := by
  obtain ⟨n, -, rfl⟩ := place_eq_ok.mp h
  exact { hc with }

/-- A completion in universal time takes a case that comes back from its row to another one. -/
theorem Storable.complete {r : Rules} {d : Document} {q : Completion} {c' : Case}
    (hc : c.Storable) (hnow : now.Universal) (h : r.complete c d q now = .ok c') :
    c'.Storable := by
  have hlegible := hc.toLegible.complete hnow.proper.valid h
  have hproper := forall_history_of_complete hc.history_proper hnow.proper h
  obtain ⟨n, next, userId, user, vs, hcompletes, rfl⟩ := Rules.complete_eq_ok.mp h
  exact ⟨hlegible, hc.createdAt_offset, hproper,
    hc.formData_scalar.merge (Node.answers_scalar hcompletes.answered)⟩

/-- A placement takes a case that comes back from its row to another one. -/
theorem Storable.place {d : Document} {stepId : Option String} {c' : Case} (hc : c.Storable)
    (h : c.place d stepId = .ok c') : c'.Storable := by
  have hlegible := hc.toLegible.place h
  obtain ⟨n, -, rfl⟩ := place_eq_ok.mp h
  exact ⟨hlegible, hc.createdAt_offset, hc.history_proper, hc.formData_scalar⟩

end Case

/-! ## Ledgers -/

/-- The cases that operations last gave back, by id. -/
abbrev Ledger := String → Option Case

/-- A change to the cases is noted. -/
def Ledger.note (l : Ledger) : CaseChange → Ledger
  | .nothing => l
  | .keep c => Function.update l c.id (some c)
  | .dropApp appId => fun id => (l id).filter (·.appId != appId)

/-- Whether an operation gives back every case that it keeps. -/
def Operation.givesBack : Operation → Bool
  | seedCases _ | saveCase _ => false
  | _ => true

/-- A run of operations from an empty store, in universal time, has led to a world and to a ledger.
Between two operations the source of ids, the clock, the rules chosen and the log may become
anything. -/
inductive World.Recorded : World → Ledger → Prop where
  /-- Nothing is stored. -/
  | empty {w : World} (h : w.store = {}) : Recorded w fun _ => none
  /-- An operation is performed, whether it fails or not. -/
  | after {w w₁ : World} {l : Ledger} (h : Recorded w l) (hstore : w₁.store = w.store)
      (hclock : w₁.clock.Universal) (op : Operation) (hop : op.givesBack = true) :
      Recorded (w₁.after op) (l.note (op.change (op.service.perform w₁).1))

/-- The store holds the cases of the ledger. -/
structure World.InStep (w : World) (l : Ledger) : Prop where
  /-- The store can be used. -/
  ready : w.store.condition = .ready
  /-- The cases have ids of their own. -/
  nodup : w.store.caseIds.Nodup
  /-- Under each id there is the row of the case that the ledger has there. -/
  rows : ∀ id, w.store.case? id = (l id).map .ofCase
  /-- The cases of the ledger have their ids and come back from their rows. -/
  entries : ∀ id c, l id = some c → c.id = id ∧ c.Storable

namespace World.InStep

variable {w : World} {l : Ledger} {c c' : Case} {id : Option String}

/-- What is read from the row of a case can be stored. -/
theorem storable_of_read (h : w.InStep l) {row : CaseRow}
    (hrow : id.bind w.store.case? = some row) (hread : row.read = .ok c) : c.Storable := by
  obtain ⟨caseId, -, hfound⟩ := Option.bind_eq_some_iff.mp hrow
  rw [h.rows] at hfound
  obtain ⟨c₀, hc₀, rfl⟩ := Option.map_eq_some_iff.mp hfound
  have hstorable := (h.entries caseId c₀ hc₀).2
  rw [CaseRow.read_ofCase hstorable, Except.ok.injEq] at hread
  exact hread ▸ hstorable.kept

/-- Every case that an operation gives back can be stored. -/
private theorem storable_of_change (h : w.InStep l) (hclock : w.clock.Universal) {op : Operation}
    (hop : op.givesBack = true) (hc : op.change (op.service.perform w).1 = .keep c) :
    c.Storable := by
  -- A case that is handed over could be anything, but no such operation gives one back.
  cases Operation.keepsCase_of_change hc with
  | saved => cases hop
  | @created appId o w' hcreated =>
    obtain ⟨-, d, now, ids, ids', hnow, hopened⟩ := (Cases.create_yields appId o).of_ok hcreated
    exact Case.storable_of_opened hopened (hnow hclock)
  | @completed id q w' hcompleted =>
    obtain ⟨-, row, c₀, d, r, now, hnow, hrow, hread, hcomplete⟩ :=
      (Cases.complete_yields q).of_ok hcompleted
    exact (h.storable_of_read hrow hread).complete (hnow hclock) hcomplete
  | @placed id stepId w' hplaced =>
    obtain ⟨-, row, c₀, d, hrow, hread, hplace⟩ := (Cases.setStep_yields stepId).of_ok hplaced
    exact (h.storable_of_read hrow hread).place hplace

/-- A change to the cases keeps the store in step with the ledger that notes it, if a case that is
kept can be stored. -/
theorem note (h : w.InStep l) {w' : World} {change : CaseChange} (hw : w.Changes change w')
    (hkept : ∀ c, change = .keep c → c.Storable) : w'.InStep (l.note change) := by
  have hcases : w'.store.cases = w.store.casesAfter change := hw.cases_eq
  refine ⟨hw.condition_eq.trans h.ready, ?_, fun id => ?_, fun id c hid => ?_⟩
  · rw [Store.caseIds, hcases]
    exact Store.nodup_casesAfter h.nodup change
  · rw [Store.case?, hcases, Store.find?_casesAfter h.nodup]
    -- The rows change as the ledger does: not at all, under one id, or by an app.
    cases change with
    | nothing => exact h.rows id
    | keep c =>
      -- Store and ledger both change under the id of the case only.
      by_cases hid : id = c.id
      · subst hid
        simp [Ledger.note]
      · simp [Ledger.note, hid, h.rows]
    | dropApp appId =>
      simp only [Ledger.note, h.rows]
      cases l id with
      | none => rfl
      | some c => by_cases happ : c.appId = appId <;> simp [Option.filter, CaseRow.ofCase, happ]
  · cases change with
    | nothing => exact h.entries id c hid
    | keep c₁ =>
      by_cases heq : id = c₁.id
      · subst heq
        obtain rfl : c₁ = c := by simpa [Ledger.note] using hid
        exact ⟨rfl, hkept c₁ rfl⟩
      · exact h.entries id c (by simpa [Ledger.note, heq] using hid)
    | dropApp appId => exact h.entries id c (Option.filter_eq_some_iff.mp hid).1

/-- A world of which only the store matters. -/
theorem of_store_eq (h : w.InStep l) {w₁ : World} (hstore : w₁.store = w.store) : w₁.InStep l :=
  ⟨hstore ▸ h.ready, hstore ▸ h.nodup, hstore ▸ h.rows, h.entries⟩

/-! ### What the store gives back -/

/-- The row of a case of the ledger reads as the case is kept. -/
theorem readRow_ofCase (h : w.InStep l) {id : String} (hc : l id = some c) :
    Cases.readRow (.ofCase c) = .ok c.kept :=
  mapError_eq_ok.mpr (CaseRow.read_ofCase (h.entries id c hc).2)

/-- The case found under an id is the one of the ledger, as it is kept. -/
private theorem fst_perform_find (h : w.InStep l) (id : String) :
    ((Cases.find (some id)).perform w).1 =
    match l id with
    | some c => .ok c.kept
    | none => .error (.refused (.notFound .case (some id))) := by
  rw [Cases.perform_find h.ready, Cases.requireRow, Option.bind_some, h.rows]
  cases hid : l id with
  | none => rfl
  | some c => exact bind_eq_ok.mpr ⟨.ofCase c, rfl, h.readRow_ofCase hid⟩

/-- Every list of rows is one of cases of the ledger. -/
private theorem exists_cases (h : w.InStep l) (rows : List CaseRow)
    (hrows : ∀ r ∈ rows, r ∈ w.store.cases) :
    ∃ cs : List Case, rows = cs.map .ofCase ∧ ∀ c ∈ cs, l c.id = some c := by
  induction rows with
  | nil => exact ⟨[], rfl, fun c hc => by cases hc⟩
  | cons r rows ih =>
    obtain ⟨cs, rfl, hcs⟩ := ih fun r' hr' => hrows r' (List.mem_cons_of_mem r hr')
    -- Ids are distinct, so that the row is the one that the ledger has under its id.
    have hfound := Store.case?_of_mem h.nodup (hrows r List.mem_cons_self)
    rw [h.rows] at hfound
    obtain ⟨c, hc, rfl⟩ := Option.map_eq_some_iff.mp hfound
    refine ⟨c :: cs, rfl, fun c' hc' => ?_⟩
    rcases List.mem_cons.mp hc' with rfl | hc'
    · exact hc
    · exact hcs c' hc'

/-- Rows of cases of the ledger are read as these are kept. -/
theorem mapM_readRow (h : w.InStep l) {cs : List Case} (hcs : ∀ c ∈ cs, l c.id = some c) :
    (cs.map CaseRow.ofCase).mapM Cases.readRow = .ok (cs.map Case.kept) := by
  rw [mapM_eq_ok, List.forall₂_map_left_iff, List.forall₂_map_right_iff, List.forall₂_same]
  exact fun c hc => h.readRow_ofCase (hcs c hc)

end World.InStep

/-- Case `a` is listed before case `b`: the one opened later first, and of two opened at one time
the one with the lesser id. -/
def Case.ListedBefore (a b : Case) : Prop :=
  b.createdAt.instant < a.createdAt.instant ∨
    (a.createdAt.instant = b.createdAt.instant ∧ a.id < b.id)

namespace World

variable {w : World} {l : Ledger}

/-- The cases listed are those of the ledger, each once and in order, and the cases of one app are
listed as they are among all cases. -/
theorem InStep.fst_perform_list (h : w.InStep l) : ∃ cs,
    ((Cases.list none).perform w).1 = .ok cs ∧ cs.Pairwise Case.ListedBefore ∧
      (∀ c, c ∈ cs ↔ ∃ id c₀, l id = some c₀ ∧ c = c₀.kept) ∧
      ∀ appId, ((Cases.list (some appId)).perform w).1 = .ok (cs.filter (·.appId == appId)) := by
  obtain ⟨cs, hcs, hentries⟩ := h.exists_cases (w.store.listCases none) fun r hr =>
    Store.listCases_perm.mem_iff.mp hr
  have hperm : (cs.map CaseRow.ofCase).Perm w.store.cases := hcs ▸ Store.listCases_perm
  refine ⟨cs.map Case.kept, ?_, ?_, fun c => ?_, fun appId => ?_⟩
  · rw [Cases.fst_perform_list h.ready, hcs, h.mapM_readRow hentries]
  · -- The rows are in order, and no two of them have one id.
    have hsorted := Store.pairwise_listCases (s := w.store) none
    rw [hcs, List.pairwise_map] at hsorted
    have hdistinct : cs.Pairwise fun a b => a.id ≠ b.id := by
      have hnodup : ((cs.map CaseRow.ofCase).map (·.id)).Nodup :=
        (hperm.map _).nodup_iff.mpr h.nodup
      rw [List.map_map] at hnodup
      exact List.pairwise_map.mp hnodup
    -- A row has the wall clock reading of its case, which is in universal time.
    rw [List.pairwise_map]
    refine (hsorted.and hdistinct).imp_of_mem fun {a b} ha hb hab => ?_
    have hinstant (c : Case) (hc : c ∈ cs) : c.createdAt.asLocal.wall = c.createdAt.instant := by
      have hoffset := (h.entries _ c (hentries c hc)).2.createdAt_offset
      simp [Timestamp.instant, hoffset, Timestamp.wall, Timestamp.asLocal]
    show b.createdAt.instant < a.createdAt.instant ∨
      (a.createdAt.instant = b.createdAt.instant ∧ a.id < b.id)
    rw [← hinstant a ha, ← hinstant b hb]
    rcases Store.listedBefore_iff.mp hab.1 with hlater | ⟨hsame, hid⟩
    · exact .inl hlater
    · exact .inr ⟨hsame, lt_of_le_of_ne hid hab.2⟩
  · rw [List.mem_map]
    constructor
    · rintro ⟨c₀, hc₀, rfl⟩
      exact ⟨c₀.id, c₀, hentries c₀ hc₀, rfl⟩
    · rintro ⟨id, c₀, hid, rfl⟩
      -- The row of the case is one of those that are listed.
      have hfound : w.store.case? id = some (.ofCase c₀) := by rw [h.rows, hid]; rfl
      have hmem := hperm.mem_iff.mpr (List.mem_of_find?_eq_some hfound)
      obtain ⟨c₁, hc₁, hrow⟩ := List.mem_map.mp hmem
      have hid₁ : c₁.id = c₀.id := congrArg CaseRow.id hrow
      have heq := hentries c₁ hc₁
      rw [hid₁, (h.entries id c₀ hid).1, hid, Option.some.injEq] at heq
      exact ⟨c₁, hc₁, congrArg Case.kept heq.symm⟩
  · have hfilter : w.store.listCases (some appId)
        = (cs.filter (·.appId == appId)).map CaseRow.ofCase := by
      rw [Store.listCases_some h.nodup, hcs, List.filter_map]
      rfl
    have hkept : (cs.map Case.kept).filter (·.appId == appId)
        = (cs.filter (·.appId == appId)).map Case.kept := by
      rw [List.filter_map]
      rfl
    rw [Cases.fst_perform_list h.ready, hfilter, hkept]
    exact h.mapM_readRow fun c hc => hentries c (List.mem_filter.mp hc).1

/-- Along every run the store stays in step with the ledger. -/
theorem Recorded.inStep (h : w.Recorded l) : w.InStep l := by
  induction h with
  | empty h =>
    refine ⟨by rw [h], by simp [h, Store.caseIds], fun id => by simp [h, Store.case?], ?_⟩
    intro id c hid
    cases hid
  | after _ hstore hclock op hop ih =>
    have hstart := ih.of_store_eq hstore
    -- Seeding gives no case back, so it is none of the operations of a ledger.
    have hseeds : op.seedsCases = false := by
      cases op with
      | seedCases cs => cases hop
      | _ => rfl
    exact hstart.note (Operation.service_changes op hseeds _) fun c hc =>
      hstart.storable_of_change hclock hop hc

/-- After every run of operations from an empty store, in universal time: under each id the case
that was last given back is found as it is kept, which is as it was given if all its numbers are
finite, and none is found where there was none or its app was removed since. All these cases are
listed, each once, the one opened later first and of two opened at one time the one with the lesser
id; and the cases of one app are listed in the same order. -/
theorem Recorded.gives_back (h : w.Recorded l) :
    (∀ id, ((Cases.find (some id)).perform w).1 =
      match l id with
      | some c => .ok c.kept
      | none => .error (.refused (.notFound .case (some id)))) ∧
    (∀ id c, l id = some c →
      (c.kept = c ↔ ∀ p ∈ c.formData, ∀ x, p.2 = .float x → Decimal.isFinite x = true)) ∧
    ∃ cs, ((Cases.list none).perform w).1 = .ok cs ∧ cs.Pairwise Case.ListedBefore ∧
      (∀ c, c ∈ cs ↔ ∃ id c₀, l id = some c₀ ∧ c = c₀.kept) ∧
      ∀ appId, ((Cases.list (some appId)).perform w).1 = .ok (cs.filter (·.appId == appId)) :=
  ⟨h.inStep.fst_perform_find, fun id c hc => (h.inStep.entries id c hc).2.kept_eq_self_iff,
    h.inStep.fst_perform_list⟩

end World

/-! ## The sample installation -/

namespace Sample

theorem universal_noon : noon.Universal where
  proper := ⟨by decide, by decide, fun o ho => by obtain rfl : 0 = o := Option.some.inj ho; decide⟩
  offset_eq := rfl

/-- The openings are a run in universal time. -/
theorem recorded_openedWorld : ∃ l, openedWorld.Recorded l := by
  have hstart : World.Recorded emptyWorld _ := .empty rfl
  have hclock : emptyWorld.clock.Universal := universal_noon
  have husers := hstart.after rfl hclock (.seedUsers Seed.users) rfl
  have hclock₁ := (Operation.service_changes (.seedUsers Seed.users) rfl _).universal hclock
  have hcreated := husers.after rfl hclock₁ (.createApp founding) rfl
  have hclock₂ := (Operation.service_changes (.createApp founding) rfl _).universal hclock₁
  exact ⟨_, hcreated.after rfl hclock₂ (.createCase (some "app-1") opening) rfl⟩

end Sample

/-- After the openings the ledger has the case that was opened, which is found as it was given and
listed alone. -/
theorem World.Recorded.gives_back_sample : ∃ l c, Sample.openedWorld.Recorded l ∧
    l "case-1" = some c ∧
    ((Cases.find (some "case-1")).perform Sample.openedWorld).1 = .ok c ∧
    ∃ cs, ((Cases.list none).perform Sample.openedWorld).1 = .ok cs ∧ c ∈ cs := by
  obtain ⟨l, h⟩ := Sample.recorded_openedWorld
  obtain ⟨hfind, hkept, cs, hcs, -, hmem, -⟩ := gives_back h
  have hfound := hfind "case-1"
  -- What is found has no form values yet, so nothing of them is lost.
  have heval : ((Cases.find (some "case-1")).perform Sample.openedWorld).1.toOption.map
      (·.formData.isEmpty) = some true := by decide +kernel
  cases hl : l "case-1" with
  | none =>
    rw [hfound, hl] at heval
    cases heval
  | some c =>
    rw [hl] at hfound
    rw [hfound] at heval
    have hempty : c.formData = [] := by
      have hfinite : c.formData.finite = [] := List.isEmpty_iff.mp (Option.some.inj heval)
      exact List.map_eq_nil_iff.mp hfinite
    -- A case without form values is kept as it is, so it is found as it was given.
    have hsame : c.kept = c := (hkept "case-1" c hl).mpr fun p hp => by
      rw [hempty] at hp
      cases hp
    exact ⟨l, c, h, hl, hsame ▸ hfound, cs, hcs, (hmem c).mpr ⟨"case-1", c, hl, hsame.symm⟩⟩

end CaseFlow
