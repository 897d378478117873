import CaseFlow.Proofs.Service.Authoring
import CaseFlow.Proofs.Service.History

/-!
# Competing completions

Clients may all ask for the same step of a case to be completed. However many they are and in
whatever order they are served, the step is completed once (`World.Served.completed_once`), unless
an edge leads from it to itself: at most one request succeeds, all that are served after it come too
late, and the case that it gave back is the one that is stored in the end.

A request reads its case from the row that the requests before it have left. As long as none of them
succeeded this is the row from the start (`Store.Awaits`); after that it is the row of a case that
sits on another step (`World.Served.spent`).
-/

namespace CaseFlow

open Service

variable {w w₁ w' : World} {id stepId : String} {c c₀ c' : Case} {d : Document}

/-! ## A case that awaits its completion -/

/-- A completion of a case that was read takes it to one that comes back as it is kept. -/
private theorem CaseRow.read_of_complete {r : Rules} {q : Completion} {now : Timestamp}
    (hc₀ : c₀.Timed) (hread : (ofCase c₀).read = .ok c) (hnow : now.Valid)
    (h : r.complete c d q now = .ok c') : (ofCase c').read = .ok c'.kept := by
  -- The case was read from JSON, so its values lose nothing but numbers that the request brings.
  obtain ⟨hopened, hdurable⟩ := durable_of_read_ofCase hread
  have hlegible := (of_read_ofCase hc₀ hread).2.2.complete hnow h
  obtain ⟨n, next, userId, user, vs, hcompletes, rfl⟩ := Rules.complete_eq_ok.mp h
  rw [hlegible.read_ofCase]
  have hvalues := hdurable.merge (Node.answers_scalar hcompletes.answered).durable
  simp only [Case.kept, Case.advanced, hopened, hvalues.portableFields_eq]

/-- A case that was read and completes a step loses nothing when it is kept, exactly if the clock
showed a time that documents keep and all its numbers are finite: its older entries were in a
document already. -/
private theorem CaseRow.kept_eq_self_iff_of_complete {r : Rules} {q : Completion} {now : Timestamp}
    (hc₀ : c₀.Timed) (hread : (ofCase c₀).read = .ok c) (h : r.complete c d q now = .ok c') :
    c'.kept = c' ↔ (∀ o, now.offset = some o → 60 ∣ o) ∧
      ∀ p ∈ c'.formData, ∀ x, p.2 = .float x → Decimal.isFinite x = true := by
  obtain ⟨stepId, userId, -, -, hhistory⟩ := Rules.history_of_complete h
  have hold : ∀ e ∈ c.history, ∀ o, e.completedAt.offset = some o → 60 ∣ o := by
    rw [(of_read_ofCase hc₀ hread).1]
    exact fun e he o ho => ((Event.documented_proper hc₀ e he).offset_minutes o ho).1
  have hminutes : (∀ e ∈ c'.history, ∀ o, e.completedAt.offset = some o → 60 ∣ o) ↔
      ∀ o, now.offset = some o → 60 ∣ o := by
    rw [hhistory, List.forall_mem_append, List.forall_mem_singleton, and_iff_right hold]
  rw [Case.kept_eq_self_iff, hminutes]

/-- Under an id a store has the row of a case that reads as case `c`, and the row of its app, whose
workflow reads as document `d`. -/
structure Store.Awaits (s : Store) (id : String) (c : Case) (d : Document) : Prop where
  /-- The store can be used. -/
  ready : s.condition = .ready
  /-- The cases have ids of their own. -/
  nodup : s.caseIds.Nodup
  /-- The case is read from the row of one whose steps were left at times. -/
  row : ∃ c₀ : Case, s.case? id = some (.ofCase c₀) ∧ c₀.Timed ∧ (CaseRow.ofCase c₀).read = .ok c
  /-- The workflow is read from the row of its app. -/
  app : ∃ r, s.app? c.appId = some r ∧ Document.read r.workflow.toValue = .ok d

namespace Store.Awaits

/-- A case that is found, with the workflow of its app, awaits its completion. -/
private theorem of_find (hw : w.Chronicled) (hc : ((Cases.find (some id)).perform w).1 = .ok c)
    (hd : ((Apps.workflow (some c.appId)).perform w).1 = .ok d) : w.store.Awaits id c d := by
  obtain ⟨hready, r, hr, hworkflow⟩ := Apps.workflow_eq_ok.mp hd
  obtain ⟨row, hrow, hread⟩ := Cases.exists_row_of_find hc
  obtain ⟨c₀, rfl, hc₀⟩ := hw.timed row (List.mem_of_find?_eq_some hrow)
  exact ⟨hready, hw.reachable.nodup, ⟨c₀, hrow, hc₀, hread⟩, r, hr, hworkflow⟩

/-- A case that is awaited under an id has that id. -/
theorem id_eq {s : Store} (h : s.Awaits id c d) : c.id = id := by
  obtain ⟨c₀, hrow, -, hread⟩ := h.row
  have hbound : (some id).bind s.case? = some (.ofCase c₀) := hrow
  have hid : some id = some (CaseRow.ofCase c₀).id := eq_id_of_case? hbound
  exact (CaseRow.id_of_read hread).trans (Option.some.inj hid).symm

/-- A case that is awaited is found. -/
theorem find (h : w.store.Awaits id c d) : (Cases.find (some id)).perform w = (.ok c, w) := by
  obtain ⟨c₀, hrow, -, hread⟩ := h.row
  exact Cases.find_eq_ok.mpr ⟨h.ready, rfl, _, hrow, hread⟩

/-- A request has the outcome of the rules for the case and the workflow. -/
theorem complete (h : w.store.Awaits id c d) (q : Completion) :
    ((Cases.complete (some id) q).perform w).1 =
      ({ lookup := w.store.user?, strict := w.policy.strict } : Rules).complete c d q
        w.clock.now := by
  obtain ⟨r, hr, hread⟩ := h.app
  exact Cases.perform_complete h.find (Apps.workflow_eq_ok.mpr ⟨h.ready, r, hr, hread⟩) q

/-- A case that completed a step and is kept awaits its next completion. -/
theorem keepCase {s : Store} (h : s.Awaits id c d) {r : Rules} {q : Completion} {now : Timestamp}
    (hnow : now.Valid) (hcomplete : r.complete c d q now = .ok c') :
    (s.keepCase c').Awaits id c'.kept d := by
  obtain ⟨c₀, hrow, hc₀, hread⟩ := h.row
  obtain ⟨hid', happ⟩ := Rules.complete_identity hcomplete
  -- What is written can be read again, since the clock showed a time that can be.
  have hlegible := (CaseRow.of_read_ofCase hc₀ hread).2.2.complete hnow hcomplete
  refine ⟨(condition_keepCase s c').trans h.ready, caseIds_keepCase h.nodup c', ?_, ?_⟩
  · refine ⟨c', ?_, hlegible.timed, ?_⟩
    · rw [case?_keepCase, if_pos (h.id_eq.symm.trans hid'.symm)]
    · exact CaseRow.read_of_complete hc₀ hread hnow hcomplete
  · have happ' : c'.kept.appId = c.appId := happ
    rw [happ', app?, apps_keepCase]
    exact h.app

end Store.Awaits

/-! ## Requests that are served one after the other -/

/-- Requests to complete one step of the case under an id are served one after the other, with their
outcomes in order. Before each of them the source of ids, the clock, the rules chosen and the log
may become anything. -/
inductive World.Served (id stepId : String) :
    World → List (Except Failure Case) → World → Prop where
  /-- There are no requests. -/
  | none (w : World) : Served id stepId w [] w
  /-- A request is served before the others. -/
  | next {w w₁ w₂ w' : World} {q : Completion} {outcome : Except Failure Case}
      {outcomes : List (Except Failure Case)} (hstore : w₁.store = w.store)
      (hclock : w₁.clock.now.Valid) (hstep : q.stepId = some stepId)
      (hserved : (Cases.complete (some id) q).perform w₁ = (outcome, w₂))
      (hrest : Served id stepId w₂ outcomes w') : Served id stepId w (outcome :: outcomes) w'

namespace World.Served

variable {outcomes : List (Except Failure Case)}

/-- Where the row is that of a case on another step, every request fails and leaves the store as it
was; if the case can be read, with the workflow of its app, the request comes too late. -/
theorem spent (hrun : w.Served id stepId outcomes w')
    (hrow : w.store.case? id = some (.ofCase c')) (hc' : c'.Timed)
    (hmoved : c'.currentStep ≠ some stepId) :
    w'.store = w.store ∧ ∀ o ∈ outcomes, ∃ f, o = .error f ∧ ∀ c d, w.store.Awaits id c d →
      f = .refused (.staleStep id c.currentStep (some stepId)) := by
  induction hrun with
  | none w => exact ⟨rfl, fun o ho => by cases ho⟩
  | @next w w₁ w₂ w' q outcome outcomes hstore hclock hstep hserved _ ih =>
    -- Whatever is read from the row sits on the other step, so it is not at the one asked for.
    have hread {c : Case} (hread : (CaseRow.ofCase c').read = .ok c) :
        c.currentStep ≠ q.stepId := by
      rw [(CaseRow.of_read_ofCase hc' hread).2.1, hstep]
      exact hmoved
    cases outcome with
    | ok c'' =>
      -- The case that a request reads would have to sit on the step it names.
      obtain ⟨c, d, hfind, -, hcomplete⟩ :=
        Cases.complete_eq_ok.mp (fst_perform_eq_ok.mpr ⟨w₂, hserved⟩)
      have hstale := hread (Cases.read_of_find (congrArg Prod.fst hfind) (hstore ▸ hrow))
      rw [Rules.complete_of_gate_error (Rules.gate_of_stale hstale)] at hcomplete
      cases hcomplete
    | error f =>
      have hsame : w₂.store = w.store :=
        ((Cases.complete_yields q).of_error hserved).store_eq.trans hstore
      obtain ⟨hrest, hothers⟩ := ih (hsame ▸ hrow)
      refine ⟨hrest.trans hsame, List.forall_mem_cons.mpr ⟨⟨f, rfl, fun c d h => ?_⟩, ?_⟩⟩
      · have h₁ : w₁.store.Awaits id c d := hstore ▸ h
        obtain ⟨c₀, hrow₀, -, hread₀⟩ := h.row
        rw [hrow, Option.some.injEq] at hrow₀
        have houtcome := h₁.complete q
        rw [hserved, Rules.complete_of_gate_error (Rules.gate_of_stale (hread (hrow₀ ▸ hread₀))),
          h₁.id_eq, hstep] at houtcome
        exact Except.error.inj houtcome
      · rwa [hsame] at hothers

end World.Served

/-- One of the requests, which started from world `w`, has completed the step of case `c`, when the
clock showed `now`; it gave back case `c'`, and world `w'` is what all of them left. -/
structure World.CompletedBy (w : World) (id stepId : String) (c : Case)
    (outcomes : List (Except Failure Case)) (w' : World) (c' : Case) (now : Timestamp) : Prop where
  /-- All other requests fail, and those that are served later come too late. -/
  once : ∃ before after, outcomes = before ++ .ok c' :: after ∧
    (∀ o ∈ before ++ after, ∃ f, o = .error f) ∧
    ∀ o ∈ after, o = .error (.refused (.staleStep id c'.currentStep (some stepId)))
  /-- The history has one more entry. -/
  history : ∃ userId, c'.history = c.history ++ [⟨stepId, userId, now⟩]
  /-- The row of the case is that of case `c'`, and nothing else changes. -/
  row : w.store.ReplacesCase c' w'.store
  /-- The case that is found in the end is case `c'` as it is kept. -/
  found : ((Cases.find (some id)).perform w').1 = .ok c'.kept
  /-- It is case `c'` itself, exactly if documents keep the time and all its numbers are finite. -/
  kept_iff : c'.kept = c' ↔ (∀ o, now.offset = some o → 60 ∣ o) ∧
    ∀ p ∈ c'.formData, ∀ x, p.2 = .float x → Decimal.isFinite x = true

/-- A request that fails before the step is completed changes nothing. -/
theorem World.CompletedBy.cons {outcomes : List (Except Failure Case)}
    {now : Timestamp} {f : Failure}
    (h : w₁.CompletedBy id stepId c outcomes w' c' now) (hstore : w₁.store = w.store) :
    w.CompletedBy id stepId c (.error f :: outcomes) w' c' now := by
  obtain ⟨⟨before, after, rfl, hfail, hlate⟩, hhistory, hrow, hfound, hkept⟩ := h
  refine ⟨⟨.error f :: before, after, rfl, ?_, hlate⟩, hhistory, hstore ▸ hrow, hfound, hkept⟩
  exact List.forall_mem_cons.mpr ⟨⟨f, rfl⟩, hfail⟩

namespace World.Served

variable {outcomes : List (Except Failure Case)}

/-- The first request to succeed is the one that completes the step, if no edge leads from the step
to itself. -/
private theorem completedBy {w₂ : World} {q : Completion} (hs : w₁.store.Awaits id c d)
    (hloop : ∀ e ∈ d.edges, e.source = stepId → e.target ≠ stepId) (hclock : w₁.clock.now.Valid)
    (hq : q.stepId = some stepId) (hserved : (Cases.complete (some id) q).perform w₁ = (.ok c', w₂))
    (hrest : w₂.Served id stepId outcomes w') :
    w₁.CompletedBy id stepId c (.ok c' :: outcomes) w' c' w₁.clock.now := by
  have hcomplete := (hs.complete q).symm.trans (congrArg Prod.fst hserved)
  have hkept : w₂.store = w₁.store.keepCase c' :=
    ((Cases.complete_yields q).of_ok hserved).1.store_eq
  have hid : c'.id = id := (Rules.complete_identity hcomplete).1.trans hs.id_eq
  obtain ⟨c₀, hrow, hc₀, hread⟩ := hs.row
  obtain ⟨n, next, userId, user, vs, hcompletes, hadvanced⟩ := Rules.complete_eq_ok.mp hcomplete
  obtain rfl : n.id = stepId := Option.some.inj (hcompletes.asked.symm.trans hq)
  -- The case has left for another step, since the edge that it took is no loop.
  have hmoved : c'.currentStep ≠ some n.id := by
    obtain ⟨-, e, he, hsource, htarget⟩ := hcompletes.edge
    rw [← hadvanced]
    intro hsame
    exact hloop e he hsource (htarget.trans (Option.some.inj hsame))
  have hhistory : c'.history = c.history ++ [⟨n.id, userId, w₁.clock.now⟩] := by
    rw [← hadvanced]
    rfl
  have htimed : c'.Timed := ((CaseRow.of_read_ofCase hc₀ hread).2.2.complete hclock hcomplete).timed
  -- From then on the row is that of a case that sits elsewhere, so every later request fails.
  have hrow' : w₂.store.case? id = some (.ofCase c') := by
    rw [hkept, Store.case?_keepCase, if_pos hid.symm]
  obtain ⟨hstore, hothers⟩ := hrest.spent hrow' htimed hmoved
  -- The later requests find the case as it was kept, and with it the step on which it sits now.
  have hagain : w₂.store.Awaits id c'.kept d := hkept ▸ hs.keepCase hclock hcomplete
  refine ⟨⟨[], outcomes, rfl, fun o ho => ?_, fun o ho => ?_⟩, ⟨userId, hhistory⟩, ?_, ?_,
    CaseRow.kept_eq_self_iff_of_complete hc₀ hread hcomplete⟩
  · obtain ⟨f, hf, -⟩ := hothers o ho
    exact ⟨f, hf⟩
  · obtain ⟨f, rfl, hf⟩ := hothers o ho
    rw [hf _ _ hagain]
    rfl
  · rw [hstore, hkept]
    exact Store.replacesCase_keepCase hs.nodup (hid ▸ hrow)
  · have hlast : w'.store.Awaits id c'.kept d := hstore ▸ hagain
    exact congrArg Prod.fst hlast.find

/-- A step of a stored case from which no edge leads to itself is completed once, whoever asks for
it and in whatever order the requests are served: either all of them fail and the store stays as it
was, or one succeeds, with one more entry in the history. Then all requests served after it come too
late, and the case stored in the end is the one that it gave back: as it is kept, which is as it was
given exactly if all its numbers are finite and the clock was whole minutes off universal time, as
far as that is known. -/
theorem completed_once (hw : w.Chronicled)
    (hfind : ((Cases.find (some id)).perform w).1 = .ok c)
    (hworkflow : ((Apps.workflow (some c.appId)).perform w).1 = .ok d)
    (hloop : ∀ e ∈ d.edges, e.source = stepId → e.target ≠ stepId)
    (hrun : w.Served id stepId outcomes w') :
    ((∀ o ∈ outcomes, ∃ f, o = .error f) ∧ w'.store = w.store) ∨
      ∃ c' now, w.CompletedBy id stepId c outcomes w' c' now := by
  -- That the case awaits its completion is what a request that fails leaves as it is.
  have hs : w.store.Awaits id c d := .of_find hw hfind hworkflow
  clear hw hfind hworkflow
  induction hrun with
  | none w => exact .inl ⟨fun o ho => (by cases ho), rfl⟩
  | @next w w₁ w₂ w' q outcome outcomes hstore hclock hq hserved hrest ih =>
    cases outcome with
    | ok c' =>
      have hwon := hrest.completedBy (hstore ▸ hs) hloop hclock hq hserved
      exact .inr ⟨c', _, { hwon with row := hstore ▸ hwon.row }⟩
    | error f =>
      -- A request that fails leaves the store, so that the others find what it found.
      have hsame : w₂.store = w.store :=
        ((Cases.complete_yields q).of_error hserved).store_eq.trans hstore
      rcases ih (hsame ▸ hs) with ⟨hfail, hkept⟩ | ⟨c', now, hwon⟩
      · exact .inl ⟨List.forall_mem_cons.mpr ⟨⟨f, rfl⟩, hfail⟩, hkept.trans hsame⟩
      · exact .inr ⟨c', now, hwon.cons hsame⟩

end World.Served

/-! ## A sample contest -/

namespace Sample

/-- Requests about the sample case are served one after the other, each at noon. -/
def servedAtNoon : World → List Completion → List (Except Failure Case) × World
  | w, [] => ([], w)
  | w, q :: qs =>
    let (outcome, w₁) :=
      (Cases.complete (some "case-1") q).perform { w with clock := emptyWorld.clock }
    let (outcomes, w') := servedAtNoon w₁ qs
    (outcome :: outcomes, w')

private theorem served_servedAtNoon {w : World} {qs : List Completion}
    (hqs : ∀ q ∈ qs, q.stepId = some "start") :
    w.Served "case-1" "start" (servedAtNoon w qs).1 (servedAtNoon w qs).2 := by
  induction qs generalizing w with
  | nil => exact .none w
  | cons q qs ih =>
    rw [List.forall_mem_cons] at hqs
    let noonAgain : World := { w with clock := emptyWorld.clock }
    have hstore : noonAgain.store = w.store := rfl
    have hclock : noonAgain.clock.now.Valid := universal_noon.proper.valid
    exact .next hstore hclock hqs.1 rfl (ih hqs.2)

/-- Three requests for the first step: one by nobody, and one by each of two users. -/
def contest : List (Except Failure Case) × World :=
  servedAtNoon openedWorld
    [byNobody, ⟨some "start", some "user-1", none, []⟩, ⟨some "start", some "user-2", none, []⟩]

end Sample

/-- The sample case is found, and no edge leads from its first step to itself. -/
private theorem Sample.find_openedWorld : ∃ c d,
    ((Cases.find (some "case-1")).perform openedWorld).1 = .ok c ∧
      ((Apps.workflow (some c.appId)).perform openedWorld).1 = .ok d ∧
      ∀ e ∈ d.edges, e.source = "start" → e.target ≠ "start" := by
  have heval : ((Cases.find (some "case-1")).perform openedWorld).1.toOption.any (fun c =>
      ((Apps.workflow (some c.appId)).perform openedWorld).1.toOption.any fun d =>
        d.edges.all fun e => e.source != "start" || e.target != "start") = true := by decide +kernel
  obtain ⟨c, hfind, hshown⟩ := any_toOption_eq_true.mp heval
  obtain ⟨d, hworkflow, hloop⟩ := any_toOption_eq_true.mp hshown
  simp only [List.all_eq_true, Bool.or_eq_true, bne_iff_ne, ← imp_iff_not_or] at hloop
  exact ⟨c, d, hfind, hworkflow, hloop⟩

/-- The first user completes the step, and the second comes too late. -/
theorem World.Served.completed_once_sample : ∃ f c', Sample.contest.1 =
      [.error f, .ok c', .error (.refused (.staleStep "case-1" c'.currentStep (some "start")))] ∧
    ((Cases.find (some "case-1")).perform Sample.contest.2).1 = .ok c'.kept := by
  obtain ⟨c, d, hfind, hworkflow, hloop⟩ := Sample.find_openedWorld
  have hrun : Sample.openedWorld.Served "case-1" "start" Sample.contest.1 Sample.contest.2 :=
    Sample.served_servedAtNoon (by decide)
  have htimes : Sample.contest.1.map (fun o => o.toOption.map fun c =>
      c.history.getLast?.map (·.completedAt)) =
        [Option.none, some (some Sample.noon), Option.none] := by
    decide +kernel
  rcases completed_once Sample.chronicled_openedWorld hfind hworkflow hloop hrun with
    ⟨hfail, -⟩ | ⟨c', now, ⟨before, after, houtcomes, hothers, hlate⟩, -, -, hfound, -⟩
  · -- The second request succeeds, so not all of them fail.
    have hwon : some (some Sample.noon) ∈ Sample.contest.1.map fun o =>
        o.toOption.map (·.history.getLast?.map (·.completedAt)) := by simp [htimes]
    obtain ⟨o, ho, hsome⟩ := List.mem_map.mp hwon
    obtain ⟨f, rfl⟩ := hfail o ho
    cases hsome
  · rw [houtcomes] at htimes ⊢
    -- There are three outcomes, and the second is the only one with a case.
    match before, after with
    | [], _ => simp [Except.toOption] at htimes
    | _ :: o :: _, _ =>
      obtain ⟨f, rfl⟩ := hothers o (by simp)
      simp [Except.toOption] at htimes
    | [_], [] | [_], _ :: _ :: _ => simp [Except.toOption] at htimes
    | [o], [o'] =>
      obtain ⟨f, rfl⟩ := hothers o (by simp)
      obtain rfl := hlate o' (by simp)
      exact ⟨f, c', rfl, hfound⟩

end CaseFlow
