import CaseFlow.Proofs.Case.Run
import CaseFlow.Proofs.Service.Commits
import CaseFlow.Proofs.Store.Rows

/-!
# Operations on an installation

The operations that change an installation, as one type. Each of them commits at most once, after
everything that can fail, but for those that are series of others and for the one that reads back
what it has committed (`Operation.commitsLast`). So an operation that fails leaves the store as it
was, and a case that moves changes its own row and nothing else (`Operation.failure_keeps_store`).

There are five kinds of writes (`Operation.Writes`), and what each of them preserves every operation
does (`Operation.leads_of_writes`). Worlds that operations lead to from an empty store are
`World.Reachable`; between two operations everything but the store may change, so that what is
proved of such worlds holds for every source of ids, every clock and every choice of rules.
-/

namespace CaseFlow

open Service

/-- What an operation gives. -/
inductive Answer where
  /-- Nothing to speak of. -/
  | done
  /-- How many things were added. -/
  | count (n : Nat)
  /-- Whether there was something to remove. -/
  | found (b : Bool)
  /-- A user. -/
  | user (u : User)
  /-- An app. -/
  | app (a : App)
  /-- What was found in a workflow. -/
  | findings (f : Findings)
  /-- A workflow, and what was made in it. -/
  | edited (d : Document) (made : Made)
  /-- A case. -/
  | case (c : Case)

/-- An operation that may change users, apps or cases. -/
inductive Operation where
  /-- Adds the users that are not stored yet. -/
  | seedUsers (us : List User)
  /-- Invites a user. -/
  | inviteUser (email : Option String) (role : Value) (name : Option String)
  /-- Changes a user. -/
  | updateUser (id name : Option String) (role : Value)
  /-- Removes a user. -/
  | deleteUser (id actingUser : Option String)
  /-- Creates the apps that are not stored yet. -/
  | seedApps (as : List Seed.AppSeed)
  /-- Creates an app. -/
  | createApp (o : Apps.Founding)
  /-- Changes an app. -/
  | updateApp (id name icon themeColor : Option String)
  /-- Removes an app. -/
  | deleteApp (id : Option String)
  /-- Saves a workflow. -/
  | saveWorkflow (id : Option String) (d : Document)
  /-- Takes over a workflow. -/
  | replaceWorkflow (id : Option String) (d : Document)
  /-- Runs a command in an editor that is held. -/
  | command (id : Option String) (ed : Editor) (c : Command)
  /-- Runs a command in a new editor. -/
  | edit (id : Option String) (c : Command)
  /-- Adds the cases that are not stored yet. -/
  | seedCases (cs : List Case)
  /-- Saves a case. -/
  | saveCase (c : Case)
  /-- Opens a case. -/
  | createCase (appId : Option String) (o : Case.Opening)
  /-- Completes the step of a case. -/
  | completeStep (id : Option String) (q : Completion)
  /-- Places a case on a step. -/
  | setStep (id stepId : Option String)

namespace Operation

/-- What an operation does. -/
def service : Operation → Service Answer
  | seedUsers us => .count <$> Directory.seed us
  | inviteUser email role name => .user <$> Directory.invite email role name
  | updateUser id name role => .user <$> Directory.update id name role
  | deleteUser id actingUser => .found <$> Directory.remove id actingUser
  | seedApps as => .count <$> Apps.seed as
  | createApp o => .app <$> Apps.create o
  | updateApp id name icon themeColor => .app <$> Apps.update id name icon themeColor
  | deleteApp id => .found <$> Apps.remove id
  | saveWorkflow id d => (fun _ => .done) <$> Apps.saveWorkflow id d
  | replaceWorkflow id d => .findings <$> Apps.replaceWorkflow id d
  | command id ed c =>
    (fun p => .edited p.1 p.2) <$> (Apps.command id ed c >>= fun p => settle p.1)
  | edit id c => (fun p => .edited p.1 p.2) <$> Apps.edit id c
  | seedCases cs => .count <$> Cases.seed cs
  | saveCase c => (fun _ => .done) <$> Cases.save c
  | createCase appId o => .case <$> Cases.create appId o
  | completeStep id q => .case <$> Cases.complete id q
  | setStep id stepId => .case <$> Cases.setStep id stepId

/-- Whether nothing that can fail follows a commit: so it is with all operations but those that
seed apps or cases one by one, and the one that changes an app and reads it back. -/
def commitsLast : Operation → Bool
  | seedApps _ | updateApp .. | seedCases _ => false
  | _ => true

/-- Whether an operation adds cases without giving them back. -/
def seedsCases : Operation → Bool
  | seedCases _ => true
  | _ => false

/-- What an operation with a given outcome does to the cases: each that answers with a case has
kept it. -/
def change : Operation → Except Failure Answer → CaseChange
  | _, .ok (.case c) => .keep c
  | saveCase c, .ok .done => .keep c
  | deleteApp (some id), .ok (.found true) => .dropApp id
  | _, _ => .nothing

end Operation

/-- The world after an operation, whether it fails or not. -/
def World.after (w : World) (op : Operation) : World := (op.service.perform w).2

/-- The world after an operation is the one that its service leaves behind. -/
theorem World.after_eq {α : Type} {m : Service α} {g : α → Answer} {op : Operation}
    (h : op.service = g <$> m) (w : World) : w.after op = (m.perform w).2 := by
  rw [after, h, perform_map]

/-- World `w'` is what becomes of world `w` when there is a change to the cases, and any to users
and apps. -/
structure World.Changes (w : World) (change : CaseChange) (w' : World) : Prop where
  /-- The cases are those after the change. -/
  cases_eq : w'.store.cases = w.store.casesAfter change
  /-- The store stays as usable as it was. -/
  condition_eq : w'.store.condition = w.store.condition
  /-- A clock on universal time stays on it. -/
  universal : w.clock.Universal → w'.clock.Universal

/-- What spares the cases changes nothing about them. -/
theorem World.SparesCases.changes {w w' : World} (h : w.SparesCases w') : w.Changes .nothing w' :=
  ⟨h.cases_eq, h.condition_eq, h.universal⟩

@[simp]
theorem Store.condition_keepCase (s : Store) (c : Case) :
    (s.keepCase c).condition = s.condition := by
  unfold keepCase
  split <;> rfl

/-- What keeps a case changes that case only. -/
theorem World.Keeps.changes {w w' : World} {c : Case} (h : w.Keeps c w') : w.Changes (.keep c) w' :=
  ⟨congrArg Store.cases h.store_eq, by rw [h.store_eq, Store.condition_keepCase], h.universal⟩

namespace Operation

variable {op : Operation} {w w' : World}

/-- An operation that commits last yields the change that its answer tells of, or leaves the store
as it was. -/
theorem service_yields (hop : op.commitsLast = true) :
    op.service.Yields w fun a w' => w.Changes (op.change (.ok a)) w' := by
  unfold service
  -- All but three operations commit as the last thing that they do.
  cases op with
  | seedUsers us =>
    exact (Directory.seed_yields us).map fun _ _ h => h.changesUsers.sparesCases.changes
  | inviteUser email role name =>
    exact (Directory.invite_yields email role name).map
      fun _ _ h => h.1.changesUsers.sparesCases.changes
  | updateUser id name role =>
    exact (Directory.update_yields name role).map
      fun _ _ h => h.1.changesUsers.sparesCases.changes
  | deleteUser id actingUser =>
    refine (Directory.remove_yields actingUser).map fun found _ h => ?_
    cases found with
    | false => exact (World.Becomes.sparesCases h).changes
    | true =>
      obtain ⟨_, -, -, henrols⟩ := h
      exact henrols.changesUsers.sparesCases.changes
  | seedApps as => cases hop
  | createApp o => exact (Apps.create_yields o).map fun _ _ h => h.1.changes
  | updateApp id name icon themeColor => cases hop
  | deleteApp id =>
    refine Apps.remove_yields.map fun found w' h => ?_
    obtain ⟨huniversal, hstore⟩ := h
    cases found with
    | false =>
      -- Whether an id was asked for or not, no app was found and nothing removed.
      have hstore : w'.store = w.store := by simpa using hstore
      cases id <;>
        exact ⟨congrArg Store.cases hstore, congrArg Store.condition hstore, huniversal⟩
    | true =>
      obtain ⟨appId, rfl, hremoved⟩ := hstore
      exact ⟨congrArg Store.cases hremoved, by rw [hremoved]; rfl, huniversal⟩
  | saveWorkflow id d => exact Apps.saveWorkflow_yields.map fun _ _ h => h.1.changes
  | replaceWorkflow id d => exact Apps.replaceWorkflow_yields.map fun _ _ h => h.1.changes
  | command id ed c => exact (Apps.command_yields ed c).map fun _ _ h => h.sparesCases.changes
  | edit id c => exact (Apps.edit_yields c).map fun _ _ h => h.sparesCases.changes
  | seedCases cs => cases hop
  | saveCase c => exact Cases.save_yields.map fun _ _ h => h.changes
  | createCase appId o => exact (Cases.create_yields appId o).map fun _ _ h => h.1.changes
  | completeStep id q => exact (Cases.complete_yields q).map fun _ _ h => h.1.changes
  | setStep id stepId => exact (Cases.setStep_yields stepId).map fun _ _ h => h.1.changes

/-- Every operation but the seeding of cases changes them as its outcome tells; if it fails, it
spares them. -/
theorem service_changes (op : Operation) (hop : op.seedsCases = false) (w : World) :
    w.Changes (op.change (op.service.perform w).1) (w.after op) := by
  rw [World.after]
  by_cases hlast : op.commitsLast = true
  · rcases hperform : op.service.perform w with ⟨f | a, w'⟩
    · have hbecomes := (service_yields hlast).of_error hperform
      cases op <;> exact hbecomes.sparesCases.changes
    · exact (service_yields hlast).of_ok hperform
  · -- What remains only leads on, and answers with no case.
    cases op with
    | seedApps as =>
      -- Seeding apps may stop after some of them, so it is followed write by write.
      have hleads := Apps.seed_leads World.sequential_sparesCases
        (fun o _ => .of_yields World.sequential_sparesCases fun _ =>
          (Apps.create_yields o).mono fun _ _ h => h.1) as w
      rw [service, perform_map]
      rcases hseed : (Apps.seed as).perform w with ⟨f | n, w'⟩ <;> rw [hseed] at hleads <;>
        exact hleads.changes
    | updateApp id name icon themeColor =>
      have hleads : w.SparesCases ((Apps.update id name icon themeColor).perform w).2 :=
        Apps.update_leads World.sequential_sparesCases
          (fun _ _ _ _ _ _ => ⟨rfl, rfl, fun h => h⟩) name icon themeColor w
      rw [service, perform_map]
      rcases hupdate : (Apps.update id name icon themeColor).perform w with ⟨f | a, w'⟩ <;>
        rw [hupdate] at hleads <;> exact hleads.changes
    | seedCases cs => cases hop
    | _ => exact absurd rfl hlast

end Operation

/-! ## Writes -/

namespace Operation

/-- Whether an operation works on the directory of users. -/
def onUsers : Operation → Bool
  | seedUsers _ | inviteUser .. | updateUser .. | deleteUser .. => true
  | _ => false

/-- Whether an operation works on apps. -/
def onApps : Operation → Bool
  | seedApps _ | createApp _ | updateApp .. | deleteApp _ | saveWorkflow .. | replaceWorkflow ..
  | command .. | edit .. => true
  | _ => false

/-- Whether an operation works on cases. -/
def onCases : Operation → Bool
  | seedCases _ | saveCase _ | createCase .. | completeStep .. | setStep .. => true
  | _ => false

/-- World `w'` is what one write of an operation makes of world `w`. -/
inductive Writes (op : Operation) (w w' : World) : Prop where
  /-- There are other users. -/
  | enrols {us : List User} (hop : op.onUsers = true) (h : w.Enrols us w')
  /-- An app is added under a free id. Its name is checked. -/
  | addApp {a : App} (hop : op.onApps = true) (hstore : w'.store = w.store.addApp (.ofApp a))
      (hfree : w.store.app? a.id = none) (hname : IsName a.name)
  /-- The row of an app is replaced. Its name stays, or is checked. -/
  | replaceApp {id : Option String} {r r' : AppRow} (hop : op.onApps = true)
      (hr : id.bind w.store.app? = some r) (hstore : w'.store = w.store.replaceApp r')
      (hid : r'.id = r.id) (hname : r'.name = r.name ∨ IsName r'.name)
  /-- An app is removed, with its cases. -/
  | removeApp {appId : String} (hop : op.onApps = true)
      (hstore : w'.store = w.store.removeApp appId)
  /-- A case is kept. -/
  | keeps {c : Case} (hop : op.onCases = true) (h : w.Keeps c w')

variable {R : World → World → Prop} {op : Operation}

theorem create_leads (hR : World.Sequential R)
    (hwrites : ∀ {w w' : World}, op.Writes w w' → R w w') (hop : op.onApps = true)
    (o : Apps.Founding) : (Apps.create o).Leads R := by
  refine .of_yields hR fun _ => (Apps.create_spec o).mono ?_
  rintro a w' ⟨-, -, ⟨appId, hread⟩, hfree, hstore⟩
  exact hwrites (.addApp hop hstore hfree (Apps.Founding.of_read hread).2.1)

/-- A command writes nothing but the workflow of its app. -/
theorem command_leads (hR : World.Sequential R)
    (hwrites : ∀ {w w' : World}, op.Writes w w' → R w w') (hop : op.onApps = true)
    (id : Option String) (ed : Editor) (c : Command) : (Apps.command id ed c).Leads R := by
  intro w
  obtain ⟨r, ed', w', hperform, -, hcases⟩ := Apps.command_spec id ed c w
  rw [hperform]
  rcases hcases with ⟨-, h⟩ | ⟨_, _, _, _, row, -, -, -, hrow, hstore⟩
  · exact hR.becomes h
  · exact hwrites (.replaceApp hop hrow hstore rfl (.inl rfl))

/-- An operation leads wherever its writes do: it makes nothing but writes, one after the other. -/
theorem leads_of_writes (hR : World.Sequential R)
    (hwrites : ∀ {w w' : World}, op.Writes w w' → R w w') : op.service.Leads R := by
  unfold service
  -- Most operations write once; seeding and running a command may write more often or not at all.
  cases op with
  | seedUsers us =>
    exact (Leads.of_yields hR fun _ => (Directory.seed_yields us).mono
      fun _ _ h => hwrites (.enrols rfl h)).map _
  | inviteUser email role name =>
    exact (Leads.of_yields hR fun _ => (Directory.invite_yields email role name).mono
      fun _ _ h => hwrites (.enrols rfl h.1)).map _
  | updateUser id name role =>
    exact (Leads.of_yields hR fun _ => (Directory.update_yields name role).mono
      fun _ _ h => hwrites (.enrols rfl h.1)).map _
  | deleteUser id actingUser =>
    exact (Directory.remove_leads hR (fun h => hwrites (.enrols rfl h)) actingUser).map _
  | seedApps as =>
    exact (Apps.seed_leads hR (fun o _ => create_leads hR hwrites rfl o) as).map _
  | createApp o => exact (create_leads hR hwrites rfl o).map _
  | updateApp id name icon themeColor =>
    exact (Apps.update_commits hR fun hname _ r hr =>
      hwrites (.replaceApp rfl hr rfl rfl (isName_renamed hname r.name))).map _
  | deleteApp id => exact (Apps.remove_leads hR fun h => hwrites (.removeApp rfl h)).map _
  | saveWorkflow id d =>
    refine (Leads.of_yields hR fun _ => Apps.saveWorkflow_yields.mono ?_).map _
    rintro _ w' ⟨-, r, hr, hstore⟩
    exact hwrites (.replaceApp rfl hr hstore rfl (.inl rfl))
  | replaceWorkflow id d =>
    refine (Leads.of_yields hR fun _ => Apps.replaceWorkflow_yields.mono ?_).map _
    rintro _ w' ⟨-, -, r, hr, hstore⟩
    exact hwrites (.replaceApp rfl hr hstore rfl (.inl rfl))
  | command id ed c =>
    exact (Leads.bind hR (command_leads hR hwrites rfl id ed c)
      fun _ => (Reads.settle _).leads hR).map _
  | edit id c =>
    exact (Leads.bind hR (Apps.editorFor_reads.leads hR) fun ed =>
      .bind hR (command_leads hR hwrites rfl id ed c) fun _ => (Reads.settle _).leads hR).map _
  | seedCases cs => exact (Cases.seed_leads hR fun _ _ _ _ _ h => hwrites (.keeps rfl h)).map _
  | saveCase c =>
    exact (Leads.of_yields hR fun _ => Cases.save_yields.mono
      fun _ _ h => hwrites (.keeps rfl h)).map _
  | createCase appId o =>
    exact (Leads.of_yields hR fun _ => (Cases.create_yields appId o).mono
      fun _ _ h => hwrites (.keeps rfl h.1)).map _
  | completeStep id q =>
    exact (Leads.of_yields hR fun _ => (Cases.complete_yields q).mono
      fun _ _ h => hwrites (.keeps rfl h.1)).map _
  | setStep id stepId =>
    exact (Leads.of_yields hR fun _ => (Cases.setStep_yields stepId).mono
      fun _ _ h => hwrites (.keeps rfl h.1)).map _

end Operation

/-! ## Cases that are kept -/

/-- How an operation comes to keep a case, other than by seeding it. -/
inductive Operation.KeepsCase (w : World) (c : Case) : Operation → Prop where
  /-- It saves the case. -/
  | saved : KeepsCase w c (.saveCase c)
  /-- It opens the case. -/
  | created {appId : Option String} {o : Case.Opening} {w' : World}
      (h : (Cases.create appId o).perform w = (.ok c, w')) : KeepsCase w c (.createCase appId o)
  /-- It completes the step of the case. -/
  | completed {id : Option String} {q : Completion} {w' : World}
      (h : (Cases.complete id q).perform w = (.ok c, w')) : KeepsCase w c (.completeStep id q)
  /-- It places the case on a step. -/
  | placed {id stepId : Option String} {w' : World}
      (h : (Cases.setStep id stepId).perform w = (.ok c, w')) : KeepsCase w c (.setStep id stepId)

/-- Only the operations that work on cases keep one. -/
theorem Operation.keepsCase_of_change {op : Operation} {w : World} {c : Case}
    (h : op.change (op.service.perform w).1 = .keep c) : op.KeepsCase w c := by
  -- A case is kept where it is given back, or where it is one that was handed over.
  have hanswer : op = .saveCase c ∨ (op.service.perform w).1 = .ok (.case c) := by
    unfold change at h
    split at h
    · next hok =>
      rw [hok, CaseChange.keep.inj h]
      exact .inr rfl
    · rw [CaseChange.keep.inj h]
      exact .inl rfl
    · cases h
    · cases h
  rcases hanswer with rfl | hanswer
  · exact .saved
  obtain ⟨w', hperform⟩ := fst_perform_eq_ok.mp hanswer
  cases op with
  | createCase appId o =>
    rw [service, perform_map_eq_ok] at hperform
    obtain ⟨c₁, hcreated, hcase⟩ := hperform
    exact Answer.case.inj hcase ▸ .created hcreated
  | completeStep id q =>
    rw [service, perform_map_eq_ok] at hperform
    obtain ⟨c₁, hcompleted, hcase⟩ := hperform
    exact Answer.case.inj hcase ▸ .completed hcompleted
  | setStep id stepId =>
    rw [service, perform_map_eq_ok] at hperform
    obtain ⟨c₁, hplaced, hcase⟩ := hperform
    exact Answer.case.inj hcase ▸ .placed hplaced
  | _ =>
    -- The others answer with something else.
    rw [service, perform_map_eq_ok] at hperform
    obtain ⟨_, -, hcase⟩ := hperform
    cases hcase

/-- Every row of a case is that of one with a property. -/
def Store.Holds (P : Case → Prop) (s : Store) : Prop := ∀ r ∈ s.cases, ∃ c, r = .ofCase c ∧ P c

theorem Store.Holds.of_row {P : Case → Prop} {s : Store} {id : Option String} {r : CaseRow}
    (hs : s.Holds P) (hrow : id.bind s.case? = some r) : ∃ c, r = .ofCase c ∧ P c := by
  obtain ⟨caseId, -, hfound⟩ := Option.bind_eq_some_iff.mp hrow
  exact hs r (List.mem_of_find?_eq_some hfound)

/-- A change keeps the rows so, if a case that is kept has the property. -/
theorem Store.Holds.of_changes {P : Case → Prop} {w w' : World} {change : CaseChange}
    (hs : w.store.Holds P) (hchange : w.Changes change w')
    (hkept : ∀ c, change = .keep c → P c) : w'.store.Holds P := by
  intro r hr
  rw [hchange.cases_eq] at hr
  rcases mem_casesAfter hr with hr | ⟨c, hkeep, rfl⟩
  · exact hs r hr
  · exact ⟨c, rfl, hkept c hkeep⟩

/-- An operation keeps a property of all rows of cases, if the cases that it seeds or keeps have it.
-/
theorem Operation.holds_after {P : Case → Prop} {w : World} {op : Operation}
    (hs : w.store.Holds P) (hseeds : ∀ cs, op = .seedCases cs → ∀ c ∈ cs, P c)
    (hkeeps : ∀ c, op.KeepsCase w c → P c) : (w.after op).store.Holds P := by
  cases hop : op.seedsCases with
  | false =>
    exact hs.of_changes (service_changes op hop w) fun c hc => hkeeps c (keepsCase_of_change hc)
  | true =>
    cases op with
    | seedCases cs =>
      -- Cases are seeded one after the other, each of which is brought.
      have hseq : World.Sequential fun w w' => w.store.Holds P → w'.store.Holds P :=
        ⟨fun h hs => h.store_eq ▸ hs, fun h h₁ => h₁ ∘ h⟩
      rw [World.after, service, perform_map]
      exact Cases.seed_leads hseq (fun c hc _ _ _ h hs => hs.of_changes h.changes
        fun _ hkept => CaseChange.keep.inj hkept ▸ hseeds cs rfl c hc) w hs
    | _ => cases hop

/-! ## Worlds that operations lead to -/

/-- The cases have ids of their own, if they had before. -/
def World.KeepsDistinct (w w' : World) : Prop := w.store.caseIds.Nodup → w'.store.caseIds.Nodup

/-- A change of one case keeps the ids of the cases distinct. -/
theorem World.Changes.keepsDistinct {w w' : World} {change : CaseChange}
    (h : w.Changes change w') : w.KeepsDistinct w' := by
  intro hdistinct
  rw [Store.caseIds, h.cases_eq]
  exact Store.nodup_casesAfter hdistinct change

private theorem World.sequential_keepsDistinct : World.Sequential World.KeepsDistinct where
  becomes h := h.sparesCases.changes.keepsDistinct
  trans h h₁ := h₁ ∘ h

/-- Every operation leaves the cases with ids of their own. -/
theorem Operation.service_leads (op : Operation) : op.service.Leads World.KeepsDistinct := by
  cases hop : op.seedsCases with
  | false => exact fun w => (service_changes op hop w).keepsDistinct
  | true =>
    cases op with
    | seedCases cs =>
      intro w
      rw [service, perform_map]
      exact Cases.seed_leads World.sequential_keepsDistinct
        (fun _ _ _ _ _ h => h.changes.keepsDistinct) w
    | _ => cases hop

/-- A world that operations lead to from an empty store. Between two of them the source of ids,
the clock, the rules chosen and the log may become anything. -/
inductive World.Reachable : World → Prop where
  /-- Nothing is stored. -/
  | empty {w : World} (h : w.store = {}) : Reachable w
  /-- An operation is performed, whether it fails or not. -/
  | after {w w₁ : World} (h : Reachable w) (hstore : w₁.store = w.store) (op : Operation) :
      Reachable (w₁.after op)

/-- In every store that operations lead to, the cases have ids of their own. -/
theorem World.Reachable.nodup {w : World} (h : w.Reachable) : w.store.caseIds.Nodup := by
  induction h with
  | empty h => simp [h, Store.caseIds]
  | after _ hstore op ih =>
    -- The operation starts from another world than the last one left, but from its store.
    refine op.service_leads _ ?_
    rwa [hstore]

/-! ## What a failure and a move leave behind -/

namespace Cases

variable {w w' : World} {id : Option String} {c' : Case}

/-- Where a case is kept that was stored under the id that was asked for, its row is replaced. -/
theorem replacesCase_of_keeps (hw : w.Reachable) {row : CaseRow} (hkeeps : w.Keeps c' w')
    (hrow : id.bind w.store.case? = some row) (hid : c'.id = row.id) :
    id = some c'.id ∧ w.store.ReplacesCase c' w'.store := by
  obtain rfl := Store.eq_id_of_case? hrow
  rw [← hid, Option.bind_some] at hrow
  rw [← hid, hkeeps.store_eq]
  exact ⟨rfl, Store.replacesCase_keepCase hw.nodup hrow⟩

/-- A completion that succeeds gives back the case that was asked for, and keeps its row. -/
theorem case?_of_complete {q : Completion} (h : (complete id q).perform w = (.ok c', w')) :
    id = some c'.id ∧ w'.store.case? c'.id = some (.ofCase c') := by
  obtain ⟨hkeeps, row, c, d, r, now, -, hrow, hread, hcomplete⟩ := (complete_yields q).of_ok h
  have hid : row.id = c'.id :=
    (CaseRow.id_of_read hread).symm.trans (Rules.complete_identity hcomplete).1.symm
  refine ⟨hid ▸ Store.eq_id_of_case? hrow, ?_⟩
  rw [hkeeps.store_eq, Store.case?_keepCase, if_pos rfl]

/-- A completion that succeeds replaces the row of its case. -/
private theorem complete_replaces (hw : w.Reachable) {q : Completion}
    (h : (complete id q).perform w = (.ok c', w')) :
    id = some c'.id ∧ w.store.ReplacesCase c' w'.store := by
  obtain ⟨hkeeps, row, c, d, r, now, -, hrow, hread, hcomplete⟩ := (complete_yields q).of_ok h
  have hid : c.id = row.id := CaseRow.id_of_read hread
  exact replacesCase_of_keeps hw hkeeps hrow ((Rules.complete_identity hcomplete).1.trans hid)

/-- A placement that succeeds replaces the row of its case. -/
private theorem setStep_replaces (hw : w.Reachable) {stepId : Option String}
    (h : (setStep id stepId).perform w = (.ok c', w')) :
    id = some c'.id ∧ w.store.ReplacesCase c' w'.store := by
  obtain ⟨hkeeps, row, c, d, hrow, hread, hplace⟩ := (setStep_yields stepId).of_ok h
  have hid : c.id = row.id := CaseRow.id_of_read hread
  obtain ⟨n, -, rfl⟩ := Case.place_eq_ok.mp hplace
  exact replacesCase_of_keeps hw hkeeps hrow hid

end Cases

/-- In every store that operations lead to: an operation that fails leaves the store as it was, if
nothing that can fail follows its commit; and a case that completes a step or is placed on one has
its row replaced, while nothing else changes. -/
theorem Operation.failure_keeps_store {w : World} (hw : w.Reachable) :
    (∀ op : Operation, op.commitsLast = true → ∀ f w', op.service.perform w = (.error f, w') →
      w'.store = w.store) ∧
    (∀ id q c' w', (Cases.complete id q).perform w = (.ok c', w') →
      id = some c'.id ∧ w.store.ReplacesCase c' w'.store) ∧
    ∀ id stepId c' w', (Cases.setStep id stepId).perform w = (.ok c', w') →
      id = some c'.id ∧ w.store.ReplacesCase c' w'.store :=
  ⟨fun _ hop _ _ h => ((service_yields hop).of_error h).store_eq,
    fun _ _ _ _ h => Cases.complete_replaces hw h, fun _ _ _ _ h => Cases.setStep_replaces hw h⟩

/-! ## A sample installation -/

namespace Sample

/-- An empty store, with the clock at noon. -/
def emptyWorld : World := { clock := { now := noon } }

/-- An app that is created under an id of its own. -/
def founding : Apps.Founding := { name := .text "Reports", id := some "app-1" }

/-- A case that is opened under an id of its own. -/
def opening : Case.Opening := { appId := .null, title := .text "Report", caseId := .text "case-1" }

/-- The world after users were seeded, the app was created and the case was opened in it. -/
def openedWorld : World :=
  ((emptyWorld.after (.seedUsers Seed.users)).after (.createApp founding)).after
    (.createCase (some "app-1") opening)

/-- A completion of the first step that nobody asks for. -/
def byNobody : Completion := { stepId := some "start", userId := none }

theorem reachable_openedWorld : openedWorld.Reachable :=
  .after (.after (.after (.empty rfl) rfl _) rfl _) rfl _

end Sample

/-- A completion by nobody fails and leaves the sample store as it was; a placement of the case
replaces its row. -/
theorem Operation.failure_keeps_store_sample :
    (∃ f w', (completeStep (some "case-1") Sample.byNobody).service.perform Sample.openedWorld
        = (.error f, w') ∧ w'.store = Sample.openedWorld.store) ∧
    ∃ c' w', (Cases.setStep (some "case-1") (some "triage")).perform Sample.openedWorld
        = (.ok c', w') ∧ Sample.openedWorld.store.ReplacesCase c' w'.store := by
  obtain ⟨hfails, -, hplaces⟩ := failure_keeps_store Sample.reachable_openedWorld
  constructor
  · let refused := (completeStep (some "case-1") Sample.byNobody).service
    -- That the one fails and the other succeeds is decided; what they leave is the theorem.
    obtain ⟨f, hf⟩ : ∃ f, (refused.perform Sample.openedWorld).1 = .error f :=
      isOk_eq_false.mp (by decide +kernel)
    have hperform : refused.perform Sample.openedWorld
        = (.error f, (refused.perform Sample.openedWorld).2) := Prod.ext hf rfl
    exact ⟨f, _, hperform, hfails _ rfl f _ hperform⟩
  · let placed := Cases.setStep (some "case-1") (some "triage")
    obtain ⟨c', hc'⟩ : ∃ c', (placed.perform Sample.openedWorld).1 = .ok c' :=
      isOk_eq_true.mp (by decide +kernel)
    obtain ⟨w', hperform⟩ := fst_perform_eq_ok.mp hc'
    exact ⟨c', w', hperform, (hplaces _ _ c' w' hperform).2⟩

end CaseFlow
