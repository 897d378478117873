import CaseFlow.Proofs.Http.Administration
import CaseFlow.Proofs.Service.Gating

/-!
# Requests that gate steps

Only one route asks whether a user is known before it gates a step to somebody. Still, whatever is
requested, a step of a stored workflow that is gated anew is gated to a user who is stored, or the
request handed over a whole workflow in which the step is gated so; and a patch that names nobody
who is stored is refused (`Server.Reachable.gates_known`).

Handing over a whole workflow is the gap: nothing is asked about its assignees then
(`Server.gates_unknown`). Every other request leaves the gates alone or passes the check, which is
argued from what the routes order (`Route.Orders.keepsGates`) and not from their handlers.
-/

namespace CaseFlow

open Service

variable {w w' : World} {new : String → String → Value → Prop}

namespace Directory

variable {us : List User} {v : Value}

instance : Decidable (Names us v) :=
  inferInstanceAs (Decidable (∃ u ∈ us, naming v = .id u.id))

/-- A value that names a user names the same one after it was kept. -/
theorem Names.portable (h : Names us v) : Names us v.portable := by
  obtain ⟨u, hu, hnaming⟩ := h
  refine ⟨u, hu, ?_⟩
  -- An id is a text, which is kept as it is, also as the one part of a list or an object.
  have hpart {x : Value} (hx : namingOf x = .id u.id) : namingOf x.portable = .id u.id := by
    cases x with
    | text s => exact hx
    | _ => cases hx
  unfold naming at hnaming
  split at hnaming
  · exact hpart hnaming
  · exact hpart hnaming
  · cases hnaming
  · cases hnaming
  · cases v with
    | text s => exact hnaming
    | _ => cases hnaming

/-- A value that can be looked up and names nobody who is stored is not known. -/
private theorem perform_knows (hready : w.store.condition = .ready)
    (hlookup : naming v = .nobody ∨ ∃ userId, naming v = .id userId)
    (hunknown : ¬Names w.store.users v) : (knows v).perform w = (.ok false, w) := by
  unfold knows
  simp only
  rw [perform_bind_of_ok (perform_query_eq_ok.mpr ⟨hready, rfl, rfl⟩)]
  -- A value that names nobody is not even looked up.
  rcases hlookup with hnobody | ⟨userId, hid⟩
  · rw [hnobody]
    rfl
  · have hnone : (w.store.user? userId).isSome = false := by
      rw [← Bool.not_eq_true, Store.isSome_user?]
      rintro ⟨u, hu, rfl⟩
      exact hunknown ⟨u, hu, hid⟩
    rw [hid]
    show (pure (w.store.user? userId).isSome : Service Bool).perform w = (.ok false, w)
    rw [hnone]
    rfl

end Directory

namespace Http

namespace Route

variable {q : Inputs} {r : Route} {op : Operation} {c : Command}

/-- What is read of a new node is no patch. -/
private theorem not_gates_of_readNewNode {p : Request.Payload}
    (h : readRecord readNewNode p = .ok c)
    {nodeId : String} {v : Value} : ¬c.Gates nodeId v := by
  obtain ⟨fs, -, hread⟩ := readRecord_eq_ok.mp h
  simp only [readNewNode, Checked.seq_eq_ok, Checked.map_eq_ok] at hread
  obtain ⟨_, _, ⟨_, _, ⟨_, _, ⟨_, -, rfl⟩, -, rfl⟩, -, rfl⟩, -, rfl⟩ := hread
  rintro ⟨patch, hpatch, -⟩
  cases hpatch

/-- What is read of a connection is no patch. -/
private theorem not_gates_of_readConnection {p : Request.Payload}
    (h : readRecord readConnection p = .ok c)
    {nodeId : String} {v : Value} : ¬c.Gates nodeId v := by
  obtain ⟨fs, -, hread⟩ := readRecord_eq_ok.mp h
  simp only [readConnection, Checked.seq_eq_ok, Checked.map_eq_ok] at hread
  obtain ⟨_, _, ⟨_, _, ⟨_, -, rfl⟩, -, rfl⟩, -, rfl⟩ := hread
  rintro ⟨patch, hpatch, -⟩
  cases hpatch

namespace Orders

/-- No route saves a workflow unchecked. -/
theorem checksWorkflows (h : r.Orders q op) : op.checksWorkflows = true := by
  cases h <;> rfl

/-- The workflows that are handed over were read. -/
theorem accepted (h : r.Orders q op) {d : Document} (hd : d ∈ op.givenWorkflows) :
    d.Accepted := by
  cases h with
  | createApp hread =>
    obtain ⟨fs, -, hread⟩ := readRecord_eq_ok.mp hread
    simp only [readFounding, Checked.seq_eq_ok, Checked.map_eq_ok] at hread
    -- The fields of a new app are read one by one; the workflow is the last, and may be left out.
    obtain ⟨_, w, ⟨_, _, ⟨_, _, ⟨_, -, rfl⟩, -, rfl⟩, -, rfl⟩, hworkflow, rfl⟩ := hread
    obtain rfl : w = some d := Option.mem_toList.mp hd
    rcases Fields.optional_eq_ok.mp hworkflow with ⟨v, -, hv⟩ | ⟨-, hnone⟩
    · exact Reader.exists_of_nullable hv
    · cases hnone
  | replaceWorkflow hread =>
    obtain rfl := List.mem_singleton.mp hd
    obtain ⟨fs, -, hfs⟩ := readRecord_eq_ok.mp hread
    exact ⟨.object fs, Reader.record_eq_ok.mpr ⟨fs, rfl, hfs⟩⟩
  | _ => cases hd

/-- Only a patch that the check of its route was passed with gates a node. -/
theorem names (h : r.Orders q op) {s : Store} (hpermits : r.Permits q s) {id : Option String}
    (hop : op = .edit id c) {nodeId : String} {v : Value} (hgates : c.Gates nodeId v)
    (hv : v.truthy = true) : Directory.Names s.users v := by
  cases h with
  | addNode hread =>
    cases hop
    exact absurd hgates (not_gates_of_readNewNode hread)
  | connect hread =>
    cases hop
    exact absurd hgates (not_gates_of_readConnection hread)
  | updateNode hread =>
    cases hop
    obtain ⟨_, hpatch, hassignee⟩ := hgates
    cases hpatch
    exact hpermits _ v hread hassignee hv
  | _ =>
    -- No other command is a patch, and no other operation is an edit.
    cases hop <;> obtain ⟨patch, hpatch, -⟩ := hgates <;> cases hpatch

end Orders

/-- A route that changes the directory orders nothing else. -/
private theorem Orders.onApps_of_managesUsers (h : r.Orders q op) (hr : r.managesUsers = true) :
    op.onApps = false := by
  cases h <;> first | rfl | cases hr

/-- A patch with an assignee who is not known is refused, and nothing is done. -/
private theorem perform_changedNode_of_unknown {appId nodeId : String} {patch : Fields} {v : Value}
    (hready : w.store.condition = .ready) (hassignee : patch.get? "assignee_id" = some v)
    (hv : v.truthy = true)
    (hlookup : Directory.naming v = .nobody ∨ ∃ userId, Directory.naming v = .id userId)
    (hunknown : ¬Directory.Names w.store.users v) :
    (changedNode appId nodeId patch).perform w
      = (.error (.refused (.unknownNodeAssignee nodeId v)), w) := by
  unfold changedNode
  simp only [hassignee, Option.getD_some, hv, ↓reduceIte]
  rw [perform_bind_of_ok (Directory.perform_knows hready hlookup hunknown)]
  rfl

/-- What a route orders gates only those nodes anew which it hands over so, or for which the check
of the route was passed. -/
theorem Orders.keepsGates (h : r.Orders q op) (hpermits : r.Permits q w.store)
    (hw : w.store.EachWorkflow Document.Trimmed)
    (hnames : ∀ appId nodeId v, Directory.Names w.store.users v → new appId nodeId v)
    (hgiven : ∀ appId d, op.HandsOver appId d → ∀ nodeId v, d.Gates nodeId v →
      new appId nodeId v) : w.KeepsGates new (w.after op) := by
  -- An edit gates within its app what the check of its route lets through; all else is handed over.
  by_cases hedit : ∃ id c, op = .edit id c
  · obtain ⟨id, c, rfl⟩ := hedit
    rw [World.after_eq rfl]
    refine Apps.edit_keepsGates hw id c fun appId nodeId v hgates hv => ?_
    exact hnames appId nodeId _ (h.names hpermits rfl hgates hv).portable
  · rw [not_exists] at hedit
    refine op.keepsGates h.checksWorkflows (fun id c hop => hedit id ⟨c, hop⟩) ?_ w
    exact fun appId d hd => ⟨h.accepted hd.mem_givenWorkflows, hgiven appId d hd⟩

/-- Ids of nodes stay trimmed, whatever a route orders. -/
theorem Orders.keepsTrimmed (h : r.Orders q op) :
    op.service.Leads (World.KeepsEach Document.Trimmed) := by
  refine op.keepsEach Document.lasting_trimmed (fun _ => Seed.trimmed_defaultWorkflow)
    h.checksWorkflows fun d hd _ => ?_
  exact (h.accepted hd).sound.id_trimmed

end Route

/-! ## Requests -/

/-- A request hands a workflow over to an app, to be taken over as it is. -/
inductive Request.HandsOver (q : Request) : String → Document → Prop where
  /-- An app is to be created with the workflow, under an id that is drawn. -/
  | create {payload : Request.Payload} {o : Apps.Founding} {appId : String} {d : Document}
      (hroute : q.route? = some .createApp) (hpayload : q.payload = .ok payload)
      (hread : readRecord readFounding payload = .ok o) (hd : o.workflow = some d) :
      HandsOver q appId d
  /-- The workflow is to replace the one of an app. -/
  | replace {payload : Request.Payload} {appId : String} {d : Document}
      (hroute : q.route? = some (.replaceWorkflow appId)) (hpayload : q.payload = .ok payload)
      (hread : readRecord Document.readFields payload = .ok d) : HandsOver q appId d

/-- The request hands over what its route orders to be taken over. -/
private theorem Route.Orders.handsOver {q : Request} {r : Route} {op : Operation}
    {payload : Request.Payload}
    (h : r.Orders (q.inputs payload) op) (hroute : q.route? = some r)
    (hpayload : (if r.readsBody then q.payload else .ok .absent) = .ok payload) {appId : String}
    {d : Document} (hgiven : op.HandsOver appId d) : q.HandsOver appId d := by
  cases hgiven with
  | create hd =>
    cases h with
    | createApp hread => exact .create hroute hpayload hread hd
  | replace =>
    cases h with
    | replaceWorkflow hread => exact .replace hroute hpayload hread

/-! ## Servers -/

namespace Server

variable {s : Server} {q : Request}

/-- In every server that requests lead to, the ids of stored nodes are trimmed. -/
theorem Reachable.trimmed (hs : s.Reachable) : s.world.store.EachWorkflow Document.Trimmed := by
  refine hs.store_induction (fun r hr => absurd hr List.not_mem_nil) (fun op hop => ?_)
    fun s t q hs => ?_
  · -- A store is filled with checked workflows, and with none that is given.
    have hchecks : op.checksWorkflows = true ∧ op.givenWorkflows = [] := by
      simp only [fillings, List.mem_cons, List.not_mem_nil, or_false] at hop
      rcases hop with rfl | rfl | rfl <;> exact ⟨rfl, rfl⟩
    refine op.keepsEach Document.lasting_trimmed (fun _ => Seed.trimmed_defaultWorkflow)
      hchecks.1 ?_
    rw [hchecks.2]
    exact fun d hd => absurd hd List.not_mem_nil
  · have hseq := World.sequential_keepsEach Document.Trimmed
    have hkeeps : s.world.KeepsEach Document.Trimmed (s.answer t q).2.world := by
      refine answer_leads hseq (fun r _ m hserves => ?_) t
      obtain ⟨payload, -, hserve⟩ := hserves
      exact Route.serve_leads hseq hserve fun op w horders _ => horders.keepsTrimmed w
    exact hkeeps hs

/-- A request for the directory gates nothing. -/
private theorem gates_of_managesUsers {appId nodeId : String} {v : Value} (t : Stopwatch)
    (hmanages : ∀ r, q.route? = some r → r.managesUsers = true) (hv : v.truthy = true)
    (hafter : (s.answer t q).2.world.store.Gates appId nodeId v) :
    s.world.store.Gates appId nodeId v := by
  have hseq := World.sequential_keepsGates fun _ _ _ => False
  have hkeeps : s.world.KeepsGates (fun _ _ _ => False) (s.answer t q).2.world := by
    refine answer_leads hseq (fun r hroute m hserves => ?_) t
    obtain ⟨payload, -, hserve⟩ := hserves
    refine Route.serve_leads hseq hserve fun op w horders _ => ?_
    exact (op.sparesApps (horders.onApps_of_managesUsers (hmanages r hroute)) w).keepsGates
  exact (hkeeps appId nodeId v hv hafter).resolve_right id

/-- Any other request gates a step anew only to a user who is stored, or as in a workflow that it
hands over, and leaves the users alone. -/
theorem answer_keepsGates (ht : s.world.store.EachWorkflow Document.Trimmed) (t : Stopwatch)
    (q : Request) (hspares : ∀ r, q.route? = some r → r.managesUsers = false) :
    (s.answer t q).2.world.store.users = s.world.store.users ∧
      s.world.KeepsGates (fun appId nodeId v => Directory.Names s.world.store.users v ∨
        ∃ d, q.HandsOver appId d ∧ d.Gates nodeId v) (s.answer t q).2.world := by
  -- The steps on the way keep the users, among whom the assignees are looked for.
  let Steady (w : World) : Prop :=
    w.store.users = s.world.store.users ∧ w.store.EachWorkflow Document.Trimmed
  have hsteady {w w' : World} (h : w.Becomes w') (hw : Steady w) : Steady w' := by
    unfold Steady
    rwa [h.store_eq]
  have hseq := (World.sequential_keepsGates fun appId nodeId v =>
    Directory.Names s.world.store.users v ∨
      ∃ d, q.HandsOver appId d ∧ d.Gates nodeId v).within hsteady
  have hleads := answer_leads (s := s) (q := q) hseq (fun r hroute m hserves => by
    obtain ⟨payload, hpayload, hserve⟩ := hserves
    refine Route.serve_leads hseq hserve fun op w horders hpermits hw => ?_
    obtain ⟨husers, htrimmed⟩ := hw
    -- The operation of such a route leaves the users alone.
    have hkept := op.sparesUsers (horders.onUsers_eq.trans (hspares r hroute)) w
    refine ⟨⟨hkept.users_eq.trans husers, horders.keepsTrimmed w htrimmed⟩, ?_⟩
    refine horders.keepsGates hpermits htrimmed ?_ ?_
    · intro appId nodeId v hnames
      rw [husers] at hnames
      exact .inl hnames
    · intro appId d hgiven nodeId v hgates
      exact .inr ⟨d, horders.handsOver hroute hpayload hgiven, hgates⟩) t
  obtain ⟨⟨husers, -⟩, hkeeps⟩ := hleads ⟨rfl, ht⟩
  exact ⟨husers, hkeeps⟩

/-- After any request, a step of a stored workflow that is gated to somebody to whom it was not
gated before is gated to a user who is stored, or else the request handed over a workflow in which
it is gated so. A patch that would gate a node to somebody who is not stored is refused. -/
theorem Reachable.gates_known (hs : s.Reachable) (t : Stopwatch) (q : Request) :
    (∀ appId nodeId v, v.truthy = true →
      (s.answer t q).2.world.store.Gates appId nodeId v →
      ¬s.world.store.Gates appId nodeId v →
      Directory.Names (s.answer t q).2.world.store.users v ∨
        ∃ d, q.HandsOver appId d ∧ d.Gates nodeId v) ∧
    ∀ appId nodeId payload patch v, q.route? = some (.updateNode appId nodeId) →
      q.payload = .ok payload → readFields payload = .ok patch →
      patch.get? "assignee_id" = some v → v.truthy = true →
      (Directory.naming v = .nobody ∨ ∃ userId, Directory.naming v = .id userId) →
      ¬Directory.Names s.world.store.users v →
      (s.answer t q).1.response = .refusal (.unknownNodeAssignee nodeId v) ∧
        (s.answer t q).1.response.status = 400 ∧
        (s.answer t q).2.world.store = s.world.store := by
  refine ⟨fun appId nodeId v hv hafter hnew => ?_,
    fun appId nodeId payload patch v hroute hpayload hread hassignee hv hlookup hunknown => ?_⟩
  · -- What is gated anew by a request that spares the users is gated to a stored one.
    by_cases hspares : ∀ r, q.route? = some r → r.managesUsers = false
    · obtain ⟨husers, hkeeps⟩ := answer_keepsGates hs.trimmed t q hspares
      rw [husers]
      exact (hkeeps appId nodeId v hv hafter).resolve_left hnew
    · -- Requests for the directory gate nothing at all.
      obtain ⟨r, hmanages⟩ := not_forall.mp hspares
      obtain ⟨hroute, hmanages⟩ := Classical.not_imp.mp hmanages
      refine absurd (gates_of_managesUsers t (fun r' hroute' => ?_) hv hafter) hnew
      rw [hroute, Option.some.injEq] at hroute'
      rw [← hroute']
      exact Bool.of_not_eq_false hmanages
  · obtain ⟨hstarted, hready⟩ := hs.ready
    -- The service of the route is known, so that its refusal is the answer.
    have hserves : s.Serves q (.updateNode appId nodeId)
        (Route.changedNode appId nodeId patch) :=
      ⟨payload, hpayload, Checked.map_eq_ok'.mpr ⟨patch, hread, rfl⟩⟩
    have hanswer := answer_of_refused (e := .unknownNodeAssignee nodeId v) hstarted hroute hserves
      (fun w hstore => ⟨w, ?_, rfl⟩) t
    · rw [hanswer.1, hanswer.2]
      exact ⟨rfl, by simp [Response.refusal, ErrorKind.status], rfl⟩
    · rw [← hstore] at hready hunknown
      exact Route.perform_changedNode_of_unknown hready hassignee hv hlookup hunknown

end Server

end Http

/-! ## Steps that are assigned and handed over -/

namespace Sample

open Http

/-- What somebody sends to have a step of the first app assigned. -/
def assignment (userId : String) : Request where
  method := "PATCH"
  target := { path := "/api/v1/apps/app-1/workflow/nodes/triage" }
  body := Json.write (.object [("assignee_id", .text userId)])

/-- A workflow with a task for somebody. -/
def errand (userId : String) : Fields :=
  [("nodes", .list [
      .object [("id", .text "start"), ("type", .text "Start"), ("label", .text "Start")],
      .object [("id", .text "triage"), ("type", .text "Task"), ("label", .text "Triage"),
        ("assignee_id", .text userId)]]),
    ("edges", .list [
      .object [("id", .text "e"), ("source", .text "start"), ("target", .text "triage")]])]

/-- What somebody sends to have the workflow of the first app replaced by such an errand. -/
def handover (userId : String) : Request where
  method := "PUT"
  target := { path := "/api/v1/apps/app-1/workflow" }
  body := Json.write (.object (errand userId))

theorem route?_assignment (userId : String) :
    (assignment userId).route? = some (.updateNode "app-1" "triage") := by
  simp only [assignment, Request.route?]
  decide +kernel

theorem route?_handover (userId : String) :
    (handover userId).route? = some (.replaceWorkflow "app-1") := by
  simp only [handover, Request.route?]
  decide +kernel

/-- The body of the request that assigns the task is read as it is meant. -/
theorem payload_assignment {userId : String} (h : Json.isVerbatim userId = true) :
    (assignment userId).payload = .ok (.value (.object [("assignee_id", .text userId)])) := by
  refine Request.payload_eq rfl ?_ rfl
  have hname : Json.isVerbatim "assignee_id" = true := by decide
  simp [Json.haveSimple, Json.isSimple, Fields.names, hname, h]

/-- Whether a request succeeds and the step is gated to somebody afterwards. -/
def takesEffect (userId : String) (response : Response) (s : Store) : Bool :=
  response.status == 200 && decide (s.Gates "app-1" "triage" (.text userId))

/-- What is found of the service of a route in the sample is found of the answer. -/
theorem answer_passes {q : Request} {r : Route} {fs : Fields} (hroute : q.route? = some r)
    (hreads : r.readsBody = true) (hpayload : q.payload = .ok (.value (.object fs)))
    (hquery : q.target.query = []) (test : Response → Store → Bool)
    (htest : (match r.serve office.settings (q.inputs (.value (.object fs))) with
      | .ok m => match m.perform office.world with
        | (.ok response, w) => test response w.store
        | (.error _, _) => false
      | .bad _ => false) = true) :
    test (office.answer still q).1.response (office.answer still q).2.world.store = true := by
  -- The test passes only if the service is made and performed.
  split at htest
  · next m hm =>
    split at htest
    · next response w hperform =>
      have hserves : office.Serves q r m := ⟨_, by rw [hreads]; exact hpayload, hm⟩
      obtain ⟨hresponse, hstore⟩ := Server.answer_of_ok reachable_office.ready.1 hroute hserves
        hquery hperform still
      rw [hresponse, hstore]
      exact htest
    · cases htest
  · cases htest

private theorem takesEffect_assignment :
    takesEffect "user-2" (office.answer still (assignment "user-2")).1.response
      (office.answer still (assignment "user-2")).2.world.store = true :=
  answer_passes (route?_assignment _) rfl (payload_assignment (by decide)) rfl _
    (by decide +kernel)

private theorem takesEffect_handover :
    takesEffect "ghost" (office.answer still (handover "ghost")).1.response
      (office.answer still (handover "ghost")).2.world.store = true :=
  answer_passes (route?_handover _) rfl (Request.payload_eq rfl (by decide +kernel) rfl) rfl _
    (by decide +kernel)

end Sample

/-- A step of the sample is assigned to one of the default users; an assignment to a user whom
nobody knows is refused. -/
theorem Http.Server.Reachable.gates_known_sample :
    ((Sample.office.answer Sample.still (Sample.assignment "user-2")).2.world.store.Gates
        "app-1" "triage" (.text "user-2") ∧
      ¬Sample.office.world.store.Gates "app-1" "triage" (.text "user-2") ∧
      Directory.Names
        (Sample.office.answer Sample.still (Sample.assignment "user-2")).2.world.store.users
        (.text "user-2")) ∧
    (Sample.office.answer Sample.still (Sample.assignment "ghost")).1.response =
      .refusal (.unknownNodeAssignee "triage" (.text "ghost")) ∧
    (Sample.office.answer Sample.still (Sample.assignment "ghost")).1.response.status = 400 ∧
    (Sample.office.answer Sample.still (Sample.assignment "ghost")).2.world.store =
      Sample.office.world.store := by
  obtain ⟨hnames, -⟩ :=
    gates_known Sample.reachable_office Sample.still (Sample.assignment "user-2")
  obtain ⟨-, hrefused⟩ :=
    gates_known Sample.reachable_office Sample.still (Sample.assignment "ghost")
  -- That the assignment takes effect is decided; that the new assignee is stored is the theorem.
  have heffect := Sample.takesEffect_assignment
  rw [Sample.takesEffect, Bool.and_eq_true, decide_eq_true_eq] at heffect
  have hnew : ¬Sample.office.world.store.Gates "app-1" "triage" (.text "user-2") := by
    decide +kernel
  refine ⟨⟨heffect.2, hnew, ?_⟩, ?_⟩
  · rcases hnames _ _ _ rfl heffect.2 hnew with hnames | ⟨d, hhands, -⟩
    · exact hnames
    · -- The request assigns a step, so that it hands over no workflow.
      cases hhands with
      | create hroute => cases (Sample.route?_assignment _).symm.trans hroute
      | replace hroute => cases (Sample.route?_assignment _).symm.trans hroute
  · refine hrefused _ _ _ _ _ (Sample.route?_assignment _) (Sample.payload_assignment (by decide))
      rfl rfl rfl (.inr ⟨"ghost", rfl⟩) ?_
    decide +kernel

/-- A workflow that is handed over gates a step to a user whom nobody knows, and is taken over. -/
theorem Http.Server.gates_unknown :
    Sample.office.Reachable ∧
    (Sample.office.answer Sample.still (Sample.handover "ghost")).1.response.status = 200 ∧
    (Sample.office.answer Sample.still (Sample.handover "ghost")).2.world.store.Gates
      "app-1" "triage" (.text "ghost") ∧
    ¬Sample.office.world.store.Gates "app-1" "triage" (.text "ghost") ∧
    ¬Directory.Names
      (Sample.office.answer Sample.still (Sample.handover "ghost")).2.world.store.users
      (.text "ghost") := by
  have heffect := Sample.takesEffect_handover
  rw [Sample.takesEffect, Bool.and_eq_true, beq_iff_eq, decide_eq_true_eq] at heffect
  obtain ⟨husers, -⟩ := answer_keepsGates Sample.reachable_office.trimmed Sample.still
    (Sample.handover "ghost") fun r hroute => by
      cases (Sample.route?_handover _).symm.trans hroute
      rfl
  refine ⟨Sample.reachable_office, heffect.1, heffect.2, by decide +kernel, ?_⟩
  -- Nobody has come in since, so that the user is as unknown as before.
  rw [husers]
  decide +kernel

end CaseFlow
