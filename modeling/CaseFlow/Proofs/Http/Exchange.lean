import CaseFlow.Http.Server
import CaseFlow.Proofs.Service.Users

/-!
# What requests do to a store

A request that has a route is carried out as the service of that route; around it, the server only
reads the body and writes to the log. Neither touches the store.

* `Route.serve_reads`: routes that only look leave the store as it is.
* `Server.answer_leads`: wherever the service of a route leads, the answer to the request leads,
  too; and a request without a route changes nothing.
* `Server.answer_of_refused`, `Server.answer_of_ok`: a refusal by the service becomes the response,
  and so does what the service returns. In both cases the store is the one that the service leaves.

So what is to be known of requests is proved of services, and of what the routes order of them.
-/

namespace CaseFlow.Http

open Service

variable {s : Server} {q : Request} {r : Route} {R : World → World → Prop} {w : World}

/-- The route of a request, if its path has one for its method. -/
def Request.route? (q : Request) : Option Route :=
  ((Route.ofTarget q.target).find? (·.1 == q.method)).map (·.2)

/-- What the service of a route is given by a request with a certain body. -/
def Request.inputs (q : Request) (payload : Request.Payload) : Route.Inputs :=
  { actingUser := q.actingUser, payload, target := q.target }

/-- The service of a route that a request asks for, once its body is read. -/
def Server.Serves (s : Server) (q : Request) (r : Route) (m : Service Response) : Prop :=
  ∃ payload, (if r.readsBody then q.payload else .ok .absent) = .ok payload ∧
    r.serve s.settings (q.inputs payload) = .ok m

/-! ## Routes that only look -/

namespace Route

variable {settings : Settings} {inputs : Inputs} {m : Service Response}

/-- Whether a route only looks at what is stored. -/
def looks : Route → Bool
  | root | health | listUsers | listApps | app _ | workflow _ | validateWorkflow _ | layout _
  | board _ | appCases _ | casesByStatus _ | awaitingMe _ | recentCases | case _ | stepForm _
  | stepProgress _ => true
  | _ => false

private theorem awaiting_reads (appId : String) (userId : Option String) :
    (awaiting appId userId).Reads := by
  unfold awaiting
  split
  · exact .pure _
  · exact .bind Apps.workflow_reads fun _ => .bind Cases.list_reads fun _ => .pure _

/-- The handler of a route that only looks reads the store and writes nothing. -/
theorem serve_reads (hr : r.looks = true) (h : r.serve settings inputs = .ok m) : m.Reads := by
  -- The body of the service is a sequence of look-ups, whichever of these routes it is.
  cases r with
  | root => cases h; exact .pure _
  | health => cases h; exact .bind (.bind (fun w => .refl w) fun _ => .pure _) fun _ => .pure _
  | listUsers => cases h; exact .bind Directory.list_reads fun _ => .pure _
  | listApps => cases h; exact .bind Apps.list_reads fun _ => .pure _
  | app id => cases h; exact .bind Apps.find_reads fun _ => .pure _
  | workflow id => cases h; exact .bind Apps.workflow_reads fun _ => .pure _
  | validateWorkflow id =>
    cases h
    exact .bind Directory.list_reads fun _ => .bind Apps.validateWorkflow_reads fun _ => .pure _
  | layout id => cases h; exact .bind Apps.workflow_reads fun _ => .pure _
  | board id =>
    cases h
    exact .bind Apps.workflow_reads fun _ => .bind Cases.list_reads fun _ => .pure _
  | appCases id =>
    cases h
    exact .bind Apps.find_reads fun _ => .bind Cases.list_reads fun _ => .pure _
  | casesByStatus id =>
    cases h
    exact .bind Apps.find_reads fun _ => .bind Cases.list_reads fun _ => .pure _
  | awaitingMe id => cases h; exact awaiting_reads id _
  | recentCases =>
    obtain ⟨n, -, rfl⟩ := Checked.map_eq_ok'.mp h
    exact .bind Cases.list_reads fun _ => .bind (.settle _) fun _ => .pure _
  | case id => cases h; exact .bind Cases.find_reads fun _ => .pure _
  | stepForm id => cases h; exact .bind Cases.stepForm_reads fun _ => .pure _
  | stepProgress id => cases h; exact .bind Cases.stepProgress_reads fun _ => .pure _
  | _ => cases hr

end Route

/-! ## Where requests lead -/

namespace Server

/-- A request with a route is responded to by carrying that out. -/
theorem respond_of_route (h : q.route? = some r) : s.respond q = s.carryOut q r := by
  obtain ⟨p, hfound, rfl⟩ := Option.map_eq_some_iff.mp h
  unfold respond
  split
  · next hnone =>
    rw [hnone] at hfound
    cases hfound
  · rw [hfound]

/-- A request without one is responded to as it is. -/
private theorem respond_of_none (h : q.route? = none) : (s.respond q).Reads := by
  unfold respond
  split
  · split <;> exact .pure _
  · rw [Request.route?, Option.map_eq_none_iff] at h
    rw [h]
    exact .pure _

/-- Carrying out a route leads where its service does. -/
private theorem carryOut_leads (hR : World.Sequential R) (h : ∀ m, s.Serves q r m → m.Leads R) :
    (s.carryOut q r).Leads R := by
  unfold carryOut
  simp only
  -- Nothing is carried out where the body cannot be read, the services were not started, or the
  -- fields are not what the route wants.
  split
  · exact (Reads.pure _).leads hR
  · exact (Reads.pure _).leads hR
  · next payload hpayload =>
    split
    · exact (Reads.pure _).leads hR
    · split
      · exact (Reads.pure _).leads hR
      · next m hm =>
        refine .bind hR (h m ⟨payload, hpayload, hm⟩).attempt fun outcome => ?_
        split
        · exact (Reads.pure _).leads hR
        · exact (Reads.bind (.note _ _ _) fun _ => .pure _).leads hR
        · exact (Reads.throw _).leads hR

/-- A response leads where the service of the route does, if there is a route. -/
private theorem respond_leads (hR : World.Sequential R)
    (h : ∀ r, q.route? = some r → ∀ m, s.Serves q r m → m.Leads R) : (s.respond q).Leads R := by
  cases hroute : q.route? with
  | none => exact (respond_of_none hroute).leads hR
  | some r =>
    rw [respond_of_route hroute]
    exact carryOut_leads hR (h r hroute)

/-- The response in the end: the one that was found, or one that tells of a failure. -/
def settled (id : String) : Except Failure Response → Response
  | .ok response => response
  | .error f => .unexpected f.kind id

/-- A request is answered with the response to it, whatever is written to the log before and
after. Before, nothing is written about a request without a query. -/
private theorem perform_exchange (s : Server) (t : Stopwatch) (id : String) (q : Request)
    (w : World) :
    ∃ before after timed, (q.target.query = [] → before = w.notes) ∧ (s.exchange t id q).perform w =
      let ran := (s.respond q).perform { w with notes := before }
      (.ok ⟨settled id ran.1, id, timed⟩, { ran.2 with notes := after }) := by
  unfold exchange
  -- `jp` is all that follows the note about the query, which may be left out.
  extract_lets monitored jp
  have hjp (w₀ : World) : ∃ after timed, (jp ()).perform w₀ =
      let ran := (s.respond q).perform w₀
      (.ok ⟨settled id ran.1, id, timed⟩, { ran.2 with notes := after }) := by
    simp only [jp]
    rw [perform_bind_of_ok (perform_attempt _ w₀)]
    rcases (s.respond q).perform w₀ with ⟨f | response, w₁⟩
    · exact ⟨_, _, rfl⟩
    · dsimp only
      split <;> exact ⟨_, _, rfl⟩
  -- With a query there is a note before, and without one none.
  split
  · next hquery =>
    rw [perform_bind_of_ok (perform_note _ _ _ w)]
    obtain ⟨after, timed, hperform⟩ := hjp _
    refine ⟨_, after, timed, fun hnone => ?_, hperform⟩
    simp [hnone] at hquery
  · obtain ⟨after, timed, hperform⟩ := hjp w
    exact ⟨w.notes, after, timed, fun _ => rfl, hperform⟩

/-- An id is drawn for a request from a source of its own. -/
private theorem identify_eq (s : Server) (q : Request) :
    ∃ id requestIds, s.identify q = (id, { s with requestIds }) := by
  unfold identify
  split
  · exact ⟨_, s.requestIds, rfl⟩
  · exact ⟨_, _, rfl⟩

/-- A request is answered with the response to it, and the server goes on with the world that this
leaves. -/
theorem answer_eq (s : Server) (t : Stopwatch) (q : Request) : ∃ before after id timed requestIds,
    (q.target.query = [] → before = s.world.notes) ∧
    let ran := (s.respond q).perform { s.world with notes := before }
    s.answer t q = (⟨settled id ran.1, id, timed⟩,
      { s with requestIds, world := { ran.2 with notes := after } }) := by
  obtain ⟨id, requestIds, hid⟩ := identify_eq s q
  obtain ⟨before, after, timed, hbefore, hexchange⟩ := perform_exchange s t id q s.world
  refine ⟨before, after, id, timed, requestIds, hbefore, ?_⟩
  -- The exchange has its id already and draws none.
  have hsame : ({ s with requestIds } : Server).exchange t id q = s.exchange t id q := rfl
  simp only [answer, hid, hsame, hexchange]

/-- The world after an answer is where the service of the route leads, if there is a route. -/
theorem answer_leads (hR : World.Sequential R)
    (h : ∀ r, q.route? = some r → ∀ m, s.Serves q r m → m.Leads R) (t : Stopwatch) :
    R s.world (s.answer t q).2.world := by
  obtain ⟨before, after, id, timed, requestIds, -, hanswer⟩ := answer_eq s t q
  rw [hanswer]
  -- Notes are written before and after, and the response is found in between.
  have hbefore : s.world.Becomes { s.world with notes := before } := ⟨rfl, fun h => h⟩
  refine hR.trans (hR.becomes hbefore) (hR.trans (respond_leads hR h _) (hR.becomes ?_))
  exact ⟨rfl, fun h => h⟩

/-- A service that has been started makes a refusal by the service of a route the response. -/
private theorem carryOut_of_refused {m : Service Response} {e : Error} {w' : World}
    (hstarted : s.started = true) (hserves : s.Serves q r m)
    (hrefused : m.perform w = (.error (.refused e), w')) :
    ∃ notes, (s.carryOut q r).perform w = (.ok (.refusal e), { w' with notes }) := by
  obtain ⟨payload, hpayload, hserve⟩ := hserves
  -- The service is attempted, so that its refusal is a value to respond with.
  have hattempt : (Service.attempt m).perform w = (.ok (.error (.refused e)), w') := by
    rw [perform_attempt, hrefused]
  unfold carryOut
  simp only [hpayload, hstarted, if_true]
  rw [Request.inputs] at hserve
  simp only [hserve]
  rw [perform_bind_of_ok hattempt]
  exact ⟨_, rfl⟩

/-- A refusal by the service of a route is the response, and the store is the one that the service
leaves. -/
theorem answer_of_refused {m : Service Response} {e : Error} (hstarted : s.started = true)
    (hroute : q.route? = some r) (hserves : s.Serves q r m)
    (hrefused : ∀ w : World, w.store = s.world.store →
      ∃ w', m.perform w = (.error (.refused e), w') ∧ w'.store = w.store) (t : Stopwatch) :
    (s.answer t q).1.response = .refusal e ∧ (s.answer t q).2.world.store = s.world.store := by
  obtain ⟨before, after, id, timed, requestIds, -, hanswer⟩ := answer_eq s t q
  obtain ⟨w', hperform, hstore⟩ := hrefused { s.world with notes := before } rfl
  obtain ⟨notes, hcarried⟩ := carryOut_of_refused hstarted hserves hperform
  rw [hanswer, respond_of_route hroute, hcarried]
  exact ⟨rfl, hstore⟩

/-- A service that has been started makes what the service of a route returns the response. -/
private theorem carryOut_of_ok {m : Service Response} {response : Response} {w' : World}
    (hstarted : s.started = true) (hserves : s.Serves q r m)
    (hm : m.perform w = (.ok response, w')) :
    (s.carryOut q r).perform w = (.ok response, w') := by
  obtain ⟨payload, hpayload, hserve⟩ := hserves
  have hattempt : (Service.attempt m).perform w = (.ok (.ok response), w') := by
    rw [perform_attempt, hm]
  unfold carryOut
  rw [Request.inputs] at hserve
  simp only [hpayload, hstarted, if_true, hserve]
  rw [perform_bind_of_ok hattempt]
  rfl

/-- What the service of a route returns is the response, and the store is the one that the service
leaves. -/
theorem answer_of_ok {m : Service Response} {response : Response} {w' : World}
    (hstarted : s.started = true) (hroute : q.route? = some r) (hserves : s.Serves q r m)
    (hquery : q.target.query = []) (hm : m.perform s.world = (.ok response, w'))
    (t : Stopwatch) :
    (s.answer t q).1.response = response ∧ (s.answer t q).2.world.store = w'.store := by
  obtain ⟨before, after, id, timed, requestIds, hbefore, hanswer⟩ := answer_eq s t q
  rw [hanswer, hbefore hquery, respond_of_route hroute, carryOut_of_ok hstarted hserves hm]
  exact ⟨rfl, rfl⟩

end Server

end CaseFlow.Http
