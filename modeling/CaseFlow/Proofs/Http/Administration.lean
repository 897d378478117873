import CaseFlow.Proofs.Error.Kind
import CaseFlow.Proofs.Http.Orders
import CaseFlow.Proofs.Service.History

/-!
# Who changes the directory of users

Three routes change the directory, and each of them asks for an admin before it does anything. All
others lead to services that spare the users. So the users of a server change only by a request of
somebody who was a stored admin before it, everybody else is refused, and since nobody may remove
themselves, whoever asks is still there afterwards (`Server.Reachable.users_by_admins`).

`World.Guards` says what a request of a given user may make of the users. It lasts over sequences of
services, each order of a route satisfies it, and so does the answer to any request
(`Server.answer_guards`). Servers are reached by requests and by restarts; what holds of an empty
store and lasts is carried along by `Server.Reachable.store_induction`.
-/

namespace CaseFlow

open Service

variable {w w₁ : World} {id : Option String} {s : Store}

/-! ## Admins -/

namespace Directory

/-- In a store that is ready, looking for a user succeeds in any case. -/
private theorem perform_resolve? (hready : w.store.condition = .ready) :
    ∃ found, (resolve? id).perform w = (.ok found, w) := by
  unfold resolve?
  split
  · exact ⟨none, rfl⟩
  · exact ⟨_, perform_bind_of_ok (perform_query_eq_ok.mpr ⟨hready, rfl, rfl⟩)⟩

/-- Who is no admin is refused before anything is done. -/
private theorem requireAdmin_of_not (hready : w.store.condition = .ready)
    (h : ¬w.store.HasAdmin id) :
    (requireAdmin id).perform w = (.error (.refused (.adminOnly id)), w) := by
  obtain ⟨found, hfound⟩ : ∃ found, (resolve? id).perform w = (.ok found, w) :=
    perform_resolve? hready
  rw [requireAdmin, perform_bind_of_ok hfound]
  cases found with
  | none => rfl
  | some u =>
    obtain ⟨hid, hstored⟩ := resolve?_eq_some hfound
    -- Whoever is found is stored under the id, so it has to be the role.
    have hmember : (u.role == .admin) = false := by
      rw [beq_eq_false_iff_ne]
      exact fun hadmin => h ⟨u, hid, hstored, hadmin⟩
    simp [hmember]

end Directory

/-! ## What a request may do to the users -/

/-- World `w'` is what may become of world `w` by a request of a user. -/
structure World.Guards (actor : Option String) (w w' : World) : Prop where
  /-- The users are changed by admins only. -/
  admin : w'.store.users ≠ w.store.users → w.store.HasAdmin actor
  /-- Whoever asks is not removed. -/
  actor_stays : ∀ userId, actor = some userId → (w.store.user? userId).isSome = true →
    (w'.store.user? userId).isSome = true
  /-- The store stays as usable as it was. -/
  condition_eq : w'.store.condition = w.store.condition

namespace World

variable {actor : Option String} {w' : World}

theorem SparesUsers.guards (h : w.SparesUsers w') : w.Guards actor w' where
  admin hne := absurd h.users_eq hne
  actor_stays userId _ hstored := by rwa [Store.user?, h.users_eq]
  condition_eq := h.condition_eq

theorem sequential_guards (actor : Option String) : Sequential (Guards actor) where
  becomes h := (sequential_sparesUsers.becomes h).guards
  trans {w w₁ w₂} h h₁ :=
    { admin := fun hne => by
        by_cases hsame : w₁.store.users = w.store.users
        · -- Whoever is an admin in between was one before.
          have hadmin := h₁.admin (hsame ▸ hne)
          unfold Store.HasAdmin Store.user? at hadmin ⊢
          rwa [hsame] at hadmin
        · exact h.admin hsame
      actor_stays := fun userId hid hstored =>
        h₁.actor_stays userId hid (h.actor_stays userId hid hstored)
      condition_eq := h₁.condition_eq.trans h.condition_eq }

/-- An admin may replace the users as long as they stay themselves. -/
theorem Enrols.guards {us : List User} (h : w.Enrols us w') (hadmin : w.store.HasAdmin actor)
    (hstays : ∀ u ∈ w.store.users, actor = some u.id → ∃ v ∈ us, v.id = u.id) :
    w.Guards actor w' where
  admin _ := hadmin
  actor_stays userId hid hstored := by
    obtain ⟨u, hu, rfl⟩ := Store.isSome_user?.mp hstored
    rw [h.store_eq]
    exact Store.isSome_user?.mpr (hstays u hu hid)
  condition_eq := by rw [h.store_eq]

end World

namespace Directory

variable {actor : Option String}

/-- An invitation by an admin guards the users. -/
private theorem invite_guards (hadmin : w.store.HasAdmin actor) (email : Option String)
    (role : Value)
    (name : Option String) :
    (invite email role name).Yields w fun _ w' => w.Guards actor w' :=
  (invite_yields email role name).mono fun _ _ h =>
    h.1.guards hadmin fun v hv _ => ⟨v, List.mem_append_left _ hv, rfl⟩

/-- A change of a user guards the users. -/
private theorem update_guards (hadmin : w.store.HasAdmin actor) (name : Option String)
    (role : Value) :
    (update id name role).Yields w fun _ w' => w.Guards actor w' := by
  refine (update_yields name role).mono fun u w' h => h.1.guards hadmin fun v hv _ => ?_
  -- A user who is changed keeps the id.
  refine ⟨if v.id == u.id then u else v, List.mem_map_of_mem hv, ?_⟩
  by_cases hid : v.id = u.id <;> simp [hid]

/-- A removal by an admin guards the users, since nobody removes themselves. -/
private theorem remove_guards (hadmin : w.store.HasAdmin actor) :
    (remove id actor).Yields w fun _ w' => w.Guards actor w' := by
  refine (remove_yields actor).mono fun found w' h => ?_
  cases found with
  | false => exact (World.sequential_guards actor).becomes h
  | true =>
    obtain ⟨userId, -, hother, henrols⟩ := h
    refine henrols.guards hadmin fun v hv hactor => ⟨v, List.mem_filter.mpr ⟨hv, ?_⟩, rfl⟩
    rw [bne_iff_ne]
    rintro rfl
    exact hother hactor

end Directory

/-! ## Routes -/

namespace Http

namespace Route

variable {settings : Settings} {q : Inputs} {r : Route} {m : Service Response}
  {p : String × Route} {path : List String}

/-- No route below an app changes the directory. -/
private theorem belowApp_managesUsers {appId : String} :
    ∀ p ∈ belowApp appId path, p.2.managesUsers = false := by
  unfold belowApp
  split <;> simp [managesUsers]

/-- The routes that change the directory are found at two paths. -/
private theorem atPath_managesUsers (h : p ∈ atPath path) (hp : p.2.managesUsers = true) :
    path = ["api", "v1", "users"] ∧ p = ("POST", inviteUser) ∨
      ∃ userId, path = ["api", "v1", "users", userId] ∧
        (p = ("PATCH", updateUser userId) ∨ p = ("DELETE", deleteUser userId)) := by
  have hother (ps : List (String × Route)) (hps : ∀ p ∈ ps, p.2.managesUsers = false) :
      p ∉ ps := fun h => by simp [hps p h] at hp
  unfold atPath at h
  -- The third path is that of all users and the fourth that of one; the sixth is below an app.
  split at h
  case h_3 =>
    obtain rfl | rfl : p = ("GET", listUsers) ∨ p = ("POST", inviteUser) := by simpa using h
    · cases hp
    · exact .inl ⟨rfl, rfl⟩
  case h_4 userId => exact .inr ⟨userId, rfl, by simpa using h⟩
  case h_6 => exact absurd h (hother _ belowApp_managesUsers)
  all_goals exact absurd h (hother _ (by simp [managesUsers]))

private theorem ofTarget_managesUsers {t : Target} (h : p ∈ ofTarget t)
    (hp : p.2.managesUsers = true) :
    p ∈ atPath t.segments ∧ "" ∉ t.segments := by
  unfold ofTarget at h
  split at h
  · obtain rfl : p = ("GET", root) := by simpa [atPath] using h
    cases hp
  · split at h
    · cases h
    · next hempty => exact ⟨h, by simpa using hempty⟩

/-- A route orders an operation on users exactly if it changes the directory. -/
theorem Orders.onUsers_eq {op : Operation} (h : r.Orders q op) : op.onUsers = r.managesUsers := by
  cases h <;> rfl

/-- The service of a route that is not about the directory spares the users. -/
private theorem serve_sparesUsers (hr : r.managesUsers = false) (h : r.serve settings q = .ok m) :
    m.Leads World.SparesUsers := by
  refine serve_leads World.sequential_sparesUsers h fun op w horders _ => ?_
  exact op.sparesUsers (horders.onUsers_eq.trans hr) w

/-- The service of any route guards the users. -/
private theorem serve_guards (h : r.serve settings q = .ok m) :
    m.Leads (World.Guards q.actingUser) := by
  have hseq := World.sequential_guards q.actingUser
  refine serve_leads hseq h fun op w horders hpermits => ?_
  by_cases husers : op.onUsers = false
  · exact (op.sparesUsers husers w).guards
  -- Only the routes that are permitted to admins order operations on users.
  cases horders with
  | inviteUser =>
    rw [World.after_eq rfl]
    exact (Directory.invite_guards hpermits _ _ _).leads_from hseq
  | updateUser =>
    rw [World.after_eq rfl]
    exact (Directory.update_guards hpermits _ _).leads_from hseq
  | deleteUser =>
    rw [World.after_eq rfl]
    exact (Directory.remove_guards hpermits).leads_from hseq
  | _ => exact absurd rfl husers

/-- The service of a route for the directory asks for an admin before it does anything. -/
private theorem serve_eq_requireAdmin (hr : r.managesUsers = true)
    (h : r.serve settings q = .ok m) :
    ∃ m', m = (Directory.requireAdmin q.actingUser >>= fun _ => m') := by
  -- Three routes manage users, each of which is made with the check at its head.
  cases r with
  | inviteUser =>
    obtain ⟨b, -, rfl⟩ := Checked.map_eq_ok'.mp h
    exact ⟨_, rfl⟩
  | updateUser userId =>
    obtain ⟨b, -, rfl⟩ := Checked.map_eq_ok'.mp h
    exact ⟨_, rfl⟩
  | deleteUser userId =>
    cases h
    exact ⟨_, rfl⟩
  | _ => cases hr

end Route

/-! ## Requests for the directory -/

/-- A request is made for a route of the directory, by its method and the components of its
path. -/
inductive Request.ManagesUsers (q : Request) : Route → Prop where
  /-- A user is to be invited. -/
  | invite (hmethod : q.method = "POST") (hpath : q.target.segments = ["api", "v1", "users"]) :
      ManagesUsers q .inviteUser
  /-- A user is to be changed. -/
  | update {userId : String} (hmethod : q.method = "PATCH")
      (hpath : q.target.segments = ["api", "v1", "users", userId]) (hid : userId ≠ "") :
      ManagesUsers q (.updateUser userId)
  /-- A user is to be removed. -/
  | delete {userId : String} (hmethod : q.method = "DELETE")
      (hpath : q.target.segments = ["api", "v1", "users", userId]) (hid : userId ≠ "") :
      ManagesUsers q (.deleteUser userId)

/-- The body of a request is what the route of the directory wants, if it wants any. -/
def Request.WellFormed (q : Request) : Route → Prop
  | .inviteUser => ∃ payload b, q.payload = .ok payload ∧ readRecord Invitation.read payload = .ok b
  | .updateUser _ =>
    ∃ payload b, q.payload = .ok payload ∧ readRecord UserChange.read payload = .ok b
  | _ => True

namespace Request

variable {q : Request} {r : Route}

private theorem ManagesUsers.route?_eq (h : q.ManagesUsers r) : q.route? = some r := by
  cases h with
  | invite hmethod hpath => simp [route?, Route.ofTarget, Route.atPath, hmethod, hpath]
  | update hmethod hpath hid =>
    simp [route?, Route.ofTarget, Route.atPath, hmethod, hpath, hid.symm]
  | delete hmethod hpath hid =>
    simp [route?, Route.ofTarget, Route.atPath, hmethod, hpath, hid.symm]

/-- The route of a request that manages users is one of those that need an admin. -/
theorem ManagesUsers.managesUsers (h : q.ManagesUsers r) : r.managesUsers = true := by
  cases h <;> rfl

/-- No other request has a route that changes the directory. -/
private theorem managesUsers_of_route? (h : q.route? = some r) (hr : r.managesUsers = true) :
    q.ManagesUsers r := by
  obtain ⟨p, hfound, rfl⟩ := Option.map_eq_some_iff.mp h
  have hmethod : p.1 = q.method := by simpa using List.find?_some hfound
  obtain ⟨hp, hempty⟩ := Route.ofTarget_managesUsers (List.mem_of_find?_eq_some hfound) hr
  obtain ⟨hpath, rfl⟩ | ⟨userId, hpath, rfl | rfl⟩ := Route.atPath_managesUsers hp hr
  · exact .invite hmethod.symm hpath
  · exact .update hmethod.symm hpath fun hid => hempty (by simp [hpath, hid])
  · exact .delete hmethod.symm hpath fun hid => hempty (by simp [hpath, hid])

/-- A request for the directory that is well-formed is served. -/
private theorem ManagesUsers.serves (h : q.ManagesUsers r) (hq : q.WellFormed r) (s : Server) :
    ∃ m, s.Serves q r m := by
  cases h with
  | invite =>
    obtain ⟨payload, b, hpayload, hread⟩ := hq
    exact ⟨_, payload, hpayload, by rw [Route.serve, inputs, hread]; rfl⟩
  | update =>
    obtain ⟨payload, b, hpayload, hread⟩ := hq
    exact ⟨_, payload, hpayload, by rw [Route.serve, inputs, hread]; rfl⟩
  | delete => exact ⟨_, .absent, rfl, rfl⟩

end Request

/-! ## Servers -/

/-- A server that requests lead to after it was started on an empty store, or on one that such a
server left. Between two requests everything but the store may become anything. -/
inductive Server.Reachable : Server → Prop where
  /-- The server was started. -/
  | started {settings : Settings} {clock : Clock} {s : Server}
      (h : Server.start settings clock = .ok s) : Reachable s
  /-- A server was started on what is stored. -/
  | restarted {s s₁ : Server} {w : World} (h : Reachable s) (hstarted : s₁.started = true)
      (hstore : w.store = s.world.store)
      (hseeded : (seeding s₁.settings).perform w = (.ok (), s₁.world)) : Reachable s₁
  /-- A request was answered. -/
  | answered {s s₁ : Server} (h : Reachable s) (hstarted : s₁.started = s.started)
      (hstore : s₁.world.store = s.world.store) (t : Stopwatch) (q : Request) :
      Reachable (s₁.answer t q).2

namespace Server

variable {s : Server} {q : Request}

/-- Whatever is asked for, it guards the users. -/
theorem answer_guards (s : Server) (t : Stopwatch) (q : Request) :
    s.world.Guards q.actingUser (s.answer t q).2.world :=
  answer_leads (World.sequential_guards _) (fun _ _ _ ⟨_, _, hserve⟩ => Route.serve_guards hserve) t

/-- The operations that fill a store. -/
def fillings : List Operation := [.seedUsers Seed.users, .seedApps Seed.apps, .seedCases Seed.cases]

/-- Filling a store leads where its operations do. -/
private theorem seeding_leads {R : World → World → Prop} (hR : World.Sequential R)
    (settings : Settings)
    (h : ∀ op ∈ fillings, op.service.Leads R) : (seeding settings).Leads R := by
  -- The results of the three fillings are only logged, so each is the operation itself.
  have hperforms {α : Type} {m : Service α} {g : α → Answer} (op : Operation)
      (hop : op.service = g <$> m) (hmem : op ∈ fillings) : m.Leads R := by
    intro w
    rw [← World.after_eq hop]
    exact h op hmem w
  have husers : (Directory.seed Seed.users).Leads R :=
    hperforms (.seedUsers Seed.users) rfl (by simp [fillings])
  have happs : (Apps.seed Seed.apps).Leads R :=
    hperforms (.seedApps Seed.apps) rfl (by simp [fillings])
  have hcases : (Cases.seed Seed.cases).Leads R :=
    hperforms (.seedCases Seed.cases) rfl (by simp [fillings])
  unfold seeding
  split
  · refine .bind hR husers fun _ => .bind hR happs fun _ => ?_
    split
    · exact .bind hR hcases fun _ => (Reads.pure _).leads hR
    · exact (Reads.pure _).leads hR
  · exact (Reads.pure _).leads hR

/-- A server that has been started has an empty store that was filled. -/
theorem start_eq_ok {settings : Settings} {clock : Clock} (h : start settings clock = .ok s) :
    s.started = true ∧
      ∃ w : World, w.store = {} ∧ (seeding settings).perform w = (.ok (), s.world) := by
  unfold start at h
  rw [bind_eq_ok] at h
  obtain ⟨s₀, hidle, h⟩ := h
  -- The server is made first, with nothing in its store, and then filled.
  have hempty : s₀.world.store = {} := by
    unfold idle at hidle
    split at hidle
    · cases hidle
    · cases hidle
      rfl
  dsimp only at h
  split at h
  · cases h
  · obtain ⟨⟨⟩, houtcome, hserver⟩ := bind_eq_ok.mp h
    cases hserver
    exact ⟨rfl, s₀.world, hempty, Prod.ext houtcome rfl⟩

/-- What holds of an empty store, and lasts when a store is filled and when a request is answered,
holds of the store of every server that requests lead to. -/
theorem Reachable.store_induction {P : Store → Prop} (hs : s.Reachable) (hempty : P {})
    (hfills : ∀ op ∈ fillings, op.service.Leads fun w w' => P w.store → P w'.store)
    (hanswers : ∀ (s : Server) (t : Stopwatch) (q : Request), P s.world.store →
      P (s.answer t q).2.world.store) : P s.world.store := by
  have hseq : World.Sequential fun w w' => P w.store → P w'.store :=
    ⟨fun h hw => h.store_eq ▸ hw, fun h h₁ hw => h₁ (h hw)⟩
  -- Filling a store is a sequence of operations, each of which preserves the property.
  have hseeded {settings : Settings} {w w' : World} (hw : P w.store)
      (h : (seeding settings).perform w = (.ok (), w')) : P w'.store := by
    have hleads := seeding_leads hseq settings hfills w
    rw [h] at hleads
    exact hleads hw
  -- A server comes from a start, from a restart over the store that is left, or from a request.
  induction hs with
  | started h =>
    obtain ⟨-, w, hstore, hfilled⟩ := start_eq_ok h
    rw [← hstore] at hempty
    exact hseeded hempty hfilled
  | restarted h hstarted hstore hfilled ih =>
    rw [← hstore] at ih
    exact hseeded ih hfilled
  | answered h hstarted hstore t q ih =>
    rw [← hstore] at ih
    exact hanswers _ t q ih

/-- The services of a server that requests lead to are started, and its store can be used. -/
theorem Reachable.ready (hs : s.Reachable) :
    s.started = true ∧ s.world.store.condition = .ready := by
  constructor
  · induction hs with
    | started h => exact (start_eq_ok h).1
    | restarted h hstarted hstore hseeded ih => exact hstarted
    | answered h hstarted hstore t q ih =>
      -- An answer changes the world and the source of request ids, and nothing else of the server.
      obtain ⟨before, after, id, timed, requestIds, -, hanswer⟩ := answer_eq _ t q
      rw [hanswer]
      exact hstarted.trans ih
  · refine hs.store_induction (P := fun store => store.condition = .ready) rfl
      (fun op _ w hw => ?_) fun s t q hs => ?_
    · exact (op.condition_after w).trans hw
    · exact (answer_guards s t q).condition_eq.trans hs

/-- In every server that requests lead to: the users change only by a request for the directory on
behalf of somebody who was stored as an admin before; a request for the directory on behalf of
anybody else, or of nobody, is refused if its body is as it should be, and leaves the store as it
was; and whoever a request is made on behalf of is still stored after it, if they were before. -/
theorem Reachable.users_by_admins (hs : s.Reachable) (t : Stopwatch) (q : Request) :
    ((s.answer t q).2.world.store.users ≠ s.world.store.users →
      (∃ r, q.ManagesUsers r) ∧ s.world.store.HasAdmin q.actingUser) ∧
    (∀ r, q.ManagesUsers r → q.WellFormed r → ¬s.world.store.HasAdmin q.actingUser →
      (s.answer t q).1.response.status = 403 ∧ (s.answer t q).2.world.store = s.world.store) ∧
    ∀ userId, q.actingUser = some userId → (s.world.store.user? userId).isSome = true →
      ((s.answer t q).2.world.store.user? userId).isSome = true := by
  have hguards := answer_guards s t q
  refine ⟨fun hchanged => ⟨?_, hguards.admin hchanged⟩, fun r hr hq hnobody => ?_,
    hguards.actor_stays⟩
  · by_contra hnone
    -- Without a route for the directory, the users are spared.
    refine hchanged (World.SparesUsers.users_eq ?_)
    refine answer_leads World.sequential_sparesUsers (fun r hroute m hm => ?_) t
    obtain ⟨payload, -, hserve⟩ := hm
    refine Route.serve_sparesUsers ?_ hserve
    rw [← Bool.not_eq_true]
    exact fun hmanages => hnone ⟨r, Request.managesUsers_of_route? hroute hmanages⟩
  · -- The body can be read and the services are started, so the service of the route is performed;
    -- the first thing that it does is to ask for the admin.
    obtain ⟨hstarted, hready⟩ := hs.ready
    obtain ⟨m, hserves⟩ := hr.serves hq s
    obtain ⟨payload, -, hserve⟩ := id hserves
    obtain ⟨m', hm⟩ := Route.serve_eq_requireAdmin hr.managesUsers hserve
    have hanswer := answer_of_refused (e := .adminOnly q.actingUser) hstarted hr.route?_eq hserves
      (fun w hstore => ⟨w, ?_, rfl⟩) t
    · rw [hanswer.1, hanswer.2]
      exact ⟨by simp [Response.refusal, ErrorKind.status], rfl⟩
    · rw [← hstore] at hready hnobody
      rw [hm]
      exact perform_bind_of_error (Directory.requireAdmin_of_not hready hnobody)

end Server

end Http

/-! ## Two who want somebody removed -/

namespace Sample

open Http

/-- What comes of starting a server with the default users. -/
def startup : Except Failure Server :=
  Server.start { Settings.testing with seedDemoData := true } { now := Seed.july 1 12 0 }

/-- A server with the default users, of whom the first is an admin. -/
def office : Server := startup.toOption.getD default

/-- What somebody sends to have the third of the default users removed. -/
def dismissal (actor : String) : Request where
  method := "DELETE"
  target := { path := "/api/v1/users/user-3" }
  headers := [("x-user-id", actor)]

/-- Requests take no time. -/
def still : Stopwatch := { seconds := 0, text := "0.000" }

theorem reachable_office : office.Reachable := by
  have hstartup : startup.toOption.isSome = true := by decide +kernel
  unfold office
  cases hs : startup with
  | error f => simp [hs, Except.toOption] at hstartup
  | ok s => exact .started hs

private theorem managesUsers_dismissal (actor : String) :
    (dismissal actor).ManagesUsers (.deleteUser "user-3") :=
  .delete rfl (by simp only [dismissal]; decide +kernel) (by decide)

private theorem not_hasAdmin_office : ¬office.world.store.HasAdmin (some "user-2") := by
  have hmember : (office.world.store.user? "user-2").map (·.role) = some .member := by
    decide +kernel
  rintro ⟨u, hid, hu, hadmin⟩
  rw [Option.some.injEq] at hid
  simp [hid, hu, hadmin] at hmember

end Sample

/-- The admin of the sample has somebody removed and stays; another user is refused. -/
theorem Http.Server.Reachable.users_by_admins_sample :
    ((Sample.office.answer Sample.still (Sample.dismissal "user-1")).2.world.store.users ≠
        Sample.office.world.store.users ∧
      Sample.office.world.store.HasAdmin (some "user-1") ∧
      ((Sample.office.answer Sample.still (Sample.dismissal "user-1")).2.world.store.user?
        "user-1").isSome = true) ∧
    (Sample.office.answer Sample.still (Sample.dismissal "user-2")).1.response.status = 403 ∧
    (Sample.office.answer Sample.still (Sample.dismissal "user-2")).2.world.store =
      Sample.office.world.store := by
  obtain ⟨hadmin, -, hstays⟩ :=
    users_by_admins Sample.reachable_office Sample.still (Sample.dismissal "user-1")
  have hchanged : (Sample.office.answer Sample.still
      (Sample.dismissal "user-1")).2.world.store.users ≠ Sample.office.world.store.users := by
    decide +kernel
  -- The second user is no admin, so the same request from them is refused.
  obtain ⟨-, hrefused, -⟩ :=
    users_by_admins Sample.reachable_office Sample.still (Sample.dismissal "user-2")
  exact ⟨⟨hchanged, (hadmin hchanged).2, hstays _ rfl (by decide +kernel)⟩,
    hrefused _ (Sample.managesUsers_dismissal _) trivial Sample.not_hasAdmin_office⟩

end CaseFlow
