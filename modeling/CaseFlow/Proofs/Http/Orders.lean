import CaseFlow.Proofs.Http.Exchange
import CaseFlow.Proofs.Json.Readback

/-!
# What routes order

A route that changes something reads its inputs, checks what it asks for, and then has one operation
performed. `Route.Orders` relates a route and its inputs to that operation, and `Route.Permits` is
what the route checks in the store before: that an admin asks for a change of the directory, and
that a step is assigned to a user who is stored.

So wherever the operations lead that a route orders, once its check is passed, the service of the
route leads (`Route.serve_leads`). What is said of all operations can thereby be said of all
requests, with what the check adds, and nothing has to be said of the routes one by one. The proof
is the only place where their handlers are looked into.
-/

namespace CaseFlow

open Service

variable {w w₁ : World} {id : Option String} {s : Store} {R : World → World → Prop}

/-! ## What routes check -/

/-- A user with the id is stored as an admin. -/
def Store.HasAdmin (s : Store) (id : Option String) : Prop :=
  ∃ u, id = some u.id ∧ s.user? u.id = some u ∧ u.role = .admin

namespace Directory

private theorem requireAdmin_reads : (requireAdmin id).Reads := by
  unfold requireAdmin
  refine .bind resolve?_reads fun found => ?_
  split
  · split
    · exact .pure _
    · exact .refuse _
  · exact .refuse _

/-- Whoever is found was stored under the id that was asked for. -/
theorem resolve?_eq_some {u : User} (h : (resolve? id).perform w = (.ok (some u), w₁)) :
    id = some u.id ∧ w.store.user? u.id = some u := by
  unfold resolve? at h
  split at h
  · cases h
  · next userId hid =>
    obtain ⟨s, w₂, hquery, hfound⟩ := perform_bind_eq_ok.mp h
    obtain ⟨-, rfl, rfl⟩ := perform_query_eq_ok.mp hquery
    rw [perform_pure, Prod.mk.injEq, Except.ok.injEq] at hfound
    have huser : u.id = userId := by simpa using List.find?_some hfound.1
    rw [huser]
    exact ⟨(Option.filter_eq_some_iff.mp hid).1, hfound.1⟩

/-- Only admins pass. -/
private theorem hasAdmin_of_requireAdmin {u : User}
    (h : (requireAdmin id).perform w = (.ok u, w₁)) :
    w.store.HasAdmin id := by
  obtain ⟨found, w₂, hfound, h⟩ := perform_bind_eq_ok.mp h
  split at h
  · next v =>
    obtain ⟨hid, hstored⟩ := resolve?_eq_some hfound
    split at h
    · next hadmin => exact ⟨v, hid, hstored, beq_iff_eq.mp hadmin⟩
    · cases h
  · cases h

/-- What is done after an admin was asked for leads where it does if there is one. -/
theorem requireAdmin_bind_leads (hR : World.Sequential R) {α : Type} {m : Service α}
    (hm : ∀ w : World, w.store.HasAdmin id → R w (m.perform w).2) :
    (requireAdmin id >>= fun _ => m).Leads R := by
  intro w
  -- Asking for the admin leaves the store as it is, so the admin is one of the store before it.
  have hbecomes : w.Becomes ((requireAdmin id).perform w).2 := requireAdmin_reads w
  rcases hrequire : (requireAdmin id).perform w with ⟨f | u, w₁⟩ <;> rw [hrequire] at hbecomes
  · rw [perform_bind_of_error hrequire]
    exact hR.becomes hbecomes
  · rw [perform_bind_of_ok hrequire]
    refine hR.trans (hR.becomes hbecomes) (hm w₁ ?_)
    rw [hbecomes.store_eq]
    exact hasAdmin_of_requireAdmin hrequire

end Directory

namespace Http

/-! ## Bodies -/

/-- A request whose body was written from simple fields brings these. -/
theorem Request.payload_eq {q : Request} {fs : Fields} (hbody : q.body = Json.write (.object fs))
    (hsimple : Json.haveSimple fs = true) (hjson : q.isJson = true) :
    q.payload = .ok (.value (.object fs)) := by
  obtain ⟨cs, hcs⟩ : ∃ cs, q.body.toList = '{' :: cs := by
    rw [hbody, Json.write, String.toList_append, String.toList_append, List.append_assoc]
    exact ⟨_, rfl⟩
  have hnonempty : q.body.isEmpty = false := by
    rw [← Bool.not_eq_true, String.isEmpty_iff]
    intro hempty
    rw [hempty] at hcs
    cases hcs
  -- The brace in front is no byte order mark.
  have htext : q.bodyText = q.body := by
    unfold bodyText
    rw [hcs]
    rfl
  unfold payload
  rw [hnonempty, htext, hbody, Json.read_write (v := .object fs) hsimple]
  simp [hjson]

/-- A record is read from a body that is an object. -/
theorem readRecord_eq_ok {α : Type} {read : Fields → Checked α} {p : Request.Payload} {a : α} :
    readRecord read p = .ok a ↔ ∃ fs, p = .value (.object fs) ∧ read fs = .ok a := by
  unfold readRecord readObject
  rw [Checked.under_eq_ok]
  constructor
  · intro h
    split at h
    · cases h
    · next fs =>
      refine ⟨fs, rfl, ?_⟩
      -- The place in the body is added to complaints only.
      unfold Checked.inBody at h
      split at h
      · next hread => rw [hread, h]
      · cases h
    · cases h
    · cases h
  · rintro ⟨fs, rfl, hread⟩
    show (read fs).inBody = .ok a
    rw [hread]
    rfl

namespace Route

variable {settings : Settings} {q : Inputs} {r : Route} {m : Service Response}

/-- Whether a route changes the directory of users. -/
def managesUsers : Route → Bool
  | inviteUser | updateUser _ | deleteUser _ => true
  | _ => false

/-- What a route has done with the inputs of a request, if these are in order. -/
inductive Orders (q : Inputs) : Route → Operation → Prop where
  | inviteUser {b : Invitation} (h : readRecord Invitation.read q.payload = .ok b) :
      Orders q .inviteUser (.inviteUser (some b.email) (.text (Worded.word b.role)) b.name)
  | updateUser {id : String} {b : UserChange} (h : readRecord UserChange.read q.payload = .ok b) :
      Orders q (.updateUser id)
        (.updateUser (some id) b.name (.ofText? (b.role.map Worded.word)))
  | deleteUser {id : String} : Orders q (.deleteUser id) (.deleteUser (some id) q.actingUser)
  | createApp {o : Apps.Founding} (h : readRecord readFounding q.payload = .ok o) :
      Orders q .createApp (.createApp o)
  | updateApp {id : String} {b : AppChange} (h : readRecord AppChange.read q.payload = .ok b) :
      Orders q (.updateApp id) (.updateApp (some id) b.name b.icon b.themeColor)
  | deleteApp {id : String} : Orders q (.deleteApp id) (.deleteApp (some id))
  | replaceWorkflow {id : String} {d : Document}
      (h : readRecord Document.readFields q.payload = .ok d) :
      Orders q (.replaceWorkflow id) (.replaceWorkflow (some id) d)
  | addNode {id : String} {c : Command} (h : readRecord readNewNode q.payload = .ok c) :
      Orders q (.addNode id) (.edit (some id) c)
  | updateNode {id nodeId : String} {patch : Fields} (h : readFields q.payload = .ok patch) :
      Orders q (.updateNode id nodeId) (.edit (some id) (.updateNode nodeId patch))
  | moveNode {id nodeId : String} {p : Position}
      (h : readRecord Position.readFields q.payload = .ok p) :
      Orders q (.moveNode id nodeId) (.edit (some id) (.moveNode nodeId p.toValue))
  | deleteNode {id nodeId : String} :
      Orders q (.deleteNode id nodeId) (.edit (some id) (.deleteNode nodeId))
  | connect {id : String} {c : Command} (h : readRecord readConnection q.payload = .ok c) :
      Orders q (.connect id) (.edit (some id) c)
  | deleteEdge {id edgeId : String} :
      Orders q (.deleteEdge id edgeId) (.edit (some id) (.deleteEdge edgeId))
  | setFormMode {id nodeId : String} {mode : FormMode}
      (h : readRecord readMode q.payload = .ok mode) :
      Orders q (.setFormMode id nodeId)
        (.edit (some id) (.setFormMode nodeId (.text (Worded.word mode))))
  | addFormField {id nodeId : String} {fs : Fields} (h : readFields q.payload = .ok fs) :
      Orders q (.addFormField id nodeId) (.edit (some id) (.addFormField nodeId (.object fs)))
  | updateFormField {id nodeId fieldId : String} {fs : Fields}
      (h : readFields q.payload = .ok fs) :
      Orders q (.updateFormField id nodeId fieldId)
        (.edit (some id) (.updateFormField nodeId fieldId fs))
  | deleteFormField {id nodeId fieldId : String} :
      Orders q (.deleteFormField id nodeId fieldId)
        (.edit (some id) (.deleteFormField nodeId fieldId))
  | createCase {appId : String} {o : Case.Opening}
      (h : readRecord readOpening q.payload = .ok o) :
      Orders q (.createCase appId) (.createCase (some appId) o)
  | completeStep {caseId : String} {c : Completion}
      (h : readRecord (readCompletion q.actingUser) q.payload = .ok c) :
      Orders q (.completeStep caseId) (.completeStep (some caseId) c)
  | placeCase {caseId stepId : String} (h : readRecord readPlace q.payload = .ok stepId) :
      Orders q (.placeCase caseId) (.setStep (some caseId) (some stepId))

/-- What a route checks in the store before it has anything done: that an admin asks for a change of
the directory, and that a node is assigned to a user who is known. -/
def Permits (q : Inputs) (s : Store) : Route → Prop
  | .inviteUser | .updateUser _ | .deleteUser _ => s.HasAdmin q.actingUser
  | .updateNode _ _ => ∀ patch v, readFields q.payload = .ok patch →
      patch.get? "assignee_id" = some v → v.truthy = true → Directory.Names s.users v
  | _ => True

/-! ## Where services of routes lead -/

/-- A node is changed once it is known whom it is assigned to, if it is to anybody. -/
private theorem changedNode_leads (hR : World.Sequential R) {appId nodeId : String} {patch : Fields}
    (h : ∀ w : World, (∀ v, patch.get? "assignee_id" = some v → v.truthy = true →
        Directory.Names w.store.users v) →
      R w ((edit appId (.updateNode nodeId patch)).perform w).2) :
    (changedNode appId nodeId patch).Leads R := by
  intro w
  unfold changedNode
  simp only
  split
  · have hreads :
        w.Becomes ((Directory.knows ((patch.get? "assignee_id").getD .null)).perform w).2 :=
      Directory.knows_reads _ w
    rcases hknows : (Directory.knows ((patch.get? "assignee_id").getD .null)).perform w with
      ⟨f | known, w₁⟩ <;> rw [hknows] at hreads
    · rw [perform_bind_of_error hknows]
      -- The look-up failed, and the node is not patched.
      exact hR.becomes hreads
    · rw [perform_bind_of_ok hknows]
      refine hR.trans (hR.becomes hreads) ?_
      cases known with
      | false => exact (Reads.refuse_bind _).leads hR w₁
      | true =>
        -- The users are still those among whom the assignee was found.
        refine leads_bind hR (h w₁ fun v hv _ => ?_) fun _ => (Reads.pure _).leads hR
        rw [hv, Option.getD_some] at hknows
        rw [hreads.store_eq]
        exact Directory.names_of_knows hknows
  · next hlifts =>
    refine leads_bind hR (h w fun v hv htruthy => ?_) fun _ => (Reads.pure _).leads hR
    rw [hv, Option.getD_some] at hlifts
    -- The patch gives no assignee, so that there is nobody to look for.
    exact absurd htruthy hlifts

/-- The service of a route leads where the operation does that the route orders, from every world
that passes the check of the route. -/
theorem serve_leads (hR : World.Sequential R) (hserve : r.serve settings q = .ok m)
    (h : ∀ op w, r.Orders q op → r.Permits q w.store → R w (w.after op)) : m.Leads R := by
  -- The operation of a route performs a service, and the response tells what comes of it.
  have hperforms {α : Type} {n : Service α} {g : α → Answer} {w : World} (op : Operation)
      (horders : r.Orders q op) (hop : op.service = g <$> n) (hpermits : r.Permits q w.store) :
      R w (n.perform w).2 := by
    rw [← World.after_eq hop]
    exact h op w horders hpermits
  have hresponds {α β : Type} {n : Service α} {w : World} (g : α → β) (hn : R w (n.perform w).2) :
      R w ((n >>= fun a => pure (g a)).perform w).2 :=
    leads_bind hR hn fun _ => (Reads.pure _).leads hR
  have hedits {appId : String} {c : Command} {w : World}
      (horders : r.Orders q (.edit (some appId) c)) (hpermits : r.Permits q w.store) :
      R w ((edit appId c).perform w).2 :=
    hresponds _ (hperforms _ horders rfl hpermits)
  -- Routes that only look order nothing; of the others each names its operation and the check
  -- before it.
  by_cases hlooks : r.looks = true
  · exact (serve_reads hlooks hserve).leads hR
  cases r with
  | inviteUser =>
    obtain ⟨b, hb, rfl⟩ := Checked.map_eq_ok'.mp hserve
    refine Directory.requireAdmin_bind_leads hR fun w hadmin => hresponds _ ?_
    exact hperforms _ (.inviteUser hb) rfl hadmin
  | updateUser userId =>
    obtain ⟨b, hb, rfl⟩ := Checked.map_eq_ok'.mp hserve
    refine Directory.requireAdmin_bind_leads hR fun w hadmin => hresponds _ ?_
    exact hperforms _ (.updateUser hb) rfl hadmin
  | deleteUser userId =>
    cases hserve
    refine Directory.requireAdmin_bind_leads hR fun w hadmin => ?_
    refine leads_bind hR (hperforms _ .deleteUser rfl hadmin) fun found => ?_
    split
    · exact (Reads.refuse_bind _).leads hR
    · exact (Reads.pure _).leads hR
  | createApp =>
    obtain ⟨o, ho, rfl⟩ := Checked.map_eq_ok'.mp hserve
    refine .bind hR ((Reads.note _ _ _).leads hR) fun _ w => hresponds _ ?_
    exact hperforms _ (.createApp ho) rfl trivial
  | updateApp appId =>
    obtain ⟨b, hb, rfl⟩ := Checked.map_eq_ok'.mp hserve
    exact fun w => hresponds _ (hperforms _ (.updateApp hb) rfl trivial)
  | deleteApp appId =>
    cases hserve
    refine .bind hR (fun w => hperforms _ .deleteApp rfl trivial) fun found => ?_
    split
    · exact (Reads.refuse_bind _).leads hR
    · exact (Reads.pure _).leads hR
  | replaceWorkflow appId =>
    obtain ⟨d, hd, rfl⟩ := Checked.map_eq_ok'.mp hserve
    exact fun w => hresponds _ (hperforms _ (.replaceWorkflow hd) rfl trivial)
  | addNode appId =>
    obtain ⟨c, hc, rfl⟩ := Checked.map_eq_ok'.mp hserve
    exact fun w => hresponds _ (hperforms _ (.addNode hc) rfl trivial)
  | updateNode appId nodeId =>
    obtain ⟨patch, hpatch, rfl⟩ := Checked.map_eq_ok'.mp hserve
    refine changedNode_leads hR fun w hknown => hedits (.updateNode hpatch) ?_
    -- The patch that the check is about is the one that was read.
    intro patch' v hpatch' hv
    rw [hpatch, Checked.ok.injEq] at hpatch'
    rw [← hpatch'] at hv
    exact hknown v hv
  | moveNode appId nodeId =>
    obtain ⟨p, hp, rfl⟩ := Checked.map_eq_ok'.mp hserve
    exact fun w => hresponds _ (hedits (.moveNode hp) trivial)
  | deleteNode appId nodeId =>
    cases hserve
    exact fun w => hresponds _ (hedits .deleteNode trivial)
  | connect appId =>
    obtain ⟨c, hc, rfl⟩ := Checked.map_eq_ok'.mp hserve
    exact fun w => hresponds _ (hperforms _ (.connect hc) rfl trivial)
  | deleteEdge appId edgeId =>
    cases hserve
    exact fun w => hresponds _ (hedits .deleteEdge trivial)
  | setFormMode appId nodeId =>
    obtain ⟨mode, hmode, rfl⟩ := Checked.map_eq_ok'.mp hserve
    exact fun w => hresponds _ (hedits (.setFormMode hmode) trivial)
  | addFormField appId nodeId =>
    obtain ⟨fs, hfs, rfl⟩ := Checked.map_eq_ok'.mp hserve
    exact fun w => hresponds _ (hedits (.addFormField hfs) trivial)
  | updateFormField appId nodeId fieldId =>
    obtain ⟨fs, hfs, rfl⟩ := Checked.map_eq_ok'.mp hserve
    exact fun w => hresponds _ (hedits (.updateFormField hfs) trivial)
  | deleteFormField appId nodeId fieldId =>
    cases hserve
    exact fun w => hresponds _ (hedits .deleteFormField trivial)
  | createCase appId =>
    obtain ⟨o, ho, rfl⟩ := Checked.map_eq_ok'.mp hserve
    exact fun w => hresponds _ (hperforms _ (.createCase ho) rfl trivial)
  | completeStep caseId =>
    obtain ⟨c, hc, rfl⟩ := Checked.map_eq_ok'.mp hserve
    refine .bind hR ((Reads.note _ _ _).leads hR) fun _ w => hresponds _ ?_
    exact hperforms _ (.completeStep hc) rfl trivial
  | placeCase caseId =>
    obtain ⟨stepId, hstep, rfl⟩ := Checked.map_eq_ok'.mp hserve
    exact fun w => hresponds _ (hperforms _ (.placeCase hstep) rfl trivial)
  | _ => exact absurd rfl hlooks

end Route

end Http

end CaseFlow
