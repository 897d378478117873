import CaseFlow.Board.Lists
import CaseFlow.Proofs.Case.Permission
import CaseFlow.Proofs.Service.Lasting

/-!
# Cases that wait for a user

The list of cases that wait for a user goes by the assignee of the current step alone; whether the
user may complete the step depends on its kind, too. In every store the list has exactly the cases
whose step is assigned to the user, in the order of all cases, and the user may complete those of
them that are not at a final step (`Cases.awaiting_exact`).

No editor assigns a final step, but a workflow that is taken over as a whole may bring one along
that is assigned. Where none does, the user may complete every case of the list; where one does, a
case that is closed goes on waiting for the user for ever.
-/

namespace CaseFlow

open Service

variable {d d' : Document} {n : Node} {c : Case} {cs : List Case} {u : User} {w : World}

/-! ## The list -/

/-- A case is listed if its current step is assigned to the user. -/
theorem mem_casesAwaiting {userId : String} : c ∈ casesAwaiting cs d userId ↔
    c ∈ cs ∧ ∃ n ∈ d.nodes, c.currentStep = some n.id ∧ n.assignee = .text userId := by
  simp only [casesAwaiting, List.mem_filter, Option.any_eq_true, List.contains_eq_mem,
    decide_eq_true_eq, List.mem_map, beq_iff_eq, Value.text?_eq_some]
  refine and_congr_right fun _ => ?_
  constructor
  · rintro ⟨_, hstep, n, ⟨hn, hassignee⟩, rfl⟩
    exact ⟨n, hn, hstep, hassignee⟩
  · rintro ⟨n, hn, hstep, hassignee⟩
    exact ⟨n.id, hstep, n, ⟨hn, hassignee⟩, rfl⟩

/-- In a sound document the step of a case is the one that is found under its id, so the list has
the cases whose step is assigned to the user, in their order. -/
private theorem casesAwaiting_eq_filter (hd : d.Sound) (cs : List Case) (userId : String) :
    casesAwaiting cs d userId =
      cs.filter fun c => (c.currentStep.bind d.node?).any (·.assignee.text? == some userId) := by
  have hsame : ∀ c ∈ cs, c ∈ casesAwaiting cs d userId ↔
      (c.currentStep.bind d.node?).any (·.assignee.text? == some userId) = true := by
    intro c hc
    simp only [mem_casesAwaiting, Option.any_eq_true, beq_iff_eq, Value.text?_eq_some,
      Option.bind_eq_some_iff, Document.node?_eq_some_iff hd.nodeIds_nodup]
    constructor
    · rintro ⟨-, n, hn, hstep, hassignee⟩
      exact ⟨n, ⟨n.id, hstep, hn, rfl⟩, hassignee⟩
    · rintro ⟨n, ⟨_, hstep, hn, rfl⟩, hassignee⟩
      exact ⟨hc, n, hn, hstep, hassignee⟩
  -- Both lists are filtered from the same cases, so that it is enough to ask of which each one
  -- consists.
  refine List.filter_congr fun c hc => ?_
  rw [Bool.eq_iff_iff, ← hsame c hc]
  exact ⟨fun h => List.mem_filter.mpr ⟨hc, h⟩, fun h => (List.mem_filter.mp h).2⟩

/-- The user to whom the step of a case is assigned may complete it unless it is final. -/
private theorem Case.canComplete_of_assigned {lookup : Lookup} (hlookup : lookup.Honest)
    (hknown : (lookup u.id).isSome = true) (hstep : c.currentStep.bind d.node? = some n)
    (hassignee : n.assignee = .text u.id) :
    c.canComplete d lookup (some u.id) = true ↔ n.type ≠ .finish ∧ u.id ≠ "" := by
  obtain ⟨v, hv⟩ := Option.isSome_iff_exists.mp hknown
  have hid : v.id = u.id := hlookup u.id v hv
  rw [canComplete, hstep]
  simp only [Bool.and_eq_true, bne_iff_ne]
  refine and_congr_right fun _ => ?_
  constructor
  · intro hok hempty
    -- Nobody is looked up under an empty id.
    rw [authorize, hempty] at hok
    cases hok
  · intro hne
    have hauthorized : authorize lookup n (some u.id) = .ok v :=
      authorize_eq_ok.mpr ⟨u.id, rfl, hne, hv, fun _ => by rw [hassignee, hid]⟩
    rw [hauthorized]
    rfl

/-! ## Final steps that nobody owns -/

namespace Document

/-- No final step is one of a user's own. -/
def FinalsFree (d : Document) : Prop := ∀ n ∈ d.nodes, n.type = .finish → n.isGated = false

instance (d : Document) : Decidable d.FinalsFree :=
  inferInstanceAs (Decidable (∀ n ∈ d.nodes, n.type = .finish → n.isGated = false))

/-- That final steps are free is not lost: commands assign nothing but tasks. -/
theorem lasting_finalsFree : Lasting FinalsFree where
  kept {d} hd m hm hfinal := by
    obtain ⟨n, hn, rfl⟩ := List.mem_map.mp hm
    -- What is kept of an assignee counts as given only if the assignee did.
    have hfree := hd n hn hfinal
    by_contra hgated
    rw [Bool.not_eq_false] at hgated
    rw [Node.isGated, Value.truthy_of_portable hgated] at hfree
    cases hfree
  of_read {d d'} hd hread m hm hfinal := by
    obtain ⟨n, hn, hreadNode⟩ := exists_of_forall₂ (forall₂_of_read hread).1.flip hm
    -- Reading leaves kind and assignee of a node as they are.
    obtain ⟨htype, hassignee⟩ := type_assignee_of_readNode hreadNode
    rw [Node.isGated, hassignee]
    exact hd n hn (htype ▸ hfinal)
  revised {loops d d'} _ hd hrevises m hm hfinal := by
    rcases hrevises.1.mem_nodes hm with hold | hfresh | ⟨n, hn, hedit⟩
    · exact hd m hold hfinal
    · exact hfresh.unassigned
    · have hfree : n.isGated = false := hd n hn (hedit.type_eq ▸ hfinal)
      by_contra hgated
      rw [Bool.not_eq_false] at hgated
      -- A gate that is new was given to a task, and no task is a final step.
      rcases hedit.assigned_task hgated with hold | htask
      · rw [hfree] at hold
        cases hold
      · rw [hedit.type_eq, htask] at hfinal
        cases hfinal

end Document

private theorem Seed.finalsFree_defaultWorkflow :
    Seed.defaultWorkflow.FinalsFree := by decide +kernel

/-! ## Stored workflows -/

/-- The lookup in a store finds users under the ids that they have. -/
private theorem Store.honest_user? (s : Store) :
    Lookup.Honest s.user? := Lookup.honest_among s.users

/-- For the workflow of an app and a user of the directory, the list of the cases that wait for the
user has those whose step is assigned to the user, in their order. The user may complete exactly
those of them that are not at a final step; and that is all of them, if no workflow was ever taken
over in which a final step is assigned. (A user with an empty id may complete nothing.) -/
theorem Cases.awaiting_exact {id : Option String} (hd : ((Apps.workflow id).perform w).1 = .ok d)
    (hu : u ∈ w.store.users) (cs : List Case) :
    casesAwaiting cs d u.id =
        cs.filter (fun c => (c.currentStep.bind d.node?).any (·.assignee.text? == some u.id)) ∧
      (∀ c ∈ casesAwaiting cs d u.id, ∃ n, c.currentStep.bind d.node? = some n ∧
        (c.canComplete d w.store.user? (some u.id) = true ↔ n.type ≠ .finish ∧ u.id ≠ "")) ∧
      ∀ held, w.Supplied Document.FinalsFree held → u.id ≠ "" →
        ∀ c ∈ casesAwaiting cs d u.id, c.canComplete d w.store.user? (some u.id) = true := by
  obtain ⟨-, r, -, hread⟩ := Apps.workflow_eq_ok.mp hd
  have haccepted : d.Accepted := ⟨_, hread⟩
  have hknown : (w.store.user? u.id).isSome = true :=
    List.find?_isSome.mpr ⟨u, hu, beq_self_eq_true _⟩
  -- Of a case that waits, the step is found and assigned, so only its type and the empty id can bar
  -- the user.
  have hmay : ∀ c ∈ casesAwaiting cs d u.id, ∃ n, c.currentStep.bind d.node? = some n ∧
      n ∈ d.nodes ∧ n.assignee = .text u.id ∧
      (c.canComplete d w.store.user? (some u.id) = true ↔ n.type ≠ .finish ∧ u.id ≠ "") := by
    intro c hc
    obtain ⟨-, n, hn, hstep, hassignee⟩ := mem_casesAwaiting.mp hc
    have hfound : c.currentStep.bind d.node? = some n := by
      rw [hstep, Option.bind_some, Document.node?_eq_some_iff haccepted.sound.nodeIds_nodup]
      exact ⟨hn, rfl⟩
    exact ⟨n, hfound, hn, hassignee,
      Case.canComplete_of_assigned w.store.honest_user? hknown hfound hassignee⟩
  refine ⟨casesAwaiting_eq_filter haccepted.sound cs u.id, fun c hc => ?_,
    fun held hw hne c hc => ?_⟩
  · obtain ⟨n, hfound, -, -, hiff⟩ := hmay c hc
    exact ⟨n, hfound, hiff⟩
  · obtain ⟨n, -, hn, hassignee, hiff⟩ := hmay c hc
    -- The workflow was taken over with its final steps free, and so they are.
    have hsustains := hw.sustains Document.lasting_finalsFree Seed.finalsFree_defaultWorkflow
    have hfree : d.FinalsFree :=
      (Apps.lasting_of_workflow Document.lasting_finalsFree hsustains.stored hd).2
    refine hiff.mpr ⟨fun hfinal => ?_, hne⟩
    have hungated := hfree n hn hfinal
    rw [Node.isGated, hassignee] at hungated
    simp [Value.truthy, hne] at hungated

/-! ## A case that waits -/

namespace Sample

/-- The world in which the sample case sits at a step of a workflow that an app was created
with. -/
def waitingWorld (d : Document) (stepId : String) : World :=
  (((emptyWorld.after (.seedUsers Seed.users)).after
    (.createApp { founding with workflow := some d })).after
      (.createCase (some "app-1") opening)).after (.setStep (some "case-1") (some stepId))

/-- The sample workflow with its final step assigned to the first user. -/
def assignedEnd : Document :=
  { workflow with nodes := workflow.nodes.map fun n =>
    if n.id == "end" then { n with assignee := .text "user-1" } else n }

private theorem supplied_waitingWorld (stepId : String) :
    (waitingWorld workflow stepId).Supplied Document.FinalsFree [] := by
  refine .after (.after (.after (.after (.empty rfl) rfl _ rfl ?_) rfl _ rfl ?_) rfl _ rfl ?_)
    rfl _ rfl ?_
  · exact List.forall_mem_nil _
  · exact List.forall_mem_singleton.mpr (by decide +kernel)
  · exact List.forall_mem_nil _
  · exact List.forall_mem_nil _

private theorem reachable_waitingWorld (d : Document) (stepId : String) :
    (waitingWorld d stepId).Reachable :=
  .after (.after (.after (.after (.empty rfl) rfl _) rfl _) rfl _) rfl _

/-- Whether a case waits for the first user of which it is as told whether they may complete its
step. -/
def waits (w : World) (may : Bool) : Bool :=
  ((Cases.list (some "app-1")).perform w).1.toOption.any fun cs =>
    ((Apps.workflow (some "app-1")).perform w).1.toOption.any fun d =>
      (casesAwaiting cs d "user-1").any fun c =>
        c.canComplete d w.store.user? (some "user-1") == may

/-- Where such a case waits, the list and the workflow can be read. -/
theorem exists_of_waits (w : World) (may : Bool) (h : waits w may = true) : ∃ cs d,
    ((Cases.list (some "app-1")).perform w).1 = .ok cs ∧
      ((Apps.workflow (some "app-1")).perform w).1 = .ok d ∧
      ∃ c ∈ casesAwaiting cs d "user-1",
        c.canComplete d w.store.user? (some "user-1") = may := by
  obtain ⟨cs, hlist, h⟩ := any_toOption_eq_true.mp h
  obtain ⟨d, hd, h⟩ := any_toOption_eq_true.mp h
  obtain ⟨c, hc, hmay⟩ := List.any_eq_true.mp h
  exact ⟨cs, d, hlist, hd, c, hc, beq_iff_eq.mp hmay⟩

end Sample

/-- The first user is shown the sample case at their draft, and may complete it. -/
theorem Cases.awaiting_exact_sample : ∃ cs d c,
    ((list (some "app-1")).perform (Sample.waitingWorld Sample.workflow "draft")).1 = .ok cs ∧
      c ∈ casesAwaiting cs d "user-1" ∧ c.canComplete d
        (Sample.waitingWorld Sample.workflow "draft").store.user? (some "user-1") = true := by
  obtain ⟨cs, d, hlist, hd, c, hc, -⟩ :=
    Sample.exists_of_waits (Sample.waitingWorld Sample.workflow "draft") true (by decide +kernel)
  obtain ⟨u, hu, hid⟩ : ∃ u ∈ (Sample.waitingWorld Sample.workflow "draft").store.users,
      u.id = "user-1" := by decide +kernel
  obtain ⟨-, -, hall⟩ := awaiting_exact hd hu cs
  rw [hid] at hall
  exact ⟨cs, d, c, hlist, hc, hall [] (Sample.supplied_waitingWorld "draft") (by decide) c hc⟩

/-- Where the app was created with a final step that is assigned, the first user is shown the closed
case there, and may not complete it. -/
theorem Cases.awaiting_closed :
    (Sample.waitingWorld Sample.assignedEnd "end").Reachable ∧ ∃ cs d,
      ((list (some "app-1")).perform (Sample.waitingWorld Sample.assignedEnd "end")).1 = .ok cs ∧
        ((Apps.workflow (some "app-1")).perform
          (Sample.waitingWorld Sample.assignedEnd "end")).1 = .ok d ∧
        ∃ c ∈ casesAwaiting cs d "user-1", c.canComplete d
          (Sample.waitingWorld Sample.assignedEnd "end").store.user? (some "user-1") = false :=
  ⟨Sample.reachable_waitingWorld _ _, Sample.exists_of_waits _ false (by decide +kernel)⟩

end CaseFlow
