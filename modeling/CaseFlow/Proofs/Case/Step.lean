import CaseFlow.Case.Progression
import CaseFlow.Proofs.Case.Reading
import CaseFlow.Proofs.Form.Submitted
import CaseFlow.Proofs.Workflow.Sound

/-!
# One step of a case

What an opening, a completion or a placement does when it succeeds.

* `Rules.complete_eq_ok`: a completion succeeds exactly when all of `Rules.Completes` holds, and
  then the case becomes `Case.advanced`: the answers are recorded, the history has one more entry,
  and the case sits at the next step.
* `Case.place_eq_ok`: a placement succeeds exactly when the step exists.
* `Case.OpenedIn.fresh`: a case is opened at the first start, as one of which nothing is recorded.

A completion is a chain of checks, of which those that concern the user and the step come before the
form is looked at (`Rules.gate_eq_ok`). Later files argue from the fields of `Rules.Completes` and
never unfold the checks.
-/

namespace CaseFlow

variable {d : Document} {n next : Node} {strict : Bool} {lookup : Lookup}

/-! ## Choosing the next step -/

namespace Document

/-- A step is given exactly if it is found in the document. -/
theorem requireStep_eq_ok {stepId : Option String} :
    d.requireStep stepId = .ok n ↔ stepId.bind d.node? = some n := by
  unfold requireStep
  cases stepId.bind d.node? <;> simp

/-- A choice that counts is the target of one of the edges. -/
private theorem mem_of_chosen? {out : List Edge} {choice : Option String} {t : String}
    (h : chosen? out choice = some t) : ∃ e ∈ out, e.target = t := by
  unfold chosen? at h
  split at h
  · next c =>
    split at h
    · next hc =>
      cases h
      simp only [Bool.and_eq_true, List.any_eq_true, beq_iff_eq] at hc
      exact hc.2
    · cases h
  · cases h

/-- Whichever way the target is settled, it is the target of one of the edges. -/
theorem mem_of_pickTarget {stepId : String} {choice : Option String} {out : List Edge} {t : String}
    (h : pickTarget strict stepId choice out = .ok t) : ∃ e ∈ out, e.target = t := by
  -- Only among several edges is the choice looked at.
  match out with
  | [] => simp [pickTarget] at h
  | [e] =>
    simp only [pickTarget, Except.ok.injEq] at h
    exact ⟨e, by simp, h⟩
  | e :: f :: rest =>
    simp only [pickTarget] at h
    split at h
    · next c hc =>
      cases h
      exact mem_of_chosen? hc
    · split at h
      · cases h
      · cases h
        exact ⟨e, by simp, rfl⟩

/-- The next step is the one at the end of the edge that is picked. -/
theorem nextStep_eq_ok {choice : Option String} (hn : d.node? n.id = some n) :
    d.nextStep strict (some n.id) choice = .ok next ↔
      ∃ t, pickTarget strict n.id choice (d.outgoing n.id) = .ok t ∧ d.node? t = some next := by
  simp [nextStep, requireStep_eq_ok, hn]

/-- The step that comes next is found under its id. -/
theorem node?_of_nextStep {stepId choice : Option String}
    (h : d.nextStep strict stepId choice = .ok next) : d.node? next.id = some next := by
  simp only [nextStep, bind_eq_ok, requireStep_eq_ok, Option.bind_some] at h
  obtain ⟨-, -, t, -, hnext⟩ := h
  rwa [(mem_of_node? hnext).2]

end Document

/-! ## Who may complete a step -/

/-- A value is a text exactly if it is that text. -/
theorem Value.text?_eq_some {v : Value} {s : String} : v.text? = some s ↔ v = .text s := by
  cases v <;> simp [text?]

/-- A user may complete a step when somebody knows them and, at a step of one user's own, they
are that user. -/
theorem authorize_eq_ok {userId : Option String} {user : User} :
    authorize lookup n userId = .ok user ↔
      ∃ id, userId = some id ∧ id ≠ "" ∧ lookup id = some user ∧
        (n.isGated = true → n.assignee = .text user.id) := by
  unfold authorize
  cases huser : (userId.filter fun u => !u.isEmpty).bind lookup with
  | none =>
    -- Whoever could be authorized would have been found.
    simp only [reduceCtorEq, false_iff, not_exists, not_and]
    rintro id rfl hne hid
    simp [hne, hid] at huser
  | some found =>
    have hfound : ∃ id, userId = some id ∧ id ≠ "" ∧ lookup id = some found := by
      simp only [Option.bind_eq_some_iff, Option.filter_eq_some_iff] at huser
      obtain ⟨id, ⟨hid, hne⟩, hlookup⟩ := huser
      exact ⟨id, hid, by simpa using hne, hlookup⟩
    obtain ⟨id, rfl, hne, hid⟩ := hfound
    by_cases hgate : n.isGated && n.assignee.text? != some found.id
    · -- The step is another user's.
      simp only [hgate, ↓reduceIte, reduceCtorEq, false_iff]
      rintro ⟨_, heq, -, hlookup, himp⟩
      cases heq
      rw [hid] at hlookup
      cases hlookup
      simp only [Bool.and_eq_true, bne_iff_ne, ne_eq, Value.text?_eq_some] at hgate
      exact hgate.2 (himp hgate.1)
    · simp only [hgate, Bool.false_eq_true, ↓reduceIte, Except.ok.injEq]
      simp only [Bool.and_eq_true, bne_iff_ne, ne_eq, Value.text?_eq_some, not_and,
        not_not] at hgate
      -- The step is free, or it is gated to the user who was found.
      constructor
      · rintro rfl
        exact ⟨id, rfl, hne, hid, hgate⟩
      · rintro ⟨_, heq, -, hlookup, -⟩
        cases heq
        rw [hid] at hlookup
        exact Option.some.inj hlookup

/-- Those may act on the current step of a case who are authorized there, unless it is final. -/
theorem Case.canComplete_iff {c : Case} {userId : Option String} :
    c.canComplete d lookup userId = true ↔ ∃ n, c.currentStep.bind d.node? = some n ∧
      n.type ≠ .finish ∧ ∃ user, authorize lookup n userId = .ok user := by
  unfold canComplete
  cases c.currentStep.bind d.node? with
  | none => simp
  | some n =>
    simp only [Bool.and_eq_true, bne_iff_ne, ne_eq, Option.some.injEq, exists_eq_left']
    exact and_congr_right fun _ => isOk_eq_true

/-! ## Completing a step -/

namespace Case

/-- A case after user `userId` completed step `n`: the values `vs` are recorded, the history has
one more entry, and the case sits at `next`. -/
def advanced (c : Case) (lookup : Lookup) (n next : Node) (userId : String) (vs : Fields)
    (now : Timestamp) : Case :=
  { c with
    currentStep := some next.id
    history := c.history ++ [⟨n.id, userId, now⟩]
    status := if next.type = .finish then .closed else c.status
    assigneeId := c.nextAssignee (some lookup) next
    formData := c.formData.merge vs }

/-- An entry of the history names the step and the user that it was made for. -/
theorem eventFor_some (stepId userId : String) (now : Timestamp) :
    eventFor (some stepId) (some userId) now = .ok ⟨stepId, userId, now⟩ := by
  have hread : Event.readFields [("step_id", .ofText? (some stepId)),
      ("user_id", .ofText? (some userId)), ("completed_at", .timestamp now)] =
        .ok ⟨stepId, userId, now⟩ :=
    Event.readFields_eq_ok.mpr ⟨Fields.require_of_get? rfl rfl, Fields.require_of_get? rfl rfl,
      Fields.require_of_get? rfl rfl⟩
  rw [eventFor, hread]
  rfl

/-- A case moves on exactly when its step is not final and a next step is settled. -/
theorem moveOn_eq_ok {c c' : Case} {choice : Option String} {userId : String} {now : Timestamp}
    (hn : d.node? n.id = some n) :
    c.moveOn d strict (some lookup) (some n.id) (some userId) choice now = .ok c' ↔
      n.type ≠ .finish ∧ ∃ next, d.nextStep strict (some n.id) choice = .ok next ∧
        { c with
          currentStep := some next.id
          history := c.history ++ [⟨n.id, userId, now⟩]
          status := if next.type = .finish then .closed else c.status
          assigneeId := c.nextAssignee (some lookup) next } = c' := by
  have hstep : d.requireStep (some n.id) = .ok n := by simpa [Document.requireStep_eq_ok] using hn
  -- On a final step the move is refused before a next step is looked for.
  by_cases hfinal : n.type = .finish
  · simp [moveOn, hstep, hfinal]
  · simp [moveOn, hstep, hfinal, eventFor_some]

end Case

namespace Rules

variable {r : Rules} {c c' : Case} {q : Completion} {now : Timestamp}

/-- All that is needed for a completion: user `userId`, who is known as `user`, completes step
`n`, whose form returns `vs`, and `next` comes next. -/
structure Completes (r : Rules) (d : Document) (c : Case) (q : Completion) (n next : Node)
    (userId : String) (user : User) (vs : Fields) : Prop where
  /-- The case sits at the step. -/
  sits : c.currentStep = some n.id
  /-- The user means that step. -/
  asked : q.stepId = some n.id
  /-- The step exists. -/
  found : d.node? n.id = some n
  /-- The step is not final. -/
  not_final : n.type ≠ .finish
  /-- Somebody acts. -/
  acting : q.userId = some userId
  /-- Their id is not empty. -/
  userId_ne : userId ≠ ""
  /-- They are known. -/
  known : r.lookup userId = some user
  /-- A step of one user's own is completed by that user. -/
  admitted : n.isGated = true → n.assignee = .text user.id
  /-- The form accepts the values. -/
  answered : n.answers c.formData q.values = .ok vs
  /-- There is a next step. -/
  onward : d.nextStep r.strict (some n.id) q.choice = .ok next

/-- What is recorded are the values that the step returns. -/
theorem recorded_eq_map {submitted : Fields} : recorded c n submitted =
    (n.answers c.formData submitted).map fun vs => { c with formData := c.formData.merge vs } := by
  unfold recorded Node.answers
  cases n.form <;> rfl

/-- Recording merges the answers into the values of the case, if they are accepted. -/
theorem recorded_eq_ok {submitted : Fields} {working : Case} :
    recorded c n submitted = .ok working ↔
      ∃ vs, n.answers c.formData submitted = .ok vs ∧
        { c with formData := c.formData.merge vs } = working := by
  rw [recorded_eq_map, map_eq_ok]

/-- The gate opens exactly for who is authorized at the step where the case sits, unless that is
final. -/
theorem gate_eq_ok :
    r.gate c d q = .ok n ↔
      c.currentStep = q.stepId ∧ q.stepId.bind d.node? = some n ∧ n.type ≠ .finish ∧
        ∃ user, authorize r.lookup n q.userId = .ok user := by
  unfold gate
  by_cases hstep : c.currentStep = q.stepId
  · simp only [hstep, bne_self_eq_false, Bool.false_eq_true, ↓reduceIte, bind_eq_ok,
      Document.requireStep_eq_ok, true_and]
    constructor
    · rintro ⟨m, hm, hrest⟩
      by_cases hfinal : m.type = .finish
      · simp [hfinal] at hrest
      · simp only [hfinal, beq_iff_eq, ↓reduceIte, bind_eq_ok, pure_eq_ok] at hrest
        obtain ⟨user, huser, rfl⟩ := hrest
        exact ⟨hm, hfinal, user, huser⟩
    · rintro ⟨hn, hfinal, user, huser⟩
      exact ⟨n, hn, by simp [hfinal, huser]⟩
  · simp [hstep]

/-- A completion of a step at which the case does not sit is refused as stale. -/
theorem gate_of_stale (h : c.currentStep ≠ q.stepId) :
    r.gate c d q = .error (.staleStep c.id c.currentStep q.stepId) := by
  simp [gate, h]

/-- A completion of a final step is refused, whoever tries it. -/
theorem gate_of_final (hstep : c.currentStep = q.stepId) (hn : q.stepId.bind d.node? = some n)
    (hfinal : n.type = .finish) : r.gate c d q = .error (.caseClosed c.id n.id none) := by
  simp [gate, hstep, Document.requireStep_eq_ok.mpr hn, hfinal]

/-- What is refused before the form is looked at is refused for that reason. -/
theorem complete_of_gate_error {e : Error} (h : r.gate c d q = .error e) :
    r.complete c d q now = .error (.refused e) := by
  simp [complete, prepare, h]

/-- A completion succeeds exactly when all of `Completes` holds, and then leaves the case at the
next step with its entry in the history. -/
theorem complete_eq_ok :
    r.complete c d q now = .ok c' ↔
      ∃ n next userId user vs, r.Completes d c q n next userId user vs ∧
        c.advanced r.lookup n next userId vs now = c' := by
  simp only [complete, prepare, bind_eq_ok, mapError_eq_ok, gate_eq_ok, recorded_eq_ok]
  constructor
  · rintro ⟨_, ⟨n, ⟨hsits, hfound, hfinal, user, huser⟩, vs, hvs, rfl⟩, hmove⟩
    -- The checks have settled which step is meant and who acts, so the move can be read off.
    obtain ⟨stepId, hstep, hnode⟩ := Option.bind_eq_some_iff.mp hfound
    obtain ⟨userId, hacting, hne, hknown, hadmitted⟩ := authorize_eq_ok.mp huser
    obtain ⟨-, rfl⟩ := Document.mem_of_node? hnode
    rw [hstep, hacting, Case.moveOn_eq_ok hnode] at hmove
    obtain ⟨-, next, hnext, rfl⟩ := hmove
    exact ⟨n, next, userId, user, vs, ⟨hsits.trans hstep, hstep, hnode, hfinal, hacting, hne,
      hknown, hadmitted, hvs, hnext⟩, rfl⟩
  · rintro ⟨n, next, userId, user, vs, h, rfl⟩
    -- Conversely, each check is passed by the field of `Completes` that speaks of it.
    have huser : authorize r.lookup n q.userId = .ok user :=
      authorize_eq_ok.mpr ⟨userId, h.acting, h.userId_ne, h.known, h.admitted⟩
    refine ⟨_, ⟨n, ⟨h.sits.trans h.asked.symm, ?_, h.not_final, user, huser⟩, vs, h.answered,
      rfl⟩, ?_⟩
    · simp [h.asked, h.found]
    · rw [h.asked, h.acting, Case.moveOn_eq_ok h.found]
      exact ⟨h.not_final, next, h.onward, rfl⟩

/-- A completion leaves a case its id and its app. -/
theorem complete_identity (h : r.complete c d q now = .ok c') :
    c'.id = c.id ∧ c'.appId = c.appId := by
  obtain ⟨n, next, userId, user, vs, -, rfl⟩ := complete_eq_ok.mp h
  exact ⟨rfl, rfl⟩

/-- A completion adds one entry to the history: the step at which the case was, the user who acts,
and the time. -/
theorem history_of_complete (h : r.complete c d q now = .ok c') :
    ∃ stepId userId, c.currentStep = some stepId ∧ q.userId = some userId ∧
      c'.history = c.history ++ [⟨stepId, userId, now⟩] := by
  obtain ⟨n, next, userId, user, vs, hcompletes, rfl⟩ := complete_eq_ok.mp h
  exact ⟨n.id, userId, hcompletes.sits, hcompletes.acting, rfl⟩

namespace Completes

variable {userId : String} {user : User} {vs : Fields}

/-- The step that is completed belongs to the document. -/
theorem mem (h : r.Completes d c q n next userId user vs) : n ∈ d.nodes :=
  (Document.mem_of_node? h.found).1

/-- The step that comes next is found under its id. -/
theorem found_next (h : r.Completes d c q n next userId user vs) : d.node? next.id = some next :=
  Document.node?_of_nextStep h.onward

/-- An edge leads from the step that is completed to the next one, which exists. -/
theorem edge (h : r.Completes d c q n next userId user vs) :
    next ∈ d.nodes ∧ ∃ e ∈ d.edges, e.source = n.id ∧ e.target = next.id := by
  obtain ⟨t, hpick, hnext⟩ := (Document.nextStep_eq_ok h.found).mp h.onward
  obtain ⟨e, he, htarget⟩ := Document.mem_of_pickTarget hpick
  obtain ⟨hmem, hid⟩ := Document.mem_of_node? hnext
  simp only [Document.outgoing, List.mem_filter, beq_iff_eq] at he
  exact ⟨hmem, e, he.1, he.2, htarget.trans hid.symm⟩

end Completes

end Rules

/-! ## Placing and opening a case -/

namespace Case

/-- A placement succeeds exactly when the step exists. -/
theorem place_eq_ok {c c' : Case} {stepId : Option String} :
    c.place d stepId = .ok c' ↔
      ∃ n, stepId.bind d.node? = some n ∧
        { c with currentStep := some n.id, status := statusFor n.type } = c' := by
  simp [place, Document.requireStep_eq_ok]

/-- A placement adds nothing to the history. -/
theorem history_of_place {c c' : Case} {stepId : Option String}
    (h : c.place d stepId = .ok c') : c'.history = c.history := by
  obtain ⟨n, -, rfl⟩ := place_eq_ok.mp h
  rfl

/-- A case that was opened in a document. -/
def OpenedIn (d : Document) (c : Case) : Prop :=
  ∃ o now ids ids', opened d o now ids = (.ok c, ids')

/-- A case is opened at the first start, as a new one of which nothing is recorded. -/
theorem OpenedIn.fresh {c : Case} (h : c.OpenedIn d) :
    (∃ start ∈ d.nodes, d.starts.head? = some start ∧ start.type = .start ∧
      c.currentStep = some start.id) ∧ c.status = .new ∧ c.history = [] ∧ c.formData = [] := by
  obtain ⟨o, now, ids, ids', h⟩ := h
  unfold opened at h
  cases hstarts : d.starts with
  | nil => simp [hstarts] at h
  | cons start rest =>
    have hstart : start ∈ d.starts := by simp [hstarts]
    simp only [Document.starts, List.mem_filter, beq_iff_eq] at hstart
    simp only [hstarts, Prod.mk.injEq, bind_eq_ok, mapError_eq_ok, Checked.toExcept_eq_ok] at h
    obtain ⟨⟨tags, -, hread⟩, -⟩ := h
    -- Status and step are given to the reader; history and form data have their defaults.
    have hfrom := readFields_eq_ok.mp hread
    exact ⟨⟨start, hstart.1, rfl, hstart.2, (Checked.ok.inj hfrom.currentStep).symm⟩,
      (Checked.ok.inj hfrom.status).symm, (Checked.ok.inj hfrom.history).symm,
      (Checked.ok.inj hfrom.formData).symm⟩

end Case

end CaseFlow
