import CaseFlow.Proofs.Case.Run
import CaseFlow.Proofs.Form.Accepted

/-!
# What a completion is refused for

A completion of a step gives a case back or is refused for one of nine causes (`Rules.Refused`), and
there is no third way for it to end (`Rules.run_keeps_or_refuses`). Each cause is one check that
fails where all checks before it have passed, so the causes say exactly when a completion is
refused, and with which error (`Rules.complete_eq_error`).

On its way a completion looks up what the checks before have made sure of: the coercion for the kind
of a field, the node of the next step, and a step and a user for the entry in the history. A
completion in which each of these look-ups may come up empty (`Rules.complete?`) never does so.
-/

namespace CaseFlow

variable {lookup : Lookup} {d : Document} {n : Node} {strict : Bool} {e : Error}

/-! ## The search for the next step -/

namespace Document

/-- A step is refused exactly if it is not in the document. -/
theorem requireStep_eq_error {stepId : Option String} :
    d.requireStep stepId = .error e ↔ stepId.bind d.node? = none ∧ e = .unknownStep stepId := by
  unfold requireStep
  cases stepId.bind d.node? <;> simp [eq_comm]

/-- No target is settled where no edge leads out, or where one of several has to be chosen and none
is. -/
theorem pickTarget_eq_error {stepId : String} {choice : Option String} {out : List Edge} :
    pickTarget strict stepId choice out = .error e ↔
      (out = [] ∧ e = .deadEnd stepId) ∨
        (strict = true ∧ 1 < out.length ∧ chosen? out choice = none ∧
          e = .ambiguous stepId (out.map (·.target))) := by
  -- One way out needs no choice, so only none and several are refused.
  match out with
  | [] => simp [pickTarget, eq_comm]
  | [_] => simp [pickTarget]
  | x :: y :: rest =>
    rw [pickTarget]
    cases chosen? (x :: y :: rest) choice with
    | some t => simp
    | none => cases strict <;> simp [eq_comm]

/-- A search that starts at a step of the document fails where no target is settled, or where the
target is no step. -/
theorem nextStep_eq_error {choice : Option String} (hn : d.node? n.id = some n) :
    d.nextStep strict (some n.id) choice = .error e ↔
      pickTarget strict n.id choice (d.outgoing n.id) = .error e ∨
        ∃ t, pickTarget strict n.id choice (d.outgoing n.id) = .ok t ∧ d.node? t = none ∧
          e = .unknownStep (some t) := by
  have hstep : d.requireStep (some n.id) = .ok n := requireStep_eq_ok.mpr hn
  rw [nextStep, hstep, ok_bind]
  cases pickTarget strict n.id choice (d.outgoing n.id) with
  | error e' => simp
  | ok t => simp [requireStep_eq_error]

end Document

/-! ## The gate -/

/-- A user is refused at a step if nobody knows them, or if it is one of another user's own. -/
theorem authorize_eq_error {userId : Option String} :
    authorize lookup n userId = .error e ↔
      ((∀ id, userId = some id → id ≠ "" → lookup id = none) ∧
          e = .unknownActor userId n.label n.id) ∨
        ∃ id user, userId = some id ∧ id ≠ "" ∧ lookup id = some user ∧ n.isGated = true ∧
          n.assignee ≠ .text user.id ∧ e = .notAssigned n.label n.id user.id n.assignee := by
  -- An empty id is looked up for nobody.
  have hfound {user : User} : (userId.filter fun u => !u.isEmpty).bind lookup = some user ↔
      ∃ id, userId = some id ∧ id ≠ "" ∧ lookup id = some user := by
    simp [Option.bind_eq_some_iff, Option.filter_eq_some_iff, and_assoc]
  -- Either nobody is found, which refuses everybody, or a user is, who may be another than the
  -- assignee.
  unfold authorize
  cases huser : (userId.filter fun u => !u.isEmpty).bind lookup with
  | none =>
    have hnobody : ∀ id, userId = some id → id ≠ "" → lookup id = none := by
      intro id hid hne
      by_contra hsome
      obtain ⟨user, hknown⟩ := Option.ne_none_iff_exists'.mp hsome
      rw [hfound.mpr ⟨id, hid, hne, hknown⟩] at huser
      cases huser
    constructor
    · intro h
      exact .inl ⟨hnobody, (Except.error.inj h).symm⟩
    · rintro (⟨-, rfl⟩ | ⟨id, user, hid, hne, hknown, -⟩)
      · rfl
      · rw [hnobody id hid hne] at hknown
        cases hknown
  | some user =>
    obtain ⟨id, hid, hne, hknown⟩ := hfound.mp huser
    dsimp only
    constructor
    · intro h
      split at h
      · next hother =>
        simp only [Bool.and_eq_true, bne_iff_ne, ne_eq, Value.text?_eq_some] at hother
        exact .inr ⟨id, user, hid, hne, hknown, hother.1, hother.2, (Except.error.inj h).symm⟩
      · cases h
    · rintro (⟨hnobody, -⟩ | ⟨id', user', hid', -, hknown', hgated, hother, rfl⟩)
      · rw [hnobody id hid hne] at hknown
        cases hknown
      · -- Only one user acts, so it is they to whom the step is not assigned.
        obtain rfl := Option.some.inj (hid.symm.trans hid')
        obtain rfl := Option.some.inj (hknown.symm.trans hknown')
        rw [if_pos]
        simp only [hgated, Bool.true_and, bne_iff_ne, ne_eq, Value.text?_eq_some]
        exact hother

/-- A step refuses values only as not valid. -/
theorem Node.kind_of_answers {data submitted : Fields}
    (h : n.answers data submitted = .error e) : e.kind = .validation := by
  rw [answers_eq_collect] at h
  exact Submission.kind_of_collect h

namespace Rules

variable {r : Rules} {c c' : Case} {q : Completion} {now : Timestamp}

/-- The case sits at step `n`, and this is the step that the user means. -/
structure Meets (d : Document) (c : Case) (q : Completion) (n : Node) : Prop where
  /-- The user knows where the case is. -/
  asked : c.currentStep = q.stepId
  /-- The step exists. -/
  found : q.stepId.bind d.node? = some n

/-- What a completion is refused for before the form is looked at, in the order of the checks. -/
inductive Barred (r : Rules) (d : Document) (c : Case) (q : Completion) : Error → Prop
  /-- The case is not where the user believes it to be. -/
  | stale (h : c.currentStep ≠ q.stepId) :
      Barred r d c q (.staleStep c.id c.currentStep q.stepId)
  /-- The case is at no step of the document. -/
  | unknownStep (h : c.currentStep = q.stepId) (hnone : q.stepId.bind d.node? = none) :
      Barred r d c q (.unknownStep q.stepId)
  /-- The step is final. -/
  | closed {n : Node} (hn : Meets d c q n) (hfinal : n.type = .finish) :
      Barred r d c q (.caseClosed c.id n.id none)
  /-- Nobody acts, or a user whom nobody knows. -/
  | unknownActor {n : Node} (hn : Meets d c q n) (hfinal : n.type ≠ .finish)
      (h : ∀ id, q.userId = some id → id ≠ "" → r.lookup id = none) :
      Barred r d c q (.unknownActor q.userId n.label n.id)
  /-- The step is another user's own. -/
  | notAssigned {n : Node} {id : String} {user : User} (hn : Meets d c q n)
      (hfinal : n.type ≠ .finish) (hid : q.userId = some id) (hne : id ≠ "")
      (hknown : r.lookup id = some user) (hgated : n.isGated = true)
      (hother : n.assignee ≠ .text user.id) :
      Barred r d c q (.notAssigned n.label n.id user.id n.assignee)

/-- The gate is shut for these causes and no others. -/
theorem gate_eq_error : r.gate c d q = .error e ↔ r.Barred d c q e := by
  constructor
  · intro h
    -- The checks come in this order: the step, its node, the end, and the user.
    by_cases hasked : c.currentStep = q.stepId
    · cases hfound : q.stepId.bind d.node? with
      | none =>
        have hnone := Document.requireStep_eq_error.mpr ⟨hfound, rfl⟩
        simp only [gate, hasked, bne_self_eq_false, Bool.false_eq_true, ↓reduceIte, hnone,
          error_bind] at h
        obtain rfl := Except.error.inj h
        exact .unknownStep hasked hfound
      | some n =>
        by_cases hfinal : n.type = .finish
        · rw [gate_of_final hasked hfound hfinal] at h
          obtain rfl := Except.error.inj h
          exact .closed ⟨hasked, hfound⟩ hfinal
        · have hstep : d.requireStep q.stepId = .ok n := Document.requireStep_eq_ok.mpr hfound
          -- The user is looked at last, and refused for being unknown or somebody else.
          cases huser : authorize r.lookup n q.userId with
          | ok user =>
            rw [gate_eq_ok.mpr ⟨hasked, hfound, hfinal, user, huser⟩] at h
            cases h
          | error e' =>
            simp only [gate, hasked, bne_self_eq_false, Bool.false_eq_true, ↓reduceIte, hstep,
              ok_bind, hfinal, beq_iff_eq, huser, error_bind] at h
            obtain rfl := Except.error.inj h
            obtain ⟨hnobody, rfl⟩ | ⟨id, user, hid, hne, hknown, hgated, hother, rfl⟩ :=
              authorize_eq_error.mp huser
            · exact .unknownActor ⟨hasked, hfound⟩ hfinal hnobody
            · exact .notAssigned ⟨hasked, hfound⟩ hfinal hid hne hknown hgated hother
    · rw [gate_of_stale hasked] at h
      obtain rfl := Except.error.inj h
      exact .stale hasked
  · intro h
    -- A step that is not final is completed by whoever is authorized.
    have hrefused {n : Node} (hn : Meets d c q n) (hfinal : n.type ≠ .finish)
        (huser : authorize r.lookup n q.userId = .error e) : r.gate c d q = .error e := by
      have hstep : d.requireStep q.stepId = .ok n := Document.requireStep_eq_ok.mpr hn.found
      simp [gate, hn.asked, hstep, hfinal, huser]
    cases h with
    | stale h => exact gate_of_stale h
    | unknownStep h hnone =>
      simp [gate, h, Document.requireStep_eq_error.mpr ⟨hnone, rfl⟩]
    | closed hn hfinal => exact gate_of_final hn.asked hn.found hfinal
    | unknownActor hn hfinal h =>
      exact hrefused hn hfinal (authorize_eq_error.mpr (.inl ⟨h, rfl⟩))
    | notAssigned hn hfinal hid hne hknown hgated hother =>
      exact hrefused hn hfinal
        (authorize_eq_error.mpr (.inr ⟨_, _, hid, hne, hknown, hgated, hother, rfl⟩))

/-- At the gate a completion is refused as stale, for a step that does not exist, as one of a
closed case, or for want of permission. -/
theorem kind_of_gate (h : r.gate c d q = .error e) :
    e.kind ∈ [.stale, .reference, .closed, .stepPermission] := by
  cases gate_eq_error.mp h <;> simp

/-! ## The completion -/

/-- What a completion is refused for, in the order of the checks. -/
inductive Refused (r : Rules) (d : Document) (c : Case) (q : Completion) : Error → Prop
  /-- It does not get through the gate. -/
  | barred {e : Error} (h : r.Barred d c q e) : Refused r d c q e
  /-- The form of the step does not accept the values. -/
  | answer {n : Node} {e : Error} (hgate : r.gate c d q = .ok n)
      (h : n.answers c.formData q.values = .error e) : Refused r d c q e
  /-- No edge leads out of the step. -/
  | deadEnd {n : Node} {vs : Fields} (hgate : r.gate c d q = .ok n)
      (hanswers : n.answers c.formData q.values = .ok vs) (h : d.outgoing n.id = []) :
      Refused r d c q (.deadEnd n.id)
  /-- Several edges lead out, one of them has to be chosen, and none is. -/
  | ambiguous {n : Node} {vs : Fields} (hgate : r.gate c d q = .ok n)
      (hanswers : n.answers c.formData q.values = .ok vs) (hstrict : r.strict = true)
      (hmany : 1 < (d.outgoing n.id).length)
      (h : Document.chosen? (d.outgoing n.id) q.choice = none) :
      Refused r d c q (.ambiguous n.id ((d.outgoing n.id).map (·.target)))
  /-- The edge that is followed leads to no step. -/
  | unknownTarget {n : Node} {vs : Fields} {t : String} (hgate : r.gate c d q = .ok n)
      (hanswers : n.answers c.formData q.values = .ok vs)
      (htarget : Document.pickTarget r.strict n.id q.choice (d.outgoing n.id) = .ok t)
      (h : d.node? t = none) : Refused r d c q (.unknownStep (some t))

/-- Behind the gate, the form decides first. -/
theorem complete_of_answers_error (hgate : r.gate c d q = .ok n)
    (h : n.answers c.formData q.values = .error e) :
    r.complete c d q now = .error (.refused e) := by
  rw [complete, prepare, hgate, ok_bind, recorded_eq_map, h]
  rfl

/-- Behind the gate and the form, the search for the next step decides. -/
theorem complete_of_answers (hgate : r.gate c d q = .ok n) {vs : Fields}
    (h : n.answers c.formData q.values = .ok vs) (now : Timestamp) :
    d.node? n.id = some n ∧ q.stepId = some n.id ∧
      (∀ next, d.nextStep r.strict (some n.id) q.choice = .ok next →
        ∃ userId, q.userId = some userId ∧
          r.complete c d q now = .ok (c.advanced r.lookup n next userId vs now)) ∧
      ∀ e, d.nextStep r.strict (some n.id) q.choice = .error e →
        r.complete c d q now = .error (.refused e) := by
  obtain ⟨hsits, hfound, hfinal, user, huser⟩ := gate_eq_ok.mp hgate
  obtain ⟨stepId, hasked, hnode⟩ := Option.bind_eq_some_iff.mp hfound
  obtain ⟨-, rfl⟩ := Document.mem_of_node? hnode
  refine ⟨hnode, hasked, fun next hnext => ?_, fun e he => ?_⟩
  · obtain ⟨userId, hacting, hne, hknown, hadmitted⟩ := authorize_eq_ok.mp huser
    refine ⟨userId, hacting, complete_eq_ok.mpr ⟨n, next, userId, user, vs, ?_, rfl⟩⟩
    exact ⟨hsits.trans hasked, hasked, hnode, hfinal, hacting, hne, hknown, hadmitted, h, hnext⟩
  · -- The refusal is that of the last step, after the gate and the form let the attempt through.
    have hstep : d.requireStep (some n.id) = .ok n := Document.requireStep_eq_ok.mpr hnode
    have hrecorded : recorded c n q.values = .ok { c with formData := c.formData.merge vs } :=
      recorded_eq_ok.mpr ⟨vs, h, rfl⟩
    simp [complete, prepare, hgate, hrecorded, Except.mapError, Case.moveOn, hasked, hstep, hfinal,
      he]

/-- A completion fails for these causes and no others, and always as refused. -/
theorem complete_eq_error {f : Failure} :
    r.complete c d q now = .error f ↔ ∃ e, f = .refused e ∧ r.Refused d c q e := by
  constructor
  · intro h
    -- The refusal is looked for at the gate, in the form, and in the search, in this order.
    cases hgate : r.gate c d q with
    | error e =>
      rw [complete_of_gate_error hgate] at h
      exact ⟨e, (Except.error.inj h).symm, .barred (gate_eq_error.mp hgate)⟩
    | ok n =>
      cases hanswers : n.answers c.formData q.values with
      | error e =>
        rw [complete_of_answers_error hgate hanswers] at h
        exact ⟨e, (Except.error.inj h).symm, .answer hgate hanswers⟩
      | ok vs =>
        -- Once the form is answered, the completion ends as the search for the next step does.
        obtain ⟨hn, -, hok, herror⟩ := complete_of_answers hgate hanswers now
        cases hnext : d.nextStep r.strict (some n.id) q.choice with
        | ok next =>
          obtain ⟨userId, -, hcomplete⟩ := hok next hnext
          rw [hcomplete] at h
          cases h
        | error e =>
          rw [herror e hnext] at h
          refine ⟨e, (Except.error.inj h).symm, ?_⟩
          obtain hpick | ⟨t, hpick, hnone, rfl⟩ := (Document.nextStep_eq_error hn).mp hnext
          · obtain ⟨hout, rfl⟩ | ⟨hstrict, hmany, hchosen, rfl⟩ :=
              Document.pickTarget_eq_error.mp hpick
            · exact .deadEnd hgate hanswers hout
            · exact .ambiguous hgate hanswers hstrict hmany hchosen
          · exact .unknownTarget hgate hanswers hpick hnone
  · rintro ⟨e, rfl, h⟩
    -- Behind the form, what the search is refused for is what the completion is refused for.
    have hsearch {n : Node} {vs : Fields} (hgate : r.gate c d q = .ok n)
        (hanswers : n.answers c.formData q.values = .ok vs)
        (h : Document.pickTarget r.strict n.id q.choice (d.outgoing n.id) = .error e ∨
          ∃ t, Document.pickTarget r.strict n.id q.choice (d.outgoing n.id) = .ok t ∧
            d.node? t = none ∧ e = .unknownStep (some t)) :
        r.complete c d q now = .error (.refused e) := by
      obtain ⟨hn, -, -, herror⟩ := complete_of_answers hgate hanswers now
      exact herror e ((Document.nextStep_eq_error hn).mpr h)
    cases h with
    | barred h => exact complete_of_gate_error (gate_eq_error.mpr h)
    | answer hgate h => exact complete_of_answers_error hgate h
    | deadEnd hgate hanswers h =>
      exact hsearch hgate hanswers (.inl (Document.pickTarget_eq_error.mpr (.inl ⟨h, rfl⟩)))
    | ambiguous hgate hanswers hstrict hmany h =>
      exact hsearch hgate hanswers
        (.inl (Document.pickTarget_eq_error.mpr (.inr ⟨hstrict, hmany, h, rfl⟩)))
    | unknownTarget hgate hanswers htarget h =>
      exact hsearch hgate hanswers (.inr ⟨_, htarget, h, rfl⟩)

/-- Behind the gate a completion is refused for its values or for want of a next step. -/
theorem Refused.kind_of_gate_ok (h : r.Refused d c q e) (hgate : r.gate c d q = .ok n) :
    e.kind ∈ [.validation, .reference, .deadEnd, .ambiguous] := by
  cases h with
  | barred h =>
    rw [gate_eq_error.mpr h] at hgate
    cases hgate
  | answer _ h => simp [Node.kind_of_answers h]
  | deadEnd => simp
  | ambiguous => simp
  | unknownTarget => simp

/-- A refused completion is stale, or one of an unknown step, of a closed case, of a user who may
not, of values that are not valid, of a dead end, or of a choice that is missing. -/
private theorem Refused.kind_mem (h : r.Refused d c q e) :
    e.kind ∈ [.stale, .reference, .closed, .stepPermission, .validation, .deadEnd, .ambiguous] := by
  cases h with
  | barred h => cases h <;> simp
  | answer _ h => simp [Node.kind_of_answers h]
  | deadEnd => simp
  | ambiguous => simp
  | unknownTarget => simp

end Rules

/-! ## Look-ups that may come up empty -/

/-- The coercion that is listed for a kind of field; readonly fields record nothing, so have none.
-/
def Answer.coercion? : FieldType → Option (FormField → Value → Except Error Value)
  | .text | .textarea => some fun _ v => .ok (coerceText v)
  | .number => some coerceNumber
  | .date => some coerceDate
  | .select => some coerceSelect
  | .checkbox => some coerceCheckbox
  | .readonly => none

/-- A field that records values has a coercion. -/
private theorem Answer.coercion?_eq {f : FormField} (hf : f.isReadonly = false) (v : Value) :
    (coercion? f.type).map (fun coercion => coercion f v) = some (coerce f v) := by
  unfold coerce
  cases htype : f.type with
  | readonly => simp [FormField.isReadonly, htype] at hf
  | _ => rfl

namespace Submission

/-- The value of a field, which has to count as given where the field is required. -/
def demand (f : FormField) : Except Error Value → Except Error Value
  | .error e => .error e
  | .ok v => if f.required && !v.truthy then .error (.missingAnswer f.label f.id) else .ok v

/-- The values that a list of fields records, by the coercions that are listed for their kinds. -/
def collect? (data submitted : Fields) : Fields → List FormField → Option (Except Error Fields)
  | acc, [] => some (.ok acc)
  | acc, f :: rest =>
    if f.isReadonly then collect? data submitted acc rest
    else
      match (Answer.coercion? f.type).map fun coercion => coercion f (raw data submitted f) with
      | none => none
      | some v =>
        match demand f v with
        | .error e => some (.error e)
        | .ok v => collect? data submitted (acc.set f.id v) rest

/-- Every field that is coerced has a coercion. -/
private theorem collect?_eq {data submitted acc : Fields} {fs : List FormField} :
    collect? data submitted acc fs = some (collect data submitted acc fs) := by
  induction fs generalizing acc with
  | nil => rfl
  | cons f rest ih =>
    rw [collect?, collect]
    -- A field that is shown read-only is passed over; every other has a coercion for its type.
    by_cases hreadonly : f.isReadonly = true
    · rw [if_pos hreadonly, if_pos hreadonly, ih]
    · have hvalue : fieldValue data submitted f
          = demand f (Answer.coerce f (raw data submitted f)) := rfl
      rw [if_neg hreadonly, if_neg hreadonly, Answer.coercion?_eq (by simpa using hreadonly),
        hvalue]
      dsimp only
      cases hdemand : demand f (Answer.coerce f (raw data submitted f)) with
      | error e => rfl
      | ok v => exact ih

end Submission

/-- Moves a case to a step that is known by its id. The node of the step has to be found, and the
history has to get an entry. -/
def Case.moveTo? (c : Case) (d : Document) (lookup : Lookup) (q : Completion) (nextId : String)
    (now : Timestamp) : Option Case :=
  match d.node? nextId, eventFor q.stepId q.userId now with
  | some next, .ok event => some { c with
      currentStep := some nextId
      history := c.history ++ [event]
      status := if next.type = .finish then .closed else c.status
      assigneeId := c.nextAssignee (some lookup) next }
  | _, _ => none

namespace Rules

variable {r : Rules} {c c' : Case} {q : Completion} {now : Timestamp}

/-- A completion in which look-ups may come up empty: that of the coercion for a field, that of the
node of the next step, and that of the step and the user for the entry in the history. -/
def complete? (r : Rules) (c : Case) (d : Document) (q : Completion) (now : Timestamp) :
    Option (Except Failure Case) :=
  match r.gate c d q with
  | .error e => some (.error (.refused e))
  | .ok n =>
    match Submission.collect? c.formData q.values [] n.fields with
    | none => none
    | some (.error e) => some (.error (.refused e))
    | some (.ok vs) =>
      match (d.nextStep r.strict q.stepId q.choice).map (·.id) with
      | .error e => some (.error (.refused e))
      | .ok nextId =>
        (Case.moveTo? { c with formData := c.formData.merge vs } d r.lookup q nextId now).map .ok

/-- No look-up comes up empty: the checks before have made sure of what is looked up. -/
private theorem complete?_eq : r.complete? c d q now = some (r.complete c d q now) := by
  unfold complete?
  cases hgate : r.gate c d q with
  | error e => rw [complete_of_gate_error hgate]
  | ok n =>
    dsimp only
    -- No look-up on the way comes up empty: none in the form, and none behind it.
    rw [Submission.collect?_eq, ← Node.answers_eq_collect]
    cases hanswers : n.answers c.formData q.values with
    | error e => rw [complete_of_answers_error hgate hanswers]
    | ok vs =>
      obtain ⟨hn, hstep, hok, herror⟩ := complete_of_answers hgate hanswers now
      dsimp only
      rw [hstep]
      cases hnext : d.nextStep r.strict (some n.id) q.choice with
      | error e => rw [herror e hnext]; rfl
      | ok next =>
        obtain ⟨userId, hacting, hcomplete⟩ := hok next hnext
        -- The search has found the node of the next step, under the id that it settled.
        have hfound := Document.node?_of_nextStep hnext
        rw [hcomplete]
        simp only [Except.map, Case.moveTo?, hfound, hstep, hacting, Case.eventFor_some,
          Option.map_some]
        rfl

/-- Whatever document, case, users, values and choice are given, a completion ends in one of two
ways, and no look-up that it makes comes up empty. Either it gives a case to the keeper, who sees it
once, and gives it back if the keeper takes it; or it is refused for one of the causes above, with
an error of one of seven kinds, and the keeper is not asked. -/
theorem run_keeps_or_refuses (r : Rules) (c : Case) (d : Document) (q : Completion)
    (now : Timestamp) :
    r.complete? c d q now = some (r.complete c d q now) ∧
    ((∃ c', ∀ (σ : Type) (keep : Case → σ → Except Failure Unit × σ) (s : σ),
      r.run keep c d q now s = match keep c' s with
        | (.ok (), s') =>
          (.ok c', [moveNote c.id q.stepId c'.currentStep c'.status q.userId false], s')
        | (.error f, s') => (.error f, [], s')) ∨
    ∃ e, r.Refused d c q e ∧
      e.kind ∈ [.stale, .reference, .closed, .stepPermission, .validation, .deadEnd, .ambiguous] ∧
      ∀ (σ : Type) (keep : Case → σ → Except Failure Unit × σ) (s : σ),
        r.run keep c d q now s = (.error (.refused e), [refusalNote c q.stepId e], s)) := by
  refine ⟨complete?_eq, ?_⟩
  cases hcomplete : r.complete c d q now with
  | ok c' =>
    -- The keeper is asked once, with the case that the rules give.
    refine .inl ⟨c', fun σ keep s => ?_⟩
    rw [run, hcomplete]
    rcases hkeep : keep c' s with ⟨f | ⟨⟩, s'⟩ <;> simp only [hkeep]
  | error f =>
    -- The rules themselves raise refusals only; any other failure is the keeper's.
    obtain ⟨e, rfl, hrefused⟩ := complete_eq_error.mp hcomplete
    refine .inr ⟨e, hrefused, hrefused.kind_mem, fun σ keep s => ?_⟩
    rw [run, hcomplete]
    rfl

end Rules

/-- A review is completed with a list where a grade belongs. It is refused, and the log of cases
stays empty. -/
theorem Rules.run_keeps_or_refuses_sample :
    let c : Case := { Sample.case with currentStep := some "review" }
    let t := Sample.tryAt "user-3" "review" (some "end") [("grade", .list [.null])]
    let log (c : Case) (kept : List Case) : Except Failure Unit × List Case := (.ok (), c :: kept)
    ∃ e, (t.rules Sample.lookup).Refused Sample.workflow c t.request e ∧
      ((t.rules Sample.lookup).run log c Sample.workflow t.request t.now []).1
        = .error (.refused e) ∧
      ((t.rules Sample.lookup).run log c Sample.workflow t.request t.now []).2.2 = [] := by
  intro c t log
  obtain ⟨f, hfails⟩ : ∃ f, ((t.rules Sample.lookup).run log c Sample.workflow t.request t.now []).1
      = .error f := isOk_eq_false.mp (by decide +kernel)
  obtain ⟨-, ⟨c', hrun⟩ | ⟨e, hrefused, -, hrun⟩⟩ :=
    run_keeps_or_refuses (t.rules Sample.lookup) c Sample.workflow t.request t.now
  · -- A run that the log takes would not fail.
    rw [hrun] at hfails
    cases hfails
  · rw [hrun]
    exact ⟨e, hrefused, rfl, rfl⟩

end CaseFlow
