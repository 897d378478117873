import CaseFlow.Proofs.Case.Run

/-!
# Recorded form data

The form data of a case belongs to the steps that own the fields. A field has a recorded value
exactly if its step was completed in the run, and the value is the one that the form returned when
the step was last completed (`Case.formData_recorded`).

A run is compared with its log of recordings, one for each completion. The invariant
(`Case.RecordedBy`) says what the form data must be for a given log; a completion changes both at
the same fields since no two steps of a document share a field id.
-/

namespace CaseFlow

/-- What a completion recorded. -/
structure Recording where
  /-- The step that was completed. -/
  step : Node
  /-- The values that its form returned. -/
  values : Fields

namespace Recording

variable {log : List Recording} {r s : Recording} {id : String}

/-- The recording of the last completion of a step. -/
def lastOf? (log : List Recording) (stepId : String) : Option Recording :=
  (log.filter (·.step.id == stepId)).getLast?

/-- A new recording is the last one of its step and leaves the other steps alone. -/
private theorem lastOf?_concat :
    lastOf? (log ++ [r]) id = if r.step.id = id then some r else lastOf? log id := by
  by_cases h : r.step.id = id
  · simp [lastOf?, h]
  · simp [lastOf?, h]

/-- The last recording of a step is a recording, and of that step. -/
theorem mem_of_lastOf? (h : lastOf? log id = some r) : r ∈ log ∧ r.step.id = id := by
  simpa using List.mem_of_getLast? h

/-- A step that was completed was completed for a last time. -/
theorem exists_lastOf? (h : s ∈ log) : ∃ r, lastOf? log s.step.id = some r := by
  refine Option.isSome_iff_exists.mp ?_
  rw [lastOf?, List.getLast?_isSome]
  exact List.ne_nil_of_mem (List.mem_filter.mpr ⟨h, by simp⟩)

end Recording

namespace Case

open Recording

variable {lookup : Lookup} {d : Document} {c : Case} {log : List Recording}

/-- What an attempt records: the current step and the values of its form if the attempt is a
completion that succeeds, and nothing otherwise. -/
def recording? (lookup : Lookup) (d : Document) (c : Case) : Attempt → Option Recording
  | .place _ => none
  | .complete t =>
    match c.outcome lookup d (.complete t), c.currentStep.bind d.node? with
    | .ok _, some n => (n.answers c.formData t.request.values).toOption.map fun vs => ⟨n, vs⟩
    | _, _ => none

/-- The recordings of a run, the earliest first. -/
def recordings (lookup : Lookup) (d : Document) (c : Case) : List Attempt → List Recording
  | [] => []
  | a :: as =>
    (c.recording? lookup d a).toList ++ recordings lookup d (c.attempt lookup d a) as

/-- An attempt that fails records nothing. -/
private theorem recording?_of_error {a : Attempt} {f : Failure}
    (h : c.outcome lookup d a = .error f) :
    c.recording? lookup d a = none := by
  cases a with
  | place stepId => rfl
  | complete t => simp [recording?, h]

/-- A completion records the answers of the step that it leaves. -/
theorem recording?_of_completes {t : Try} {n next : Node} {userId : String} {user : User}
    {vs : Fields} (h : (t.rules lookup).Completes d c t.request n next userId user vs) :
    c.recording? lookup d (.complete t) = some ⟨n, vs⟩ := by
  have houtcome : c.outcome lookup d (.complete t)
      = .ok (c.advanced lookup n next userId vs t.now) := Rules.complete_eq_ok.mpr
    ⟨n, next, userId, user, vs, h, rfl⟩
  simp [recording?, houtcome, h.sits, h.found, h.answered, Except.toOption]

/-- A completion gives the fields of its step their new values, and no other field. -/
theorem get?_advanced {t : Try} {n next : Node} {userId id : String} {user : User} {vs : Fields}
    (hd : d.Sound) (h : (t.rules lookup).Completes d c t.request n next userId user vs) :
    (c.advanced lookup n next userId vs t.now).formData.get? id =
      if id ∈ n.answerIds then vs.get? id else c.formData.get? id := by
  obtain ⟨hnames, hnodup, -⟩ := Node.answers_spec (hd.fields_nodup h.mem) h.answered
  have hmerge : (c.advanced lookup n next userId vs t.now).formData.get? id
      = (vs.get? id).or (c.formData.get? id) := Fields.get?_merge hnodup
  rw [hmerge]
  -- The form returns values under exactly the ids of its fields.
  split
  · next hid =>
    rw [← hnames, ← Fields.has_iff_mem_names, Fields.has_iff_isSome] at hid
    obtain ⟨v, hv⟩ := Option.isSome_iff_exists.mp hid
    simp [hv]
  · next hid =>
    rw [← hnames, ← Fields.get?_eq_none_iff] at hid
    simp [hid]

/-- The form data and the history of a case are those of a log. -/
structure RecordedBy (d : Document) (c : Case) (log : List Recording) : Prop where
  /-- A field has the value that its step returned last. -/
  latest : ∀ n ∈ d.nodes, ∀ id ∈ n.answerIds,
    c.formData.get? id = (lastOf? log n.id).bind fun r => r.values.get? id
  /-- Whatever is recorded belongs to a step. -/
  owned : ∀ id, c.formData.has id = true → ∃ n ∈ d.nodes, id ∈ n.answerIds
  /-- Every step in the log belongs to the document. -/
  step_mem : ∀ r ∈ log, r.step ∈ d.nodes
  /-- Every recording gives the fields of its step, the required ones with a value that counts. -/
  answered : ∀ r ∈ log, ∀ f ∈ r.step.fields, f.isReadonly = false →
    ∃ v, r.values.get? f.id = some v ∧ (f.required = true → v.truthy = true)
  /-- The history names the steps of the log. -/
  history_eq : c.history.map (·.stepId) = log.map (·.step.id)

/-- Nothing is recorded of an opened case. -/
private theorem OpenedIn.recordedBy (h : c.OpenedIn d) : RecordedBy d c [] := by
  obtain ⟨-, -, hhistory, hdata⟩ := h.fresh
  refine ⟨fun n _ id _ => ?_, fun id hid => ?_, by simp, by simp, by simp [hhistory]⟩
  · simp [hdata, lastOf?]
  · simp [hdata, Fields.has] at hid

namespace RecordedBy

/-- A completion records the values of its step and leaves all other fields as they were. -/
theorem advanced {t : Try} {n next : Node} {userId : String} {user : User} {vs : Fields}
    (hd : d.Sound) (hc : RecordedBy d c log)
    (h : (t.rules lookup).Completes d c t.request n next userId user vs) :
    RecordedBy d (c.advanced lookup n next userId vs t.now) (log ++ [⟨n, vs⟩]) := by
  -- What is under a field id after the move was recorded by the move, or was there before.
  obtain ⟨-, -, hvalue⟩ := Node.answers_spec (hd.fields_nodup h.mem) h.answered
  refine ⟨fun m hm id hid => ?_, fun id hid => ?_, fun r hr => ?_,
    fun r hr f hf hreadonly => ?_, ?_⟩
  · rw [get?_advanced hd h, lastOf?_concat]
    by_cases hmn : n.id = m.id
    · obtain rfl := hd.eq_of_id h.mem hm hmn
      simp [hid]
    · -- The field belongs to `m` alone, so the completion of `n` leaves it as it was.
      have hforeign : id ∉ n.answerIds := fun hid' =>
        hmn (congrArg Node.id (hd.eq_of_field h.mem hm (Node.mem_fields_of_mem_answerIds hid')
          (Node.mem_fields_of_mem_answerIds hid)))
      simp [hforeign, hmn, hc.latest m hm id hid]
  · -- A name that has a value now belongs to a step that was completed, be it the last one.
    by_cases hn : id ∈ n.answerIds
    · exact ⟨n, h.mem, hn⟩
    · refine hc.owned id ?_
      simpa [Fields.has_iff_isSome, get?_advanced hd h, hn] using hid
  · rcases List.mem_append.mp hr with hr | hr
    · exact hc.step_mem r hr
    · exact List.mem_singleton.mp hr ▸ h.mem
  · rcases List.mem_append.mp hr with hr | hr
    · exact hc.answered r hr f hf hreadonly
    · obtain rfl := List.mem_singleton.mp hr
      obtain ⟨v, hv, hgiven⟩ := hvalue f hf hreadonly
      exact ⟨v, hv, Submission.truthy_of_required hgiven⟩
  · simp [Case.advanced, hc.history_eq]

/-- An attempt changes form data and log alike. -/
theorem attempt (hd : d.Sound) (hc : RecordedBy d c log) (a : Attempt) :
    RecordedBy d (c.attempt lookup d a) (log ++ (c.recording? lookup d a).toList) := by
  have hpass : Passes lookup d c a (c.attempt lookup d a) := passes_attempt c a
  generalize c.attempt lookup d a = c' at hpass ⊢
  cases hpass with
  | refused h => simpa [recording?_of_error h] using hc
  | completed h => simpa [recording?_of_completes h] using hc.advanced hd h
  | placed =>
    -- A placement touches neither form data nor history.
    simp only [recording?, Option.toList_none, List.append_nil]
    exact ⟨hc.latest, hc.owned, hc.step_mem, hc.answered, hc.history_eq⟩

/-- A run changes form data and log alike. -/
theorem attempts (hd : d.Sound) (hc : RecordedBy d c log) (as : List Attempt) :
    RecordedBy d (c.attempts lookup d as) (log ++ c.recordings lookup d as) := by
  induction as generalizing c log with
  | nil => simpa [recordings, Case.attempts] using hc
  | cons a as ih =>
    rw [recordings, ← List.append_assoc]
    exact ih (hc.attempt hd a)

/-- The last recording of a step that was completed gives the values of all its fields. -/
theorem get?_of_lastOf? {n : Node} {r : Recording} {id : String} (hd : d.Sound)
    (hc : RecordedBy d c log) (hn : n ∈ d.nodes) (hr : lastOf? log n.id = some r)
    (hid : id ∈ n.answerIds) : r.step = n ∧ ∃ v, r.values.get? id = some v ∧
      c.formData.get? id = some v := by
  obtain ⟨hmem, hstep⟩ := mem_of_lastOf? hr
  obtain rfl := hd.eq_of_id (hc.step_mem r hmem) hn hstep
  obtain ⟨f, hf, hreadonly, rfl⟩ := Node.mem_answerIds.mp hid
  obtain ⟨v, hv, -⟩ := hc.answered r hmem f hf hreadonly
  exact ⟨rfl, v, hv, by simp [hc.latest _ hn _ hid, hr, hv]⟩

/-- A required field of a step that was completed has a value that counts as given. -/
theorem truthy_of_required {s : Recording} {f : FormField} (hd : d.Sound)
    (hc : RecordedBy d c log) (hs : s ∈ log) (hf : f ∈ s.step.fields)
    (hreadonly : f.isReadonly = false) (hrequired : f.required = true) :
    ∃ v, c.formData.get? f.id = some v ∧ v.truthy = true := by
  -- What counts is the last completion of the step, which may be a later one than `s`.
  obtain ⟨r, hr⟩ := exists_lastOf? hs
  have hid : f.id ∈ s.step.answerIds := Node.mem_answerIds.mpr ⟨f, hf, hreadonly, rfl⟩
  obtain ⟨hstep, v, hv, hdata⟩ := hc.get?_of_lastOf? hd (hc.step_mem s hs) hr hid
  obtain ⟨w, hw, htruthy⟩ := hc.answered r (mem_of_lastOf? hr).1 f (hstep ▸ hf) hreadonly
  rw [hv, Option.some.injEq] at hw
  exact ⟨v, hdata, hw ▸ htruthy hrequired⟩

/-- A field has a recorded value exactly if its step was completed. -/
private theorem has_iff (hd : d.Sound) (hc : RecordedBy d c log) (id : String) :
    c.formData.has id = true ↔ ∃ n ∈ d.nodes, id ∈ n.answerIds ∧ ∃ r ∈ log, r.step = n := by
  constructor
  · intro hid
    obtain ⟨n, hn, hown⟩ := hc.owned id hid
    -- Its owner was completed, since otherwise nothing would be found.
    rw [Fields.has_iff_isSome, hc.latest n hn id hown] at hid
    cases hr : lastOf? log n.id with
    | none => simp [hr] at hid
    | some r =>
      obtain ⟨hmem, hstep⟩ := mem_of_lastOf? hr
      exact ⟨n, hn, hown, r, hmem, hd.eq_of_id (hc.step_mem r hmem) hn hstep⟩
  · rintro ⟨n, hn, hown, r, hr, rfl⟩
    obtain ⟨r', hr'⟩ := exists_lastOf? hr
    obtain ⟨-, v, -, hv⟩ := hc.get?_of_lastOf? hd hn hr' hown
    simp [Fields.has_iff_isSome, hv]

end RecordedBy

/-- Only a completion of the step that owns a field changes what is recorded for it. -/
private theorem recording?_of_get?_ne {a : Attempt} {id : String} (hd : d.Sound)
    (h : (c.attempt lookup d a).formData.get? id ≠ c.formData.get? id) :
    ∃ r, c.recording? lookup d a = some r ∧ id ∈ r.step.answerIds := by
  have hpass : Passes lookup d c a (c.attempt lookup d a) := passes_attempt c a
  generalize c.attempt lookup d a = c' at hpass h
  -- A refusal and a placement leave the values alone.
  cases hpass with
  | refused => exact absurd rfl h
  | placed => exact absurd rfl h
  | completed hcompletes =>
    refine ⟨_, recording?_of_completes hcompletes, ?_⟩
    by_contra hid
    rw [get?_advanced hd hcompletes, if_neg hid] at h
    exact h rfl

/-- After any run of completions and placements, whose recordings are one for each entry of the
history, a field has a recorded value exactly if its step was completed, and the value is the one
that the form returned when the step was last completed. Only a completion of that step changes
it, and the required fields of every step in the history keep values that count as given, whatever
is tried later. -/
theorem formData_recorded (hd : d.Accepted) (hc : c.OpenedIn d) (as : List Attempt) :
    let c' := c.attempts lookup d as
    let log := c.recordings lookup d as
    c'.history.map (·.stepId) = log.map (·.step.id) ∧
    (∀ id, c'.formData.has id = true ↔
      ∃ n ∈ d.nodes, id ∈ n.answerIds ∧ ∃ r ∈ log, r.step = n) ∧
    (∀ n ∈ d.nodes, ∀ r, lastOf? log n.id = some r → ∀ id ∈ n.answerIds,
      r.step = n ∧ ∃ v, r.values.get? id = some v ∧ c'.formData.get? id = some v) ∧
    (∀ a id, (c'.attempt lookup d a).formData.get? id ≠ c'.formData.get? id →
      ∃ r, c'.recording? lookup d a = some r ∧ id ∈ r.step.answerIds) ∧
    ∀ e ∈ c'.history, ∃ n ∈ d.nodes, n.id = e.stepId ∧
      ∀ f ∈ n.fields, f.isReadonly = false → f.required = true → ∀ later,
        ∃ v, (c'.attempts lookup d later).formData.get? f.id = some v ∧ v.truthy = true := by
  intro c' log
  -- What is recorded is kept in step with the log, from the opening on and through every attempt.
  have hlog : RecordedBy d c' log := by
    simpa using (hc.recordedBy).attempts hd.sound as
  refine ⟨hlog.history_eq, hlog.has_iff hd.sound,
    fun n hn r hr id hid => hlog.get?_of_lastOf? hd.sound hn hr hid,
    fun a id => recording?_of_get?_ne hd.sound, fun e he => ?_⟩
  -- Every entry of the history stands for one of the recordings.
  obtain ⟨r, hr, hstep⟩ : ∃ r ∈ log, r.step.id = e.stepId := by
    have hmem : e.stepId ∈ c'.history.map (·.stepId) := List.mem_map_of_mem he
    rw [hlog.history_eq] at hmem
    exact List.mem_map.mp hmem
  refine ⟨r.step, hlog.step_mem r hr, hstep, fun f hf hreadonly hrequired later => ?_⟩
  exact (hlog.attempts hd.sound later).truthy_of_required hd.sound
    (List.mem_append_left _ hr) hf hreadonly hrequired

/-- In the sample run the notes are those of the third draft, written after a placement. -/
theorem formData_recorded_sample :
    (Sample.case.attempts Sample.lookup Sample.workflow Sample.attempts).formData
        = [("notes", .text "three"), ("grade", .text "B")] ∧
      ∀ e ∈ (Sample.case.attempts Sample.lookup Sample.workflow Sample.attempts).history,
        ∃ n ∈ Sample.workflow.nodes, n.id = e.stepId ∧
          ∀ f ∈ n.fields, f.isReadonly = false → f.required = true → ∀ later, ∃ v,
            ((Sample.case.attempts Sample.lookup Sample.workflow Sample.attempts).attempts
              Sample.lookup Sample.workflow later).formData.get? f.id = some v ∧
            v.truthy = true :=
  ⟨rfl, (formData_recorded Sample.accepted_workflow Sample.openedIn_workflow
    Sample.attempts).2.2.2.2⟩

end Case

end CaseFlow
