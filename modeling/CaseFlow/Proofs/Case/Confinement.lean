import CaseFlow.Proofs.Case.Permission
import CaseFlow.Proofs.Form.Resubmitted

/-!
# What a submission can touch

A step owns the fields of its form that record values. Submissions that agree on these fields have
the same outcome, whatever else they hold, and no other recorded value changes
(`Rules.run_confined`). So nobody who completes one step can write to the fields of another, be it
by their ids or by those of the readonly fields that show them.

The submitted values are read in one place, where a field that records values looks under its own id
(`Submission.raw`). From there the agreement is carried outwards: through the values of the step,
the case just before it moves (`Rules.prepare_congr`), and the completion.
-/

namespace CaseFlow

variable {data given given' vs : Fields}

/-- Values agree on a list of names when each of the names has the same value in both, or none in
either. -/
def Fields.AgreeOn (names : List String) (fs gs : Fields) : Prop :=
  ∀ name ∈ names, fs.get? name = gs.get? name

/-- A field looks among the submitted values under its own id only. -/
private theorem Submission.fieldValue_congr {f : FormField}
    (h : given.get? f.id = given'.get? f.id) :
    fieldValue data given f = fieldValue data given' f := by
  rw [fieldValue, fieldValue, raw, raw, h]

namespace Node

variable {n : Node}

/-- What a step returns depends on the values that are submitted for its own fields. -/
private theorem answers_congr (h : given.AgreeOn n.answerIds given') :
    n.answers data given = n.answers data given' := by
  rw [answers_eq_collect, answers_eq_collect]
  refine Submission.collect_congr fun f hf => Submission.fieldValue_congr (h f.id ?_)
  exact List.mem_map_of_mem hf

/-- A step returns values for its own fields, and at most one for each. -/
private theorem names_of_answers (h : n.answers data given = .ok vs) :
    vs.names.Nodup ∧ ∀ id ∈ vs.names, id ∈ n.answerIds := by
  unfold answers at h
  -- A node without a form has no answers to return.
  cases hform : n.form with
  | none =>
    rw [hform] at h
    obtain rfl := Except.ok.inj h
    exact ⟨List.nodup_nil, fun id hid => by cases hid⟩
  | some form =>
    rw [hform] at h
    refine ⟨Form.nodup_of_submit h, fun id hid => ?_⟩
    rw [Form.names_of_submit h, List.mem_eraseDups] at hid
    have hfields : n.fields = form.fields := by simp [fields, hform]
    rwa [answerIds, hfields]

end Node

namespace Rules

variable {r : Rules} {c c' : Case} {d : Document} {n : Node} {q : Completion} {now : Timestamp}

/-- What is recorded depends on the answers to the fields of the step alone. -/
private theorem recorded_congr (h : given.AgreeOn n.answerIds given') :
    recorded c n given = recorded c n given' := by
  rw [recorded_eq_map, recorded_eq_map, Node.answers_congr h]

/-- Up to the move, a completion depends on the values submitted for the fields of the current
step. -/
theorem prepare_congr (hn : c.currentStep.bind d.node? = some n)
    (h : given.AgreeOn n.answerIds q.values) :
    r.prepare c d { q with values := given } = r.prepare c d q := by
  have hsame : r.gate c d { q with values := given } = r.gate c d q := gate_congr rfl rfl
  rw [prepare, prepare, hsame]
  cases hgate : r.gate c d q with
  | error e => rfl
  | ok m =>
    -- The gate lets pass at the current step only.
    obtain ⟨hsits, hm, -⟩ := gate_eq_ok.mp hgate
    rw [← hsits, hn] at hm
    obtain rfl := Option.some.inj hm
    exact recorded_congr h

/-- A completion depends on the answers to the fields of the step alone. -/
private theorem complete_congr (hn : c.currentStep.bind d.node? = some n)
    (h : given.AgreeOn n.answerIds q.values) :
    r.complete c d { q with values := given } now = r.complete c d q now := by
  rw [complete, complete, prepare_congr hn h]

/-- A completion records values for the fields of the current step and leaves the others. -/
private theorem get?_complete (hn : c.currentStep.bind d.node? = some n)
    (h : r.complete c d q now = .ok c') {id : String} (hid : id ∉ n.answerIds) :
    c'.formData.get? id = c.formData.get? id := by
  obtain ⟨m, next, userId, user, vs, hcompletes, rfl⟩ := complete_eq_ok.mp h
  rw [hcompletes.sits, Option.bind_some, hcompletes.found] at hn
  obtain rfl := Option.some.inj hn
  obtain ⟨hnodup, howned⟩ := Node.names_of_answers hcompletes.answered
  have hnone : vs.get? id = none := Fields.get?_eq_none_iff.mpr fun hmem => hid (howned id hmem)
  show (c.formData.merge vs).get? id = c.formData.get? id
  rw [Fields.get?_merge hnodup, hnone, Option.none_or]

/-- Two submissions for the step at which a case sits that agree on the fields of the step that
record values have the same outcome: the same case or the same error, the same notes, the same state
of the keeper, and the same readings of the clock. And where they succeed, the case has at every
other id the value that was recorded before, or none. -/
theorem run_confined (hn : c.currentStep.bind d.node? = some n)
    (h : given.AgreeOn n.answerIds q.values) (now : Timestamp) :
    (∀ (σ : Type) (keep : Case → σ → Except Failure Unit × σ) (s : σ),
      r.run keep c d { q with values := given } now s = r.run keep c d q now s) ∧
    r.complete c d { q with values := given } now = r.complete c d q now ∧
    r.readsClock c d { q with values := given } = r.readsClock c d q ∧
    ∀ c', r.complete c d q now = .ok c' →
      ∀ id, id ∉ n.answerIds → c'.formData.get? id = c.formData.get? id := by
  have hcomplete : r.complete c d { q with values := given } now = r.complete c d q now :=
    complete_congr hn h
  refine ⟨fun σ keep s => ?_, hcomplete, ?_, fun c' hc' id hid => get?_complete hn hc' hid⟩
  · rw [run, run, hcomplete]
  · rw [readsClock, readsClock, prepare_congr hn h]

end Rules

namespace Sample

/-- The case at its review, with the notes of the draft recorded. -/
def reviewed : Case :=
  { case with currentStep := some "review", formData := [("notes", .text "one")] }

/-- A review that gives a grade. -/
def grading : Completion :=
  { stepId := some "review", userId := some "user-3", choice := some "end",
    values := [("grade", .text "A")] }

/-- The grade among values that the review does not own: the notes of the draft, the readonly copy
of them, and a name that no field has. -/
def meddling : Fields :=
  [("notes", .text "changed"), ("grade", .text "A"), ("shown-notes", .text "changed"),
    ("archive", .list [])]

end Sample

/-- The review owns the grade. Whatever else is submitted with it, the notes stay as they are and
nothing is added. -/
theorem Rules.run_confined_sample :
    let r : Rules := { lookup := Sample.lookup, strict := true }
    let c := Sample.reviewed
    ∃ c', r.complete c Sample.workflow Sample.grading Sample.noon = .ok c' ∧
      r.complete c Sample.workflow { Sample.grading with values := Sample.meddling } Sample.noon
        = .ok c' ∧
      c'.formData = [("notes", .text "one"), ("grade", .text "A")] ∧
      ∀ id, id ≠ "grade" → c'.formData.get? id = c.formData.get? id := by
  intro r c
  obtain ⟨n, hn, hids⟩ : ∃ n, c.currentStep.bind Sample.workflow.node? = some n ∧
      n.answerIds = ["grade"] := ⟨_, rfl, rfl⟩
  -- The only field that the two submissions must agree on is the grade.
  have hagree : Sample.meddling.AgreeOn n.answerIds Sample.grading.values := by
    rw [hids]
    intro name hname
    rw [List.mem_singleton.mp hname]
    rfl
  obtain ⟨-, hsame, -, hkept⟩ := run_confined (r := r) hn hagree Sample.noon
  obtain ⟨c', hc', hdata⟩ : ∃ c', r.complete c Sample.workflow Sample.grading Sample.noon = .ok c' ∧
      c'.formData = [("notes", .text "one"), ("grade", .text "A")] := ⟨_, rfl, rfl⟩
  -- The theorem carries the outcome over to the other submission.
  refine ⟨c', hc', hsame.trans hc', hdata, fun id hid => hkept c' hc' id ?_⟩
  rw [hids]
  exact fun hmem => hid (List.mem_singleton.mp hmem)

end CaseFlow
