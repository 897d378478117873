import CaseFlow.Form.Submission
import CaseFlow.Proofs.Reading.Outcome
import CaseFlow.Proofs.Value.Fields
import Mathlib.Data.List.Forall2

/-!
# What a submission records

A submission that is accepted records one value for each field that is not readonly, in form order
(`Submission.collect_eq_ok`). Collecting sets the values one after the other, so two fields that
share an id leave one value, that of the last; the lemma speaks of a list of values, one for each
field, and of the merge of that list.

The values that a step returns are those of its form, or none (`Node.answers`). Where field ids are
distinct, as they are within a document, nothing is overwritten: every field that records values is
found under its id with the value that it was given (`Node.answers_spec`), and a required one has a
value that counts as given (`Submission.truthy_of_required`).
-/

namespace CaseFlow

variable {data submitted vs : Fields} {f : FormField} {v : Value}

namespace Submission

/-- A required field only records a value that counts as given. -/
theorem truthy_of_required (h : fieldValue data submitted f = .ok v) (hf : f.required = true) :
    v.truthy = true := by
  unfold fieldValue at h
  split at h
  · cases h
  · split at h
    · cases h
    · next hgiven =>
      cases h
      simpa [hf] using hgiven

/-- Collecting sets, one after the other, the values of the fields that are not readonly; it
succeeds when each of them has a value. -/
theorem collect_eq_ok {acc : Fields} {fs : List FormField} :
    collect data submitted acc fs = .ok vs ↔
      ∃ ps, List.Forall₂ (fun f p => p.1 = f.id ∧ fieldValue data submitted f = .ok p.2)
          (fs.filter (!·.isReadonly)) ps ∧ acc.merge ps = vs := by
  induction fs generalizing acc with
  | nil => simp [collect]
  | cons f rest ih =>
    rw [collect]
    by_cases hreadonly : f.isReadonly
    · -- A readonly field is passed over.
      simp [hreadonly, ih]
    · simp only [hreadonly, Bool.false_eq_true, ↓reduceIte, Bool.not_false, List.filter_cons_of_pos,
        List.forall₂_cons_left_iff]
      -- The first field that is refused ends the collection.
      cases hvalue : fieldValue data submitted f with
      | error e =>
        simp only [reduceCtorEq, and_false, false_and, exists_const]
      | ok v =>
        simp only [ih, Except.ok.injEq]
        constructor
        · rintro ⟨ps, hps, rfl⟩
          exact ⟨_, ⟨(f.id, v), ps, ⟨rfl, rfl⟩, hps, rfl⟩, rfl⟩
        · rintro ⟨_, ⟨⟨_, _⟩, ps, ⟨rfl, rfl⟩, hps, rfl⟩, rfl⟩
          exact ⟨ps, hps, rfl⟩

/-- Values that fields give under their ids have these as names. -/
theorem names_of_forall₂ {R : FormField → String × Value → Prop} {fs : List FormField}
    {ps : Fields} (h : List.Forall₂ (fun f p => p.1 = f.id ∧ R f p) fs ps) :
    ps.names = fs.map (·.id) := by
  have heq : List.Forall₂ (· = ·) (fs.map (·.id)) ps.names :=
    List.forall₂_map_left_iff.mpr <| List.forall₂_map_right_iff.mpr <| h.imp fun _ _ h => h.1.symm
  rw [List.forall₂_eq_eq_eq] at heq
  exact heq.symm

end Submission

namespace Node

variable {n : Node}

/-- The values that a step returns for a submission; a step without a form returns none. -/
def answers (n : Node) (data submitted : Fields) : Except Error Fields :=
  match n.form with
  | none => .ok []
  | some form => form.submit data submitted

/-- The ids of the fields of a step that record values. -/
def answerIds (n : Node) : List String := (n.fields.filter (!·.isReadonly)).map (·.id)

/-- The answers of a node are what the collection gathers from its fields. -/
theorem answers_eq_collect :
    n.answers data submitted = Submission.collect data submitted [] n.fields := by
  unfold answers fields
  cases n.form <;> rfl

/-- The answer ids of a node are the ids of its fields that are not read-only. -/
theorem mem_answerIds {id : String} :
    id ∈ n.answerIds ↔ ∃ f ∈ n.fields, f.isReadonly = false ∧ f.id = id := by
  simp [answerIds, and_assoc]

/-- A field that records values is a field of the step. -/
theorem mem_fields_of_mem_answerIds {id : String} (h : id ∈ n.answerIds) :
    id ∈ n.fields.map (·.id) := by
  obtain ⟨f, hf, -, rfl⟩ := mem_answerIds.mp h
  exact List.mem_map_of_mem hf

/-- Where its field ids are distinct, a step returns one value for each field that records values,
and nothing else. -/
theorem answers_spec (hn : (n.fields.map (·.id)).Nodup) (h : n.answers data submitted = .ok vs) :
    vs.names = n.answerIds ∧ vs.names.Nodup ∧ ∀ f ∈ n.fields, f.isReadonly = false →
      ∃ v, vs.get? f.id = some v ∧ Submission.fieldValue data submitted f = .ok v := by
  rw [answers_eq_collect, Submission.collect_eq_ok] at h
  obtain ⟨ps, hps, rfl⟩ := h
  have hnames : Fields.names ps = n.answerIds := Submission.names_of_forall₂ hps
  have hnodup : (Fields.names ps).Nodup := by
    rw [hnames]
    exact hn.sublist (List.filter_sublist.map _)
  -- Merging distinct fields into none just lists them.
  have hmerge : Fields.merge [] ps = ps := Fields.merge_eq_append hnodup (by simp [Fields.names])
  rw [hmerge]
  refine ⟨hnames, hnodup, fun f hf hreadonly => ?_⟩
  obtain ⟨p, hp, hid, hvalue⟩ := exists_of_forall₂ hps (x := f) (by simp [hf, hreadonly])
  exact ⟨p.2, Fields.get?_of_mem hnodup (hid ▸ hp), hvalue⟩

end Node

end CaseFlow
