import CaseFlow.Case.Basic
import CaseFlow.Proofs.Calendar.Written
import CaseFlow.Proofs.Workflow.Canonical

/-!
# Reading cases

A case is read field by field, and each field by a reader of its own. `Case.ReadFrom` lists the
thirteen fields with what each of them gives, and a case is read exactly if all of them are
(`Case.readFields_eq_ok`). What is to be known of a case that was read, such as that its title is
trimmed and that its tags are not blank, and that a written case can be read at all, is argued from
the field that it is about.

The history is the one field of which something may be lost. An entry holds a time, and documents
have no place for the seconds of an offset, so that what is read back is `Event.documented`: the
same entry exactly if its offset has whole minutes (`Event.documented_eq_self_iff`).
-/

namespace CaseFlow

instance : LawfulWorded CaseStatus := ⟨fun s => by cases s <;> rfl⟩

instance : LawfulWorded Priority := ⟨fun p => by cases p <;> rfl⟩

/-! ## Entries of the history -/

namespace Event

/-- An entry is read exactly when each of its fields is. -/
theorem readFields_eq_ok {fs : Fields} {e : Event} : readFields fs = .ok e ↔
    fs.require "step_id" Reader.text = .ok e.stepId ∧
      fs.require "user_id" Reader.text = .ok e.userId ∧
      fs.require "completed_at" Reader.timestamp = .ok e.completedAt := by
  constructor
  · intro h
    -- The fields are read one after another, so a success is one of each.
    simp only [readFields, Checked.seq_eq_ok] at h
    obtain ⟨_, completedAt, ⟨_, userId, hmk, huser, rfl⟩, htime, rfl⟩ := h
    obtain ⟨stepId, hstep, rfl⟩ := Checked.map_eq_ok.mp hmk
    exact ⟨hstep, huser, htime⟩
  · rintro ⟨hstep, huser, htime⟩
    rw [readFields, hstep, huser, htime]
    rfl

/-- The entry that a document keeps: the time is written without the seconds of its offset. -/
def documented (e : Event) : Event := { e with completedAt := e.completedAt.documented }

/-- An entry is kept as it is exactly if its time is. -/
theorem documented_eq_self_iff {e : Event} :
    e.documented = e ↔ e.completedAt.documented = e.completedAt := by
  obtain ⟨stepId, userId, completedAt⟩ := e
  simp [documented]

/-- A written entry is read, as what documents keep of it. -/
theorem read_toValue {e : Event} (h : e.completedAt.Valid) : read e.toValue = .ok e.documented := by
  let fs : Fields := [("step_id", .text e.stepId), ("user_id", .text e.userId),
    ("completed_at", .text e.completedAt.documentText)]
  have htime : Reader.timestamp (.text e.completedAt.documentText) =
      .ok e.completedAt.documented := by
    rw [Reader.timestamp, Timestamp.ofDocument_documentText h]
  have hfields : readFields fs = .ok e.documented :=
    readFields_eq_ok.mpr ⟨Fields.require_of_get? rfl rfl, Fields.require_of_get? rfl rfl,
      Fields.require_of_get? rfl htime⟩
  exact hfields

/-- A written history is read, as what documents keep of it. -/
theorem list_toValue {es : List Event} (h : ∀ e ∈ es, e.completedAt.Valid) :
    Reader.list read (.list (es.map toValue)) = .ok (es.map documented) := by
  rw [Reader.list_map_eq_ok, List.forall₂_map_right_iff, List.forall₂_same]
  exact fun e he => read_toValue (h e he)

/-- Documents keep times in a history. -/
theorem documented_proper {es : List Event} (h : ∀ e ∈ es, e.completedAt.Valid) :
    ∀ e ∈ es.map documented, e.completedAt.Proper := by
  intro e he
  obtain ⟨e₀, he₀, rfl⟩ := List.mem_map.mp he
  exact (h e₀ he₀).documented

/-- Documents keep everything of a history exactly if each of its offsets has whole minutes. -/
theorem map_documented_eq_self_iff {es : List Event} :
    es.map documented = es ↔ ∀ e ∈ es, ∀ o, e.completedAt.offset = some o → 60 ∣ o := by
  have hself : es.map documented = es ↔ es.map documented = es.map id := by rw [List.map_id]
  rw [hself, List.map_inj_left]
  simp only [id, documented_eq_self_iff, Timestamp.documented_eq_self_iff]

/-- Documents keep everything of a history of proper times. -/
theorem map_documented_eq {es : List Event} (h : ∀ e ∈ es, e.completedAt.Proper) :
    es.map documented = es :=
  map_documented_eq_self_iff.mpr fun e he o ho => ((h e he).offset_minutes o ho).1

end Event

/-! ## Cases -/

namespace Case

/-- The fields from which a case is read, each with what it gives. -/
structure ReadFrom (fs : Fields) (c : Case) : Prop where
  id : fs.require "id" Reader.text = .ok c.id
  appId : fs.require "app_id" Reader.text = .ok c.appId
  title : fs.require "title" (Reader.text.checking (checkNotBlank .emptyTitle)) = .ok c.title
  description : fs.optional "description" Reader.text "" = .ok c.description
  status : fs.optional "status" Reader.choice CaseStatus.new = .ok c.status
  priority : fs.optional "priority" Reader.choice Priority.medium = .ok c.priority
  assigneeId : fs.optional "assignee_id" (Reader.nullable Reader.text) none = .ok c.assigneeId
  client : fs.optional "client" Reader.text "" = .ok c.client
  tags : fs.optional "tags" (fun v => (Reader.list Reader.text v).map dropBlank) [] = .ok c.tags
  createdAt : fs.require "created_at" Reader.timestamp = .ok c.createdAt
  currentStep : fs.optional "current_workflow_step_id" (Reader.nullable Reader.text) none
    = .ok c.currentStep
  history : fs.optional "workflow_history" (Reader.list Event.read) [] = .ok c.history
  formData : fs.optional "form_data" Reader.fields [] = .ok c.formData

variable {fs : Fields} {c : Case}

/-- A case is read exactly when each of its fields is. -/
theorem readFields_eq_ok : readFields fs = .ok c ↔ ReadFrom fs c := by
  constructor
  · intro h
    simp only [readFields, Checked.seq_eq_ok] at h
    -- The fields come apart from the last to the first; the first one lies under a map.
    obtain ⟨_, formData, ⟨_, history, ⟨_, step, ⟨_, created, ⟨_, tags, ⟨_, client, h, hclient,
      rfl⟩, htags, rfl⟩, hcreated, rfl⟩, hstep, rfl⟩, hhistory, rfl⟩, hdata, rfl⟩ := h
    obtain ⟨_, assignee, ⟨_, priority, ⟨_, status, ⟨_, description, ⟨_, title, ⟨_, app, hmk, happ,
      rfl⟩, htitle, rfl⟩, hdescription, rfl⟩, hstatus, rfl⟩, hpriority, rfl⟩, hassignee, rfl⟩ := h
    obtain ⟨id, hid, rfl⟩ := Checked.map_eq_ok.mp hmk
    exact ⟨hid, happ, htitle, hdescription, hstatus, hpriority, hassignee, hclient, htags,
      hcreated, hstep, hhistory, hdata⟩
  · intro h
    rw [readFields, h.id, h.appId, h.title, h.description, h.status, h.priority, h.assigneeId,
      h.client, h.tags, h.createdAt, h.currentStep, h.history, h.formData]
    rfl

namespace ReadFrom

/-- The id is read as it stands. -/
theorem get?_id (h : ReadFrom fs c) : fs.get? "id" = some (.text c.id) := by
  obtain ⟨v, hv, hid⟩ := Fields.require_eq_ok.mp h.id
  rw [hv, Reader.text_eq_ok.mp hid]

/-- The title is trimmed and not blank. -/
theorem title_isName (h : ReadFrom fs c) : IsName c.title := by
  obtain ⟨_, -, htitle⟩ := Fields.require_eq_ok.mp h.title
  obtain ⟨_, -, hcheck⟩ := Reader.checking_eq_ok.mp htitle
  exact isName_of_checkNotBlank hcheck

/-- No tag is blank or has blanks around it. -/
theorem dropBlank_tags (h : ReadFrom fs c) : dropBlank c.tags = c.tags := by
  rcases Fields.optional_eq_ok.mp h.tags with ⟨_, -, hread⟩ | ⟨-, hnone⟩
  · obtain ⟨tags, -, htags⟩ := Checked.map_eq_ok'.mp hread
    rw [← htags, dropBlank_dropBlank]
  · rw [hnone]
    rfl

end ReadFrom

end Case

end CaseFlow
