import CaseFlow.Value.Portable
import CaseFlow.Workflow.Reading

/-!
# Cases

A case is a unit of work that moves through the workflow of its app. It knows the step at which
it sits, the steps that it has left, and the values recorded in their forms.
-/

namespace CaseFlow

open CaseFlow.Text

/-- The life of a case. -/
inductive CaseStatus where
  /-- Not begun. -/
  | new
  /-- At work. -/
  | inProgress
  /-- Under review. -/
  | review
  /-- Finished. -/
  | closed
  deriving DecidableEq, Repr, Inhabited

instance : Worded CaseStatus where
  all := [.new, .inProgress, .review, .closed]
  word
    | .new => "New"
    | .inProgress => "In Progress"
    | .review => "In Review"
    | .closed => "Closed"

/-- The urgency of a case. -/
inductive Priority where
  /-- Can wait. -/
  | low
  /-- Ordinary. -/
  | medium
  /-- Before others. -/
  | high
  /-- At once. -/
  | urgent
  deriving DecidableEq, Repr, Inhabited

instance : Worded Priority where
  all := [.low, .medium, .high, .urgent]
  word
    | .low => "Low"
    | .medium => "Medium"
    | .high => "High"
    | .urgent => "Urgent"

/-- How far a case is with one step. -/
inductive StepStatus where
  /-- The case has left the step. -/
  | completed
  /-- The case sits at the step. -/
  | inProgress
  /-- The case has not been there. -/
  | pending
  deriving DecidableEq, Repr, Inhabited

/-- The word of a step's progress. -/
def StepStatus.word : StepStatus → String
  | .completed => "Completed"
  | .inProgress => "In Progress"
  | .pending => "Pending"

/-- An entry of the history: a step was left. -/
structure Event where
  /-- The step. -/
  stepId : String
  /-- The user who completed it. -/
  userId : String
  /-- When it was completed. -/
  completedAt : Timestamp
  deriving DecidableEq, Repr, Inhabited

/-- A unit of work. -/
structure Case where
  /-- The id. -/
  id : String
  /-- The app whose workflow the case follows. -/
  appId : String
  /-- The title, not blank. -/
  title : String
  /-- A description. -/
  description : String := ""
  /-- The status. -/
  status : CaseStatus := .new
  /-- The urgency. -/
  priority : Priority := .medium
  /-- The user responsible at present. -/
  assigneeId : Option String := none
  /-- The client. -/
  client : String := ""
  /-- Tags. -/
  tags : List String := []
  /-- When the case was opened. -/
  createdAt : Timestamp
  /-- The step at which the case sits. -/
  currentStep : Option String := none
  /-- The steps left, oldest first. -/
  history : List Event := []
  /-- The values recorded in forms, by field id. -/
  formData : Fields := []
  deriving Repr, BEq, Inhabited

namespace Event

/-- Reads the fields of an event. -/
def readFields (fs : Fields) : Checked Event :=
  Event.mk <$> fs.require "step_id" Reader.text
    <*> fs.require "user_id" Reader.text
    <*> fs.require "completed_at" Reader.timestamp

/-- Reads an event. -/
def read : Reader Event := Reader.record "WorkflowEvent" readFields

/-- An event as a value. -/
def toValue (e : Event) : Value :=
  .object [("step_id", .text e.stepId), ("user_id", .text e.userId),
    ("completed_at", .text e.completedAt.documentText)]

end Event

namespace Case

/-- The name under which cases are refused. -/
def recordName : String := "Case"

/-- Reads the fields of a case: the title must not be blank and is trimmed; blank tags are
dropped. -/
def readFields (fs : Fields) : Checked Case :=
  Case.mk <$> fs.require "id" Reader.text
    <*> fs.require "app_id" Reader.text
    <*> fs.require "title" (Reader.text.checking (checkNotBlank .emptyTitle))
    <*> fs.optional "description" Reader.text ""
    <*> fs.optional "status" Reader.choice CaseStatus.new
    <*> fs.optional "priority" Reader.choice Priority.medium
    <*> fs.optional "assignee_id" (Reader.nullable Reader.text) none
    <*> fs.optional "client" Reader.text ""
    <*> fs.optional "tags" (fun v => (Reader.list Reader.text v).map dropBlank) []
    <*> fs.require "created_at" Reader.timestamp
    <*> fs.optional "current_workflow_step_id" (Reader.nullable Reader.text) none
    <*> fs.optional "workflow_history" (Reader.list Event.read) []
    <*> fs.optional "form_data" Reader.fields []

/-- Reads a case. -/
def read : Reader Case := Reader.record recordName readFields

/-- The fields of a case as they are written: of its values, what JSON can hold of them. -/
def toFields (c : Case) : Fields :=
  [("id", .text c.id), ("app_id", .text c.appId), ("title", .text c.title),
    ("description", .text c.description), ("status", .text (Worded.word c.status)),
    ("priority", .text (Worded.word c.priority)), ("assignee_id", .ofText? c.assigneeId),
    ("client", .text c.client), ("tags", .ofTexts c.tags),
    ("created_at", .text c.createdAt.documentText),
    ("current_workflow_step_id", .ofText? c.currentStep),
    ("workflow_history", .list (c.history.map Event.toValue)),
    ("form_data", .object (Value.portableFields c.formData))]

/-- A case as a value. -/
def toValue (c : Case) : Value := .object c.toFields

end Case

end CaseFlow
