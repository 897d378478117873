import CaseFlow.App.Basic
import CaseFlow.Case.Basic
import CaseFlow.Directory.User
import CaseFlow.Value.Portable

/-!
# The store

The store keeps users, apps and cases in three tables, each under its id. A workflow and the tags,
the history and the form values of a case are kept as JSON; stored workflows and stored cases are
checked again when they are read. The time at which a case was opened is kept as a wall clock
reading without its offset and comes back as universal time.
-/

namespace CaseFlow

/-- What a store can be used for. -/
inductive Condition where
  /-- Reading and writing. -/
  | ready
  /-- Nothing until its tables are made. -/
  | withoutTables
  /-- Nothing at all. -/
  | unusable
  deriving DecidableEq, Repr, Inhabited

/-- A node as it is kept: the values that a patch put there lose what JSON cannot hold. -/
def Node.kept (n : Node) : Node :=
  { n with description := n.description.portable, assignee := n.assignee.portable }

/-- A document as it is kept. -/
def Document.kept (d : Document) : Document := { d with nodes := d.nodes.map Node.kept }

/-- A row of the table of apps. -/
structure AppRow where
  /-- The id. -/
  id : String
  /-- The name. -/
  name : String
  /-- The icon. -/
  icon : String
  /-- The name of the color. -/
  themeColor : String
  /-- The workflow, not checked since it was kept. -/
  workflow : Document
  deriving Repr, BEq, Inhabited

namespace AppRow

/-- The color of an app that names none. -/
def defaultColor : String := "blue"

/-- The app of a row, if its workflow can be read. -/
def read (r : AppRow) : Except Rejection App :=
  ((Document.read r.workflow.toValue).toExcept Document.recordName).map fun d =>
    { id := r.id, name := r.name, icon := r.icon,
      themeColor := if r.themeColor.isEmpty then defaultColor else r.themeColor, workflow := d }

/-- The row of an app. -/
def ofApp (a : App) : AppRow :=
  { id := a.id, name := a.name, icon := a.icon, themeColor := a.themeColor,
    workflow := a.workflow.kept }

end AppRow

/-- A row of the table of cases: words for the status and the urgency, JSON for the tags, the
history and the form values. -/
structure CaseRow where
  /-- The id. -/
  id : String
  /-- The app. -/
  appId : String
  /-- The title. -/
  title : String
  /-- The description. -/
  description : String
  /-- The word of the status. -/
  status : String
  /-- The word of the urgency. -/
  priority : String
  /-- The user responsible. -/
  assigneeId : Option String
  /-- The client. -/
  client : String
  /-- The tags. -/
  tags : Value
  /-- The wall clock reading at which the case was opened. -/
  createdAt : Timestamp
  /-- The step at which the case sits. -/
  currentStep : Option String
  /-- The history. -/
  history : Value
  /-- The form values. -/
  formData : Value
  deriving Repr, BEq, Inhabited

namespace CaseRow

/-- The row of a case. -/
def ofCase (c : Case) : CaseRow :=
  { id := c.id, appId := c.appId, title := c.title, description := c.description,
    status := Worded.word c.status, priority := Worded.word c.priority,
    assigneeId := c.assigneeId, client := c.client, tags := .ofTexts c.tags,
    createdAt := c.createdAt.asLocal, currentStep := c.currentStep,
    history := .list (c.history.map Event.toValue),
    formData := .object (Value.portableFields c.formData) }

/-- The fields of the case of a row; a stored time is universal. -/
def toFields (r : CaseRow) : Fields :=
  [("id", .text r.id), ("app_id", .text r.appId), ("title", .text r.title),
    ("description", .text r.description), ("status", .text r.status),
    ("priority", .text r.priority), ("assignee_id", .ofText? r.assigneeId),
    ("client", .text r.client), ("tags", r.tags),
    ("created_at", .timestamp r.createdAt.asUniversal),
    ("current_workflow_step_id", .ofText? r.currentStep), ("workflow_history", r.history),
    ("form_data", r.formData)]

/-- The case of a row, if it can be read. -/
def read (r : CaseRow) : Except Rejection Case :=
  (Case.readFields r.toFields).toExcept Case.recordName

/-- Whether a row is listed before another one: the newer first, and of two opened at one time
the one with the lesser id. -/
def listedBefore (a b : CaseRow) : Bool :=
  b.createdAt.wall < a.createdAt.wall || (a.createdAt.wall == b.createdAt.wall && a.id ≤ b.id)

end CaseRow

/-- The users, apps and cases of an installation. -/
structure Store where
  /-- What the store can be used for. -/
  condition : Condition := .ready
  /-- The users, in the order in which they were added. -/
  users : List User := []
  /-- The apps, oldest first. -/
  apps : List AppRow := []
  /-- The cases, in the order in which they were added. -/
  cases : List CaseRow := []
  deriving Repr, BEq, Inhabited

namespace Store

/-- The user with a given id. -/
def user? (s : Store) (id : String) : Option User := s.users.find? (·.id == id)

/-- The app with a given id, as a row. -/
def app? (s : Store) (id : String) : Option AppRow := s.apps.find? (·.id == id)

/-- The case with a given id, as a row. -/
def case? (s : Store) (id : String) : Option CaseRow := s.cases.find? (·.id == id)

/-- All users by id. -/
def listUsers (s : Store) : List User := s.users.mergeSort fun a b => a.id ≤ b.id

/-- All rows of cases, or those of one app, newest first. -/
def listCases (s : Store) (appId : Option String) : List CaseRow :=
  (s.cases.filter fun r => appId.all (r.appId == ·)).mergeSort CaseRow.listedBefore

/-- Adds users. -/
def addUsers (s : Store) (us : List User) : Store := { s with users := s.users ++ us }

/-- Puts a user in the place of the one with the same id. -/
def replaceUser (s : Store) (u : User) : Store :=
  { s with users := s.users.map fun v => if v.id == u.id then u else v }

/-- Removes a user. -/
def removeUser (s : Store) (id : String) : Store :=
  { s with users := s.users.filter (·.id != id) }

/-- Adds an app. -/
def addApp (s : Store) (r : AppRow) : Store := { s with apps := s.apps ++ [r] }

/-- Puts an app in the place of the one with the same id. -/
def replaceApp (s : Store) (r : AppRow) : Store :=
  { s with apps := s.apps.map fun q => if q.id == r.id then r else q }

/-- Removes an app and all of its cases. -/
def removeApp (s : Store) (id : String) : Store :=
  { s with apps := s.apps.filter (·.id != id), cases := s.cases.filter (·.appId != id) }

/-- Keeps a case: in the place of the one with the same id, at the end if there is none. -/
def keepCase (s : Store) (c : Case) : Store :=
  if s.cases.any (·.id == c.id) then
    { s with cases := s.cases.map fun r => if r.id == c.id then .ofCase c else r }
  else { s with cases := s.cases ++ [.ofCase c] }

/-- The store after its tables are dropped. -/
def dropped (s : Store) : Store :=
  { condition := if s.condition == .unusable then .unusable else .withoutTables }

/-- The store after missing tables are made. -/
def created (s : Store) : Store :=
  if s.condition == .withoutTables then { s with condition := .ready } else s

end Store

end CaseFlow
