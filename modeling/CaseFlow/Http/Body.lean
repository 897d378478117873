import CaseFlow.Case.Transition
import CaseFlow.Http.Request
import CaseFlow.Service.Apps
import CaseFlow.Workflow.Reading

/-!
# Bodies of requests

What requests bring besides their targets. A body is read as a record, as an object of any fields,
or not at all. Problems are told with their path, which begins at the body or at the query.
-/

namespace CaseFlow

open CaseFlow.Http

/-- Problems as they are told about a body, which is not given as a record in the first place. -/
def Checked.inBody {α : Type} : Checked α → Checked α
  | .ok a => .ok a
  | .bad ps => .bad (ps.map fun p =>
      match p.complaint with
      | .record _ => { p with complaint := .bodyRecord }
      | _ => p)

namespace Http

/-- Reads a body, which has to be there; `wanted` is the complaint about one that is no object. -/
def readObject {α : Type} (wanted : Complaint) (read : Fields → Checked α)
    (p : Request.Payload) : Checked α :=
  let c : Checked α := match p with
    | .absent => .refuse .missing
    | .value (.object fs) => (read fs).inBody
    | .value _ | .plainText => .refuse wanted
  c.under (.field "body")

/-- Reads a body as a record. -/
def readRecord {α : Type} (read : Fields → Checked α) (p : Request.Payload) : Checked α :=
  readObject .bodyRecord read p

/-- Reads a body as an object of any fields. -/
def readFields (p : Request.Payload) : Checked Fields := readObject .object Checked.ok p

/-- Reads the limit on a list, from 1 to 100; it is 4 where none is given. -/
def readLimit (t : Target) : Checked Int :=
  match t.parameter? "limit" with
  | none => .ok 4
  | some s =>
    (((Reader.int.bounded [((1 ≤ ·), .atLeast 1), ((· ≤ 100), .atMost 100)] (.text s)).under
      (.field "limit")).under (.field "query"))

/-- A new user. -/
structure Invitation where
  /-- The email address. -/
  email : String
  /-- The role. -/
  role : Role
  /-- The name, if it is not to be taken from the address. -/
  name : Option String

/-- Reads an invitation. -/
def Invitation.read (fs : Fields) : Checked Invitation :=
  Invitation.mk <$> fs.require "email" Reader.text
    <*> fs.optional "role" Reader.choice .member
    <*> fs.optional "name" (Reader.nullable Reader.text) none

/-- A change of a user. -/
structure UserChange where
  /-- The new name. -/
  name : Option String
  /-- The new role. -/
  role : Option Role

/-- Reads a change of a user. -/
def UserChange.read (fs : Fields) : Checked UserChange :=
  UserChange.mk <$> fs.optional "name" (Reader.nullable Reader.text) none
    <*> fs.optional "role" (Reader.nullable Reader.choice) none

/-- Reads what is told about a new app. -/
def readFounding (fs : Fields) : Checked Apps.Founding :=
  (fun (name icon color : String) (w : Option Document) =>
      ({ name := .text name, icon := .text icon, themeColor := .text color, workflow := w } :
        Apps.Founding)) <$> fs.require "name" Reader.text
    <*> fs.optional "icon" Reader.text ""
    <*> fs.optional "theme_color" Reader.text AppRow.defaultColor
    <*> fs.optional "workflow" (Reader.nullable Document.read) none

/-- A change of an app. -/
structure AppChange where
  /-- The new name. -/
  name : Option String
  /-- The new icon. -/
  icon : Option String
  /-- The name of the new color. -/
  themeColor : Option String

/-- Reads a change of an app. -/
def AppChange.read (fs : Fields) : Checked AppChange :=
  AppChange.mk <$> fs.optional "name" (Reader.nullable Reader.text) none
    <*> fs.optional "icon" (Reader.nullable Reader.text) none
    <*> fs.optional "theme_color" (Reader.nullable Reader.text) none

/-- Reads the command to add a node. -/
def readNewNode (fs : Fields) : Checked Command :=
  (fun (type : NodeType) (p : Position) (id label : Option String) =>
      Command.addNode (.text type.word) p.toValue (.ofText? id) (.ofText? label)) <$>
    fs.require "type" Reader.choice
    <*> fs.optional "position" Position.read {}
    <*> fs.optional "id" (Reader.nullable Reader.text) none
    <*> fs.optional "label" (Reader.nullable Reader.text) none

/-- Reads the command to connect two nodes. -/
def readConnection (fs : Fields) : Checked Command :=
  (fun (source target : String) (label : Option String) =>
      Command.connect source target (.ofText? label)) <$> fs.require "source" Reader.text
    <*> fs.require "target" Reader.text
    <*> fs.optional "label" (Reader.nullable Reader.text) none

/-- Reads a form mode. -/
def readMode (fs : Fields) : Checked FormMode := fs.require "mode" Reader.choice

/-- Reads what is told about a new case; the app is known from the target. -/
def readOpening (fs : Fields) : Checked Case.Opening :=
  (fun (title description : String) (priority : Priority) (assignee : Option String)
      (client : String) (tags : List String) =>
      ({ appId := .null, title := .text title, description := .text description,
         priority := .text (Worded.word priority), assigneeId := .ofText? assignee,
         client := .text client, tags := .ofTexts tags } : Case.Opening)) <$>
    fs.require "title" Reader.text
    <*> fs.optional "description" Reader.text ""
    <*> fs.optional "priority" Reader.choice .medium
    <*> fs.optional "assignee_id" (Reader.nullable Reader.text) none
    <*> fs.optional "client" Reader.text ""
    <*> fs.optional "tags" (Reader.list Reader.text) []

/-- Reads what a user asks for when completing a step. -/
def readCompletion (userId : Option String) (fs : Fields) : Checked Completion :=
  (fun (stepId : String) (choice : Option String) (values : Fields) =>
      ({ stepId := some stepId, userId, choice, values } : Completion)) <$>
    fs.require "from_step_id" Reader.text
    <*> fs.optional "chosen_next_step_id" (Reader.nullable Reader.text) none
    <*> fs.optional "form_values" Reader.fields []

/-- Reads the step on which a case is placed. -/
def readPlace (fs : Fields) : Checked String := fs.require "step_id" Reader.text

end Http

end CaseFlow
