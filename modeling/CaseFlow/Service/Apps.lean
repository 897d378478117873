import CaseFlow.Editor.Session
import CaseFlow.Seed.DefaultWorkflow
import CaseFlow.Seed.Demo
import CaseFlow.Service.Basic

/-!
# Apps and their workflows

Creates, changes and removes apps, and keeps their workflows. Every workflow that is taken over as
a whole is validated first; one that an editor changes is kept after each command.
-/

namespace CaseFlow.Apps

open CaseFlow.Text Service

/-- Adding an app. -/
def creating : StoreAction := ⟨.app, "create", "store app", "creating app"⟩

/-- Looking up an app. -/
def retrieving : StoreAction := ⟨.app, "get", "retrieve app", "retrieving app"⟩

/-- Listing apps. -/
def listing : StoreAction := ⟨.app, "list", "list apps", "listing apps"⟩

/-- Changing an app. -/
def updating : StoreAction := ⟨.app, "update", "update app", "updating app"⟩

/-- Removing an app. -/
def deleting : StoreAction := ⟨.app, "delete", "delete app", "deleting app"⟩

/-- Keeping a workflow. -/
def saving : StoreAction := ⟨.app, "update", "save workflow", "saving workflow"⟩

/-- The row of an app, which has to be stored. -/
def requireRow (s : Store) (id : Option String) : Except Failure AppRow :=
  match id.bind s.app? with
  | some r => .ok r
  | none => .error (.refused (.notFound .app id))

/-- The app of a row. -/
def readRow (r : AppRow) : Except Failure App := r.read.mapError .rejected

/-- The app with an id. -/
def find (id : Option String) : Service App := do
  note .apps .debug s!"Retrieving app with ID: {Error.idText id}"
  let s ← query retrieving
  settle ((requireRow s id).bind readRow)

/-- All apps, oldest first. -/
def list : Service (List App) := do
  let s ← query listing
  let apps ← settle (s.apps.mapM readRow)
  note .apps .debug s!"Retrieved {apps.length} apps"
  return apps

/-- The workflow of an app. -/
def workflow (id : Option String) : Service Document := return (← find id).workflow

/-- Refuses a document with structural errors, and notes its smells. -/
def checkDocument (d : Document) : Service Findings := do
  let f := d.validate
  write [Editor.validationNote f]
  let report := f.report
  if !report.isValid then
    let e := Error.invalidWorkflow report.errors
    note .apps .error e.message
    refuse e
  if !report.warnings.isEmpty then
    note .apps .warning ("Workflow validation warnings: " ++ Error.joined report.warnings)
  return f

/-- What is told about an app that is to be created. -/
structure Founding where
  /-- The name. -/
  name : Value
  /-- The icon. -/
  icon : Value := .text ""
  /-- The name of the color. -/
  themeColor : Value := .text AppRow.defaultColor
  /-- The workflow; the default one where it is absent. -/
  workflow : Option Document := none
  /-- The id; a new one is drawn where it is absent. -/
  id : Option String := none

/-- The app of a founding, or the messages of all that is wrong with it. -/
def Founding.read (o : Founding) (id : String) : Except Failure App :=
  let fs : Fields :=
    [("id", .text id), ("name", o.name), ("icon", o.icon), ("theme_color", o.themeColor)]
  match App.readFields fs with
  | .ok a => .ok { a with workflow := o.workflow.getD Seed.defaultWorkflow }
  | .bad ps => .error (.refused (.invalidApp (ps.map (·.complaint.message))))

/-- The id given, or a new one. -/
def Founding.settleId (o : Founding) : Service String :=
  match o.id.filter (!·.isEmpty) with
  | some id => pure id
  | none => drawId "app" 8

/-- Creates an app. -/
def create (o : Founding) : Service App := do
  let id ← o.settleId
  let a ← settle (o.read id)
  let _ ← checkDocument a.workflow
  note .apps .info s!"Creating new app: {a.name}"
  let s ← query creating
  if (s.app? a.id).isSome then refuse (.takenAppId a.id)
  commit (·.addApp (.ofApp a))
  note .apps .info s!"Successfully created app '{a.name}' with ID: {a.id}"
  return a

/-- Changes the name, the icon and the color of an app, each where it is given. -/
def update (id : Option String) (name icon themeColor : Option String) : Service App := do
  if name.any blank then refuse .emptyAppName
  let s ← query updating
  let r ← settle (requireRow s id)
  let r :=
    { r with
      name := (name.map trim).getD r.name
      icon := icon.getD r.icon
      themeColor := themeColor.getD r.themeColor }
  -- The change stays even where the workflow of the app cannot be read back.
  commit (·.replaceApp r)
  let a ← settle (readRow r)
  note .apps .info s!"Updated app {a.id}"
  return a

/-- Removes an app together with its cases, and tells whether there was one. -/
def remove (id : Option String) : Service Bool := do
  note .apps .info s!"Deleting app with ID: {Error.idText id}"
  let s ← query deleting
  match id.bind s.app? with
  | none =>
    note .apps .warning s!"App with ID '{Error.idText id}' not found for deletion"
    return false
  | some r =>
    let count := (s.cases.filter (·.appId == r.id)).length
    commit (·.removeApp r.id)
    note .apps .info s!"Successfully deleted app {r.id} and {count} cases"
    return true

/-- Keeps a new workflow of an app. -/
def saveWorkflow (id : Option String) (d : Document) : Service Unit := do
  let s ← query saving
  let r ← settle (requireRow s id)
  commit (·.replaceApp { r with workflow := d.kept })
  note .apps .debug
    s!"Saved workflow for app {r.id}: {d.nodes.length} nodes, {d.edges.length} edges"

/-- Takes over a whole document as the workflow of an app. -/
def replaceWorkflow (id : Option String) (d : Document) : Service Findings := do
  let f ← checkDocument d
  saveWorkflow id d
  note .apps .info s!"Replaced workflow for app {Error.idText id}"
  return f

/-- Validates the workflow of an app. -/
def validateWorkflow (id : Option String) (knownUsers : Option (List String)) :
    Service Findings := do
  let d ← workflow id
  let f := d.validate knownUsers
  write [Editor.validationNote f]
  return f

/-- An editor of the workflow of an app. -/
def editorFor (id : Option String) : Service Editor := do
  let d ← workflow id
  return { document := d, loops := (← get).policy.loops }

/-- Runs a command in an editor that keeps every change as the workflow of an app. -/
def command (id : Option String) (ed : Editor) (c : Command) :
    Service (Except Failure (Document × Made) × Editor) := do
  write (ed.commandNotes c)
  let w ← get
  let (r, ed', ids, w') := ed.run (fun d w => (saveWorkflow id d).run w) c w.ids w
  -- The editor may have drawn ids even where keeping the document failed.
  set { w' with ids }
  match r with
  | .ok (_, .noEdge) => pure ()
  | .ok (d, _) => write [Editor.changeNote c d]
  | .error _ => pure ()
  return (r, ed')

/-- Runs one command on the workflow of an app. -/
def edit (id : Option String) (c : Command) : Service (Document × Made) := do
  let ed ← editorFor id
  let (r, _) ← command id ed c
  settle r

/-- Creates the apps that are not stored yet, and tells how many there were. -/
def seed : List Seed.AppSeed → Service Nat
  | [] => return 0
  | a :: rest => do
    match ← attempt (find (some a.id)) with
    | .ok _ => seed rest
    | .error f =>
      if f.isNotFound then
        let _ ← create { name := .text a.name, icon := .text a.icon,
                         themeColor := .text a.themeColor, id := some a.id }
        return (← seed rest) + 1
      else throw f

end CaseFlow.Apps
