import CaseFlow.Board.Columns
import CaseFlow.Board.Lists
import CaseFlow.Canvas.Geometry
import CaseFlow.Http.Body
import CaseFlow.Http.Response
import CaseFlow.Service.Cases
import CaseFlow.Settings.Basic

/-!
# Routes

What can be asked of the service. A route is found by the path and the method of a request; it
reads what else the request brings and, if that is in order, is carried out as a service.
-/

namespace CaseFlow.Http

open CaseFlow.Text

/-- What can be asked of the service. -/
inductive Route where
  /-- Whether it runs. -/
  | root
  /-- Whether it works. -/
  | health
  /-- All users. -/
  | listUsers
  /-- Adds a user. -/
  | inviteUser
  /-- Changes a user. -/
  | updateUser (userId : String)
  /-- Removes a user. -/
  | deleteUser (userId : String)
  /-- All apps. -/
  | listApps
  /-- Creates an app. -/
  | createApp
  /-- An app. -/
  | app (appId : String)
  /-- Changes an app. -/
  | updateApp (appId : String)
  /-- Removes an app with its cases. -/
  | deleteApp (appId : String)
  /-- The workflow of an app. -/
  | workflow (appId : String)
  /-- Takes over a whole workflow. -/
  | replaceWorkflow (appId : String)
  /-- Validates the workflow of an app. -/
  | validateWorkflow (appId : String)
  /-- The lines of a workflow on the canvas. -/
  | layout (appId : String)
  /-- Adds a node. -/
  | addNode (appId : String)
  /-- Changes a node. -/
  | updateNode (appId nodeId : String)
  /-- Moves a node. -/
  | moveNode (appId nodeId : String)
  /-- Removes a node with its edges. -/
  | deleteNode (appId nodeId : String)
  /-- Connects two nodes. -/
  | connect (appId : String)
  /-- Removes an edge. -/
  | deleteEdge (appId edgeId : String)
  /-- Sets the mode of a form. -/
  | setFormMode (appId nodeId : String)
  /-- Adds a field to a form. -/
  | addFormField (appId nodeId : String)
  /-- Changes a field of a form. -/
  | updateFormField (appId nodeId fieldId : String)
  /-- Removes a field of a form. -/
  | deleteFormField (appId nodeId fieldId : String)
  /-- The board of an app. -/
  | board (appId : String)
  /-- The cases of an app. -/
  | appCases (appId : String)
  /-- The cases of an app by status. -/
  | casesByStatus (appId : String)
  /-- The cases that wait for the acting user. -/
  | awaitingMe (appId : String)
  /-- Opens a case. -/
  | createCase (appId : String)
  /-- The most recent cases. -/
  | recentCases
  /-- A case. -/
  | case (caseId : String)
  /-- The form of a case at its current step. -/
  | stepForm (caseId : String)
  /-- How far a case has come. -/
  | stepProgress (caseId : String)
  /-- Completes the current step of a case. -/
  | completeStep (caseId : String)
  /-- Places a case on a step. -/
  | placeCase (caseId : String)
  deriving DecidableEq, Repr

namespace Route

/-! ## Finding routes -/

/-- The routes below an app, by method. -/
def belowApp (id : String) : List String → List (String × Route)
  | [] => [("GET", .app id), ("PATCH", .updateApp id), ("DELETE", .deleteApp id)]
  | ["workflow"] => [("GET", .workflow id), ("PUT", .replaceWorkflow id)]
  | ["workflow", "validate"] => [("GET", .validateWorkflow id)]
  | ["workflow", "layout"] => [("GET", .layout id)]
  | ["workflow", "nodes"] => [("POST", .addNode id)]
  | ["workflow", "nodes", n] => [("PATCH", .updateNode id n), ("DELETE", .deleteNode id n)]
  | ["workflow", "nodes", n, "position"] => [("PUT", .moveNode id n)]
  | ["workflow", "edges"] => [("POST", .connect id)]
  | ["workflow", "edges", e] => [("DELETE", .deleteEdge id e)]
  | ["workflow", "nodes", n, "form", "mode"] => [("PUT", .setFormMode id n)]
  | ["workflow", "nodes", n, "form", "fields"] => [("POST", .addFormField id n)]
  | ["workflow", "nodes", n, "form", "fields", f] =>
    [("PATCH", .updateFormField id n f), ("DELETE", .deleteFormField id n f)]
  | ["board"] => [("GET", .board id)]
  | ["cases"] => [("GET", .appCases id), ("POST", .createCase id)]
  | ["cases", "by-status"] => [("GET", .casesByStatus id)]
  | ["cases", "awaiting-me"] => [("GET", .awaitingMe id)]
  | _ => []

/-- The routes at a path, by method. -/
def atPath : List String → List (String × Route)
  | [""] => [("GET", .root)]
  | ["health"] => [("GET", .health)]
  | ["api", "v1", "users"] => [("GET", .listUsers), ("POST", .inviteUser)]
  | ["api", "v1", "users", id] => [("PATCH", .updateUser id), ("DELETE", .deleteUser id)]
  | ["api", "v1", "apps"] => [("GET", .listApps), ("POST", .createApp)]
  | "api" :: "v1" :: "apps" :: id :: rest => belowApp id rest
  -- The fixed word comes before the ids.
  | ["api", "v1", "cases", "recent"] => [("GET", .recentCases)]
  | ["api", "v1", "cases", id] => [("GET", .case id)]
  | ["api", "v1", "cases", id, "form"] => [("GET", .stepForm id)]
  | ["api", "v1", "cases", id, "progress"] => [("GET", .stepProgress id)]
  | ["api", "v1", "cases", id, "complete"] => [("POST", .completeStep id)]
  | ["api", "v1", "cases", id, "step"] => [("PUT", .placeCase id)]
  | _ => []

/-- The routes of a target, by method; no component of a path may be empty. -/
def ofTarget (t : Target) : List (String × Route) :=
  match t.segments with
  | [""] => atPath [""]
  | segments => if segments.contains "" then [] else atPath segments

/-- Whether a route reads a body. -/
def readsBody : Route → Bool
  | inviteUser | updateUser _ | createApp | updateApp _ | replaceWorkflow _ | addNode _
  | updateNode _ _ | moveNode _ _ | connect _ | setFormMode _ _ | addFormField _ _
  | updateFormField _ _ _ | createCase _ | completeStep _ | placeCase _ => true
  | _ => false

/-- What a service is called that has not been started. -/
def serviceTitle : Resource → String
  | .app => "App manager"
  | .case => "Case manager"
  | .user => "User directory"

/-- The first service that a route asks for. -/
def service? : Route → Option Resource
  | root | health => none
  | listUsers | inviteUser | updateUser _ | deleteUser _ => some .user
  | createCase _ | recentCases | case _ | completeStep _ | placeCase _ => some .case
  | _ => some .app

/-! ## Carrying out routes -/

/-- What a request brings besides its method and its path. -/
structure Inputs where
  /-- The user on whose behalf the request is made. -/
  actingUser : Option String
  /-- The body. -/
  payload : Request.Payload
  /-- The target. -/
  target : Target

/-- A list in a response. -/
def listing {α : Type} (toValue : α → Value) (xs : List α) : Response :=
  .ok (.list (xs.map toValue))

/-- Runs a command on the workflow of an app and answers with the workflow. -/
def edit (appId : String) (c : Command) : Service Value := do
  let (d, _) ← Apps.edit (some appId) c
  return d.toValue

/-- Adds a node and answers with it. -/
def addedNode (appId : String) (c : Command) : Service Response := do
  let (d, m) ← Apps.edit (some appId) c
  return .created (match m with
    | .node n => n.toValue
    | _ => d.toValue)

/-- Connects two nodes and answers whether there is a new edge. -/
def connected (appId : String) (c : Command) : Service Response := do
  let (d, m) ← Apps.edit (some appId) c
  let answer (created : Bool) (edge : Value) : Value :=
    .object [("created", .bool created), ("edge", edge), ("workflow", d.toValue)]
  return match m with
    | .edge e => .created (answer true e.toValue)
    | _ => .ok (answer false .null)

/-- Changes a node; it can be assigned to known users only. -/
def changedNode (appId nodeId : String) (patch : Fields) : Service Response := do
  let assignee := (patch.get? "assignee_id").getD .null
  if assignee.truthy then
    -- An empty assignee lifts the gate and needs nobody.
    if !(← Directory.knows assignee) then
      Service.refuse (.unknownNodeAssignee nodeId assignee)
  return .ok (← edit appId (.updateNode nodeId patch))

/-- A line on the canvas as a value. -/
def lineValue (p : String × Segment) : Value :=
  .object [("edge_id", .text p.1), ("x1", .float p.2.start.x), ("y1", .float p.2.start.y),
    ("x2", .float p.2.finish.x), ("y2", .float p.2.finish.y)]

/-- The name of the service for machines. -/
def serviceName (s : Settings) : String :=
  String.ofList ((lower s.appName).toList.map fun c => if c == ' ' then '-' else c)

/-- Whether the service works. -/
def healthReport (s : Settings) : Service Response := do
  let reachable ← Service.isReachable
  return .ok (.object
    [("status", .text (if reachable then "healthy" else "degraded")),
      ("service", .text (serviceName s)), ("version", .text s.appVersion),
      ("database", .text (if reachable then "ok" else "unreachable"))])

/-- The cases of an app that wait for a user; none wait for nobody. -/
def awaiting (appId : String) (userId : Option String) : Service Response := do
  match userId.filter (!·.isEmpty) with
  | none => return .ok (.list [])
  | some u =>
    let d ← Apps.workflow (some appId)
    return listing Case.toValue (casesAwaiting (← Cases.list (some appId)) d u)

/-- What a route does, once it has read what the request brings. -/
def serve (s : Settings) (q : Inputs) : Route → Checked (Service Response)
  | root => .ok do
    return .ok (.object [("message", .text (s.appName ++ " is running")),
      ("version", .text s.appVersion)])
  | health => .ok (healthReport s)
  | listUsers => .ok do return listing User.toValue (← Directory.list)
  | inviteUser => (readRecord Invitation.read q.payload).map fun b => do
    let _ ← Directory.requireAdmin q.actingUser
    let u ← Directory.invite (some b.email) (.text (Worded.word b.role)) b.name
    return .created u.toValue
  | updateUser id => (readRecord UserChange.read q.payload).map fun b => do
    let _ ← Directory.requireAdmin q.actingUser
    let u ← Directory.update (some id) b.name (.ofText? (b.role.map Worded.word))
    return .ok u.toValue
  | deleteUser id => .ok do
    let _ ← Directory.requireAdmin q.actingUser
    if !(← Directory.remove (some id) q.actingUser) then
      Service.refuse (.notFound .user (some id))
    return .empty
  | listApps => .ok do return listing App.toValue (← Apps.list)
  | createApp => (readRecord readFounding q.payload).map fun b => do
    Service.note .routes .info ("Creating new app: " ++ b.name.shown)
    return .created (← Apps.create b).toValue
  | app id => .ok do return .ok (← Apps.find (some id)).toValue
  | updateApp id => (readRecord AppChange.read q.payload).map fun b => do
    return .ok (← Apps.update (some id) b.name b.icon b.themeColor).toValue
  | deleteApp id => .ok do
    if !(← Apps.remove (some id)) then Service.refuse (.notFound .app (some id))
    return .empty
  | workflow id => .ok do return .ok (← Apps.workflow (some id)).toValue
  | replaceWorkflow id => (readRecord Document.readFields q.payload).map fun d => do
    return .ok (← Apps.replaceWorkflow (some id) d).report.toValue
  | validateWorkflow id => .ok do
    let users ← Directory.list
    return .ok (← Apps.validateWorkflow (some id) (some (users.map (·.id)))).report.toValue
  | layout id => .ok do return listing lineValue (← Apps.workflow (some id)).layout
  | addNode id => (readRecord readNewNode q.payload).map (addedNode id)
  | updateNode id n => (readFields q.payload).map (changedNode id n)
  | moveNode id n => (readRecord Position.readFields q.payload).map fun p => do
    return .ok (← edit id (.moveNode n p.toValue))
  | deleteNode id n => .ok do return .ok (← edit id (.deleteNode n))
  | connect id => (readRecord readConnection q.payload).map (connected id)
  | deleteEdge id e => .ok do return .ok (← edit id (.deleteEdge e))
  | setFormMode id n => (readRecord readMode q.payload).map fun m => do
    return .ok (← edit id (.setFormMode n (.text (Worded.word m))))
  | addFormField id n => (readFields q.payload).map fun fs => do
    return .created (← edit id (.addFormField n (.object fs)))
  | updateFormField id n f => (readFields q.payload).map fun fs => do
    return .ok (← edit id (.updateFormField n f fs))
  | deleteFormField id n f => .ok do return .ok (← edit id (.deleteFormField n f))
  | board id => .ok do
    let d ← Apps.workflow (some id)
    return listing Column.toValue (d.board (← Cases.list (some id)))
  | appCases id => .ok do
    let _ ← Apps.find (some id)
    return listing Case.toValue (← Cases.list (some id))
  | casesByStatus id => .ok do
    let _ ← Apps.find (some id)
    let groups := byStatus (← Cases.list (some id))
    return .ok (.object (groups.map fun g =>
      (Worded.word g.1, .list (g.2.map Case.toValue))))
  | awaitingMe id => .ok (awaiting id q.actingUser)
  | createCase id => (readRecord readOpening q.payload).map fun o => do
    return .created (← Cases.create (some id) o).toValue
  | recentCases => (readLimit q.target).map fun n => do
    let cases ← Service.settle (CaseFlow.recentCases (← Cases.list none) (some n))
    return listing Case.toValue cases
  | case id => .ok do return .ok (← Cases.find (some id)).toValue
  | stepForm id => .ok do return .ok (← Cases.stepForm (some id) q.actingUser).toValue
  | stepProgress id => .ok do
    return listing StepProgress.toValue (← Cases.stepProgress (some id))
  | completeStep id => (readRecord (readCompletion q.actingUser) q.payload).map fun c => do
    Service.note .routes .info
      s!"Completing step {Error.idText c.stepId} of case {id} as {Error.idText c.userId}"
    return .ok (← Cases.complete (some id) c).toValue
  | placeCase id => (readRecord readPlace q.payload).map fun stepId => do
    return .ok (← Cases.setStep (some id) (some stepId)).toValue

end Route

end CaseFlow.Http
