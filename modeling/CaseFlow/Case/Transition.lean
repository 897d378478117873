import CaseFlow.Audit.Note
import CaseFlow.Case.Basic
import CaseFlow.Directory.User
import CaseFlow.Error.Cause
import CaseFlow.Form.Submission
import CaseFlow.Workflow.Identity

/-!
# Transitions

How a case moves through its workflow: which step comes next, who may complete a step, and what
becomes of a case that completes a step or is placed on one by hand.
-/

namespace CaseFlow

/-- Finds users by id. -/
abbrev Lookup := String → Option User

namespace Document

/-- The node at which a case sits, which has to exist. -/
def requireStep (d : Document) (stepId : Option String) : Except Error Node :=
  match stepId.bind d.node? with
  | some n => .ok n
  | none => .error (.unknownStep stepId)

/-- The target that a choice settles among several edges. -/
def chosen? (out : List Edge) (choice : Option String) : Option String :=
  match choice with
  | some c => if !c.isEmpty && out.any (·.target == c) then some c else none
  | none => none

/-- The target that the edges out of a step settle. A single edge always wins; among several a
choice decides that names one of their targets; without one the first edge is followed, unless a
choice is demanded. -/
def pickTarget (strict : Bool) (stepId : String) (choice : Option String) :
    List Edge → Except Error String
  | [] => .error (.deadEnd stepId)
  | [e] => .ok e.target
  | e :: f :: rest =>
    match chosen? (e :: f :: rest) choice with
    | some c => .ok c
    | none =>
      if strict then .error (.ambiguous stepId ((e :: f :: rest).map (·.target)))
      else .ok e.target

/-- The step that a case moves to when it leaves a step. -/
def nextStep (d : Document) (strict : Bool) (stepId choice : Option String) :
    Except Error Node := do
  let n ← d.requireStep stepId
  let target ← pickTarget strict n.id choice (d.outgoing n.id)
  d.requireStep (some target)

/-- The notes of looking for the next step. -/
def nextStepNotes (d : Document) (strict : Bool) (stepId choice : Option String) : List Note :=
  match stepId.bind d.node? with
  | none => []
  | some n =>
    match d.outgoing n.id with
    | [] => [Logger.progression.note .warning s!"No outgoing edge from step {n.id}"]
    | [_] => []
    | e :: f :: rest =>
      if strict || (chosen? (e :: f :: rest) choice).isSome then []
      else
        let given := (Value.ofText? choice).written
        [Logger.progression.note .warning
          (s!"Step {n.id} has {rest.length + 2} outgoing edges and no valid choice ({given}); " ++
            s!"following the first to {e.target}")]

end Document

/-- The user who acts, provided that they may complete the step: a known user, and the assignee
where the step has one. -/
def authorize (lookup : Lookup) (n : Node) (userId : Option String) : Except Error User :=
  match (userId.filter fun u => !u.isEmpty).bind lookup with
  | none => .error (.unknownActor userId n.label n.id)
  | some user =>
    if n.isGated && n.assignee.text? != some user.id then
      .error (.notAssigned n.label n.id user.id n.assignee)
    else .ok user

/-- The status of a case that is placed on a step. -/
def statusFor : NodeType → CaseStatus
  | .start => .new
  | .finish => .closed
  | .task | .gateway | .timer | .message => .inProgress

namespace Case

/-- Whether a user may act on the current step of a case. -/
def canComplete (c : Case) (d : Document) (lookup : Lookup) (userId : Option String) : Bool :=
  match c.currentStep.bind d.node? with
  | none => false
  | some n => n.type != .finish && (authorize lookup n userId).isOk

/-- The user responsible after a move to a step: its assignee, if somebody knows them. Without a
lookup every assignee counts as known. -/
def nextAssignee (c : Case) (lookup : Option Lookup) (n : Node) : Option String :=
  if n.isGated then
    match n.assignee.text?, lookup with
    | some u, some find => if (find u).isSome then some u else c.assigneeId
    -- Nobody is there to be asked.
    | some u, none => some u
    | none, _ => c.assigneeId
  else c.assigneeId

/-- The note of an assignee whom nobody knows. -/
def nextAssigneeNotes (c : Case) (lookup : Option Lookup) (n : Node) : List Note :=
  match lookup with
  | some find =>
    if n.isGated && !((n.assignee.text?.bind find).isSome) then
      [Logger.progression.note .warning
        (s!"Step {n.id} is assigned to unknown user {n.assignee.shown}; " ++
          s!"keeping assignee {Error.idText c.assigneeId}")]
    else []
  | none => []

/-- The entry for leaving a step; it has to name a step and a user. -/
def eventFor (stepId userId : Option String) (now : Timestamp) : Except Failure Event :=
  let fs : Fields :=
    [("step_id", .ofText? stepId), ("user_id", .ofText? userId), ("completed_at", .timestamp now)]
  ((Event.readFields fs).toExcept "WorkflowEvent").mapError .rejected

/-- Moves a case along an edge that leaves a step: one more entry in the history, the step that
comes next, and its assignee; a case that arrives at a final step is closed. -/
def moveOn (c : Case) (d : Document) (strict : Bool) (lookup : Option Lookup)
    (stepId userId choice : Option String) (now : Timestamp) : Except Failure Case := do
  let n ← (d.requireStep stepId).mapError Failure.refused
  -- A closed case has no next step, whatever edges leave its final step.
  if n.type == .finish then throw (.refused (.caseClosed c.id n.id (some n.label)))
  let next ← (d.nextStep strict stepId choice).mapError Failure.refused
  let event ← eventFor stepId userId now
  return { c with
    currentStep := some next.id
    history := c.history ++ [event]
    status := if next.type == .finish then .closed else c.status
    assigneeId := c.nextAssignee lookup next }

/-- The notes of a move. -/
def moveOnNotes (c : Case) (d : Document) (strict : Bool) (lookup : Option Lookup)
    (stepId choice : Option String) : List Note :=
  match stepId.bind d.node? with
  | none => []
  | some n =>
    if n.type == .finish then []
    else
      d.nextStepNotes strict stepId choice ++
        (match d.nextStep strict stepId choice with
          | .ok next => c.nextAssigneeNotes lookup next
          | .error _ => [])

/-- Places a case on a step by hand; the history stays as it is. -/
def place (c : Case) (d : Document) (stepId : Option String) : Except Error Case := do
  let n ← d.requireStep stepId
  return { c with currentStep := some n.id, status := statusFor n.type }

/-- How far a case is with a step. -/
def stepStatus (c : Case) (nodeId : String) : StepStatus :=
  if c.currentStep == some nodeId then .inProgress
  else if c.history.any (·.stepId == nodeId) then .completed
  else .pending

/-- What is told about a case that is to be opened. -/
structure Opening where
  /-- The app. -/
  appId : Value
  /-- The title. -/
  title : Value
  /-- The description. -/
  description : Value := .text ""
  /-- The urgency. -/
  priority : Value := .text "Medium"
  /-- The user responsible. -/
  assigneeId : Value := .null
  /-- The client. -/
  client : Value := .text ""
  /-- The tags. -/
  tags : Value := .list []
  /-- The id; a new one is drawn where it is absent. -/
  caseId : Value := .null
  deriving Repr, BEq

/-- The list of tags that a value stands for: a list, the characters of a text, or the names of
an object. -/
def tagList : Value → Except Failure Value
  | .list xs => .ok (.list xs)
  | .text s => .ok (.list (s.toList.map fun c => .text (String.singleton c)))
  | .object fs => .ok (.ofTexts (Fields.names fs))
  | _ => .error (.fault .shape)

/-- Opens a case at the first start of a workflow. -/
def opened (d : Document) (o : Opening) (now : Timestamp) (ids : IdSource) :
    Except Failure Case × IdSource :=
  match d.starts with
  | [] => (.error (.refused .noStart), ids)
  | start :: _ =>
    let (id, ids) :=
      if o.caseId.truthy then (o.caseId, ids)
      else
        let (fresh, ids) := ids.draw "case" 12
        (.text fresh, ids)
    let made : Except Failure Case := do
      let tags ← tagList o.tags
      let fs : Fields :=
        [("id", id), ("app_id", o.appId), ("title", o.title), ("description", o.description),
          ("status", .text (Worded.word CaseStatus.new)), ("priority", o.priority),
          ("assignee_id", o.assigneeId), ("client", o.client), ("tags", tags),
          ("created_at", .timestamp now), ("current_workflow_step_id", .text start.id)]
      ((Case.readFields fs).toExcept recordName).mapError .rejected
    (made, ids)

end Case

end CaseFlow
