import CaseFlow.Case.View
import CaseFlow.Service.Apps
import CaseFlow.Service.Directory

/-!
# Cases in the store

Opens cases, moves them through the workflows of their apps, and keeps every change.
-/

namespace CaseFlow.Cases

open Service

/-- Looking up a case. -/
def retrieving : StoreAction := ⟨.case, "get", "retrieve case", "retrieving case"⟩

/-- Listing cases. -/
def listing : StoreAction := ⟨.case, "list", "list cases", "listing cases"⟩

/-- Keeping a case. -/
def saving : StoreAction := ⟨.case, "save", "save case", "saving case"⟩

/-- The row of a case, which has to be stored. -/
def requireRow (s : Store) (id : Option String) : Except Failure CaseRow :=
  match id.bind s.case? with
  | some r => .ok r
  | none => .error (.refused (.notFound .case id))

/-- The case of a row. -/
def readRow (r : CaseRow) : Except Failure Case := r.read.mapError .rejected

/-- The case with an id. -/
def find (id : Option String) : Service Case := do
  let s ← query retrieving
  settle ((requireRow s id).bind readRow)

/-- All cases, or those of one app, newest first. -/
def list (appId : Option String) : Service (List Case) := do
  let s ← query listing
  let cases ← settle ((s.listCases appId).mapM readRow)
  note .cases .debug s!"Retrieved {cases.length} cases"
  return cases

/-- Keeps a case, whose app has to be stored. -/
def save (c : Case) : Service Unit := do
  let s ← query saving
  if (s.app? c.appId).isNone then refuse (.notFound .app (some c.appId))
  commit (·.keepCase c)
  note .cases .debug
    s!"Saved case {c.id} at step {Error.idText c.currentStep} ({Worded.word c.status})"

/-- The decision on opening a case, with its refusals in words. -/
def openingOutcome : Except Failure Case → Except Failure Case
  | .error (.rejected r) =>
    .error (.refused (.invalidCase (r.problems.map (·.complaint.message))))
  | outcome => outcome

/-- The assignee of a new case has to be known, if there is one. -/
def checkAssignee (assigneeId : Value) : Service Unit := do
  if assigneeId.truthy then
    if (← Directory.resolve? assigneeId.text?).isNone then
      refuse (.unknownAssignee assigneeId)

/-- Opens a case at the first start of its app's workflow. -/
def create (appId : Option String) (o : Case.Opening) : Service Case := do
  let d ← Apps.workflow appId
  checkAssignee o.assigneeId
  let now ← readClock
  let outcome ← draw (Case.opened d { o with appId := .ofText? appId } now)
  let c ← settle (openingOutcome outcome)
  save c
  note .cases .info
    s!"Created case {c.id} in app {c.appId} at step {Error.idText c.currentStep}"
  return c

/-- The rules by which cases move. -/
def rules : Service Rules := do
  let w ← get
  return { lookup := w.store.user?, strict := w.policy.strict }

/-- Completes the current step of a case. -/
def complete (id : Option String) (q : Completion) : Service Case := do
  let c ← find id
  let d ← Apps.workflow (some c.appId)
  let r ← rules
  write (r.completeNotes c d q)
  let w ← get
  -- The clock is read only by a completion that gets as far as its entry in the history.
  let clock := r.clockAfter c d q w.clock
  let (outcome, notes, w') :=
    r.run (fun c' w => (save c').run w) c d q w.clock.now { w with clock }
  set w'
  write notes
  settle outcome

/-- Places a case on a step by hand. -/
def setStep (id stepId : Option String) : Service Case := do
  let c ← find id
  let d ← Apps.workflow (some c.appId)
  let c' ← settle ((c.place d stepId).mapError Failure.refused)
  save c'
  write [Rules.moveNote c.id c.currentStep stepId c'.status none true]
  return c'

/-- The form that a case presents to a user at its current step. -/
def stepForm (id userId : Option String) : Service StepForm := do
  let c ← find id
  let d ← Apps.workflow (some c.appId)
  return c.stepForm d (← get).store.user? userId

/-- How far a case has come at every step of its workflow. -/
def stepProgress (id : Option String) : Service (List StepProgress) := do
  let c ← find id
  let d ← Apps.workflow (some c.appId)
  return c.stepProgress d (← get).store.user?

/-- Keeps the cases whose ids are free and whose apps are among the given ones, and tells how many
there were. -/
def seedInto (appIds : List String) : List Case → Service Nat
  | [] => return 0
  | c :: rest => do
    if !appIds.contains c.appId then
      note .cases .warning s!"Skipping demo case {c.id}: app {c.appId} does not exist"
      seedInto appIds rest
    else
      match ← attempt (find (some c.id)) with
      | .ok _ => seedInto appIds rest
      | .error f =>
        if f.isNotFound then
          save c
          return (← seedInto appIds rest) + 1
        else throw f

/-- Keeps the cases whose ids are free and whose apps are stored, and tells how many there were. -/
def seed (cases : List Case) : Service Nat := do
  let apps ← Apps.list
  seedInto (apps.map (·.id)) cases

end CaseFlow.Cases
