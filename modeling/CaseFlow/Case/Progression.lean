import CaseFlow.Audit.Trail
import CaseFlow.Case.Transition

/-!
# Progression of cases

The rules under which users move cases. A completion is checked in a fixed order: the case is at
the step that the user means, the step exists, it is not final, the user may complete it, and the
form accepts the values. Then the clock is read and the case moves on. A completion takes effect
as a whole or not at all.
-/

namespace CaseFlow

/-- A clock that advances by a fixed number of seconds at each reading. -/
structure Clock where
  /-- The next reading. -/
  now : Timestamp
  /-- The seconds between readings. -/
  step : Int := 60
  deriving Repr, BEq, Inhabited

/-- The clock after a reading. -/
def Clock.tick (c : Clock) : Clock := { c with now := c.now.plusSeconds c.step }

/-- What a user asks for when completing a step. -/
structure Completion where
  /-- The step at which the user believes the case to be. -/
  stepId : Option String
  /-- The user. -/
  userId : Option String
  /-- The step chosen to come next. -/
  choice : Option String := none
  /-- The values for the form of the step. -/
  values : Fields := []
  deriving Repr, BEq, Inhabited

/-- The rules of an installation. -/
structure Rules where
  /-- Finds users. -/
  lookup : Lookup
  /-- Whether a step with several ways out demands a choice. -/
  strict : Bool := false

namespace Rules

/-- The step that a completion is about, after all checks that come before the form. -/
def gate (r : Rules) (c : Case) (d : Document) (q : Completion) : Except Error Node := do
  if c.currentStep != q.stepId then throw (.staleStep c.id c.currentStep q.stepId)
  let n ← d.requireStep q.stepId
  if n.type == .finish then throw (.caseClosed c.id n.id none)
  let _ ← authorize r.lookup n q.userId
  return n

/-- The case with the values of the form recorded. -/
def recorded (c : Case) (n : Node) (values : Fields) : Except Error Case :=
  match n.form with
  | none => .ok c
  | some form => (form.submit c.formData values).map fun vs =>
    { c with formData := c.formData.merge vs }

/-- The case just before it moves: all checks made and the form recorded. -/
def prepare (r : Rules) (c : Case) (d : Document) (q : Completion) : Except Error Case := do
  let n ← r.gate c d q
  recorded c n q.values

/-- Completes the current step of a case. -/
def complete (r : Rules) (c : Case) (d : Document) (q : Completion) (now : Timestamp) :
    Except Failure Case := do
  let working ← (r.prepare c d q).mapError Failure.refused
  working.moveOn d r.strict (some r.lookup) q.stepId q.userId q.choice now

/-- Whether a completion reads the clock, which it does just before the case moves. -/
def readsClock (r : Rules) (c : Case) (d : Document) (q : Completion) : Bool :=
  (r.prepare c d q).isOk

/-- The clock after a completion. -/
def clockAfter (r : Rules) (c : Case) (d : Document) (q : Completion) (clock : Clock) : Clock :=
  if r.readsClock c d q then clock.tick else clock

/-! ## Notes -/

/-- The note of a refused transition. -/
def refusalNote (c : Case) (stepId : Option String) (e : Error) : Note :=
  Trail.progression.refused (.text c.id) (.ofText? stepId) e.kind.code e.message

/-- The note of a transition. -/
def moveNote (caseId : String) (source target : Option String) (status : CaseStatus)
    (userId : Option String) (manual : Bool) : Note :=
  Trail.progression.moved (.text caseId) (.ofText? source) (.ofText? target)
    (.text (Worded.word status)) (.ofText? userId) (.bool manual)

/-- The note of values that a form passes over. -/
def ignoredNotes (form : Form) (values : Fields) : List Note :=
  match Submission.ignored form values with
  | [] => []
  | names => [Logger.forms.note .debug
      ("Ignoring values for fields outside the form: " ++ String.intercalate ", " names)]

/-- The notes of a completion before its outcome is told. -/
def completeNotes (r : Rules) (c : Case) (d : Document) (q : Completion) : List Note :=
  match r.gate c d q with
  | .error _ => []
  | .ok n =>
    (match n.form with
      | some form => ignoredNotes form q.values
      | none => []) ++
      (match r.prepare c d q with
        | .ok working => working.moveOnNotes d r.strict (some r.lookup) q.stepId q.choice
        | .error _ => [])

/-- The note of a completion that failed; only refusals are noted. -/
def failureNotes (c : Case) (stepId : Option String) : Failure → List Note
  | .refused e => [refusalNote c stepId e]
  | .rejected _ | .fault _ => []

/-! ## Keeping the outcome -/

/-- Completes the current step of a case and hands the case on to a keeper with a state of its own.
The keeper sees a completed case once, and nothing of a completion that is refused. The outcome
comes with its notes. -/
def run {σ : Type} (keep : Case → σ → Except Failure Unit × σ) (r : Rules) (c : Case)
    (d : Document) (q : Completion) (now : Timestamp) (s : σ) :
    Except Failure Case × List Note × σ :=
  match r.complete c d q now with
  | .error f => (.error f, failureNotes c q.stepId f, s)
  | .ok c' =>
    match keep c' s with
    | (.error f, s) => (.error f, [], s)
    | (.ok (), s) =>
      (.ok c', [moveNote c.id q.stepId c'.currentStep c'.status q.userId false], s)

end Rules

end CaseFlow
