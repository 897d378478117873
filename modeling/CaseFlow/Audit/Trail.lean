import CaseFlow.Audit.Note
import CaseFlow.Error.Report
import CaseFlow.Value.Display

/-!
# The audit trail

What is written down of the transitions of cases and of the changes of documents: where a case
went, why it did not, and how large a document has become. Each component of the engine keeps a
trail of its own.
-/

namespace CaseFlow

/-- The trail of a component. -/
structure Trail where
  /-- The name of the component. -/
  component : String
  deriving DecidableEq, Repr

namespace Trail

/-- The trail of the rules. -/
def progression : Trail := ⟨"progression"⟩

/-- The trail of the editor. -/
def editor : Trail := ⟨"editor"⟩

/-- An entry of a trail. -/
def note (t : Trail) (level : Level) (message : String) (fields : Fields) : Note :=
  { level, logger := "casework.events." ++ t.component, message
    fields := ("component", .text t.component) :: fields }

/-- A case that goes from one step to another, on its way or by hand. -/
def moved (t : Trail) (caseId source target status userId manual : Value) : Note :=
  let how := if manual.truthy then "placed" else "moved"
  t.note .info
    (s!"Case {caseId.shown} {how} from {source.shown} to {target.shown} ({status.shown})")
    [("case_id", caseId), ("from_step_id", source), ("to_step_id", target), ("status", status),
      ("user_id", userId), ("manual", manual)]

/-- A transition that was refused, by the name and the message of the error. -/
def refused (t : Trail) (caseId stepId : Value) (error message : String) : Note :=
  t.note .warning s!"Transition of case {caseId.shown} from {stepId.shown} refused: {message}"
    [("case_id", caseId), ("step_id", stepId), ("error_type", .text error)]

/-- A new version of a document, by the operation that made it and the counts of its parts. -/
def changed (t : Trail) (operation nodes edges : Value) : Note :=
  t.note .debug
    (s!"Workflow updated by {operation.shown}: {nodes.shown} nodes, {edges.shown} edges")
    [("operation", operation), ("node_count", nodes), ("edge_count", edges)]

end Trail

end CaseFlow
