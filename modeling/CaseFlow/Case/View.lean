import CaseFlow.Case.Transition
import CaseFlow.Form.Rendering

/-!
# Views of a case

What a user is shown of a case: the form of its current step with the decisions that the step
offers, and how far the case has come at every step.
-/

namespace CaseFlow

/-- A way out of an approval step. -/
structure Decision where
  /-- The edge that is followed. -/
  edgeId : String
  /-- The step that it leads to. -/
  target : String
  /-- What the decision is called. -/
  label : String
  deriving DecidableEq, Repr, Inhabited

/-- A decision as a value. -/
def Decision.toValue (d : Decision) : Value :=
  .object [("edge_id", .text d.edgeId), ("target", .text d.target), ("label", .text d.label)]

namespace Document

/-- The name of the decision to follow an edge: the label of the edge, or else the label of the
step that it leads to. -/
def decisionLabel (d : Document) (e : Edge) : String :=
  match e.label.filter (!·.isEmpty) with
  | some label => label
  | none => ((d.node? e.target).map (·.label)).getD e.target

/-- The decisions that a step offers: all ways out of it, if its form asks for an approval. -/
def decisions (d : Document) (n : Node) : List Decision :=
  if n.form.any (·.mode == .approval) then
    (d.outgoing n.id).map fun e =>
      { edgeId := e.id, target := e.target, label := d.decisionLabel e }
  else []

end Document

/-- The form that a case presents to a user at its current step. -/
structure StepForm where
  /-- The case. -/
  caseId : String
  /-- The step at which the case sits. -/
  stepId : Option String
  /-- The step, if the workflow still has it. -/
  node : Option Node := none
  /-- The fields of its form. -/
  fields : List RenderedField := []
  /-- The decisions that it offers. -/
  decisions : List Decision := []
  /-- The user to whom it is assigned. -/
  assignee : Option User := none
  /-- Whether the user who looks may complete it. -/
  completable : Bool := false
  deriving Repr, Inhabited

namespace StepForm

/-- The form of a step as a value. -/
def toValue (f : StepForm) : Value :=
  let mode := (f.node.bind (·.form)).map fun form => Worded.word form.mode
  .object
    [("case_id", .text f.caseId), ("step_id", .ofText? f.stepId),
      ("step_label", .ofText? (f.node.map (·.label))),
      ("step_type", .ofText? (f.node.map (·.type.word))), ("mode", .ofText? mode),
      ("fields", .list (f.fields.map RenderedField.toValue)),
      ("decisions", .list (f.decisions.map Decision.toValue)),
      ("assignee", (f.assignee.map User.toValue).getD .null),
      ("can_complete", .bool f.completable)]

end StepForm

/-- The form that a case presents to a user. -/
def Case.stepForm (c : Case) (d : Document) (lookup : Lookup) (userId : Option String) :
    StepForm :=
  match c.currentStep.bind d.node? with
  | none => { caseId := c.id, stepId := c.currentStep }
  | some n =>
    { caseId := c.id, stepId := some n.id, node := some n
      fields := (n.form.map (·.render c.formData)).getD []
      decisions := d.decisions n
      assignee := (n.assignee.text?.filter (!·.isEmpty)).bind lookup
      completable := c.canComplete d lookup userId }

/-- How far a case has come at a step. -/
structure StepProgress where
  /-- The step. -/
  node : Node
  /-- How far the case has come. -/
  status : StepStatus
  /-- The user to whom the step is assigned. -/
  assignee : Option User
  deriving Repr

/-- Progress at a step as a value. -/
def StepProgress.toValue (p : StepProgress) : Value :=
  .object
    [("step_id", .text p.node.id), ("label", .text p.node.label),
      ("type", .text p.node.type.word), ("status", .text p.status.word),
      ("assignee", (p.assignee.map User.toValue).getD .null)]

/-- How far a case has come at every step of its workflow. -/
def Case.stepProgress (c : Case) (d : Document) (lookup : Lookup) : List StepProgress :=
  d.nodes.map fun n =>
    { node := n, status := c.stepStatus n.id
      assignee := (n.assignee.text?.filter (!·.isEmpty)).bind lookup }

end CaseFlow
