import CaseFlow.Reading.Checked
import CaseFlow.Text.Blank

/-!
# Workflow documents

A workflow is a graph of steps. Nodes are the steps; edges lead from one step to the next; a task
may carry a form whose fields are filled in when the step is completed. Documents are values:
editing makes a new document.
-/

namespace CaseFlow

/-- The kinds of step. -/
inductive NodeType where
  /-- Where cases begin. -/
  | start
  /-- Where cases are closed. -/
  | finish
  /-- Work for a person. -/
  | task
  /-- A decision. -/
  | gateway
  /-- A delay. -/
  | timer
  /-- A message to the outside. -/
  | message
  deriving DecidableEq, Repr, Inhabited

instance : Worded NodeType where
  all := [.start, .finish, .task, .gateway, .timer, .message]
  word
    | .start => "Start"
    | .finish => "End"
    | .task => "Task"
    | .gateway => "Gateway"
    | .timer => "Timer"
    | .message => "Message"

/-- The word of a kind of step, which is also the label of a new node of that kind. -/
def NodeType.word (t : NodeType) : String := Worded.word t

/-- How a form completes its step. -/
inductive FormMode where
  /-- The form is filled in, and the case moves on. -/
  | fill
  /-- The person decides which edge the case follows. -/
  | approval
  deriving DecidableEq, Repr, Inhabited

instance : Worded FormMode where
  all := [.fill, .approval]
  word
    | .fill => "FILL"
    | .approval => "APPROVAL"

/-- The kinds of form field. -/
inductive FieldType where
  /-- One line of text. -/
  | text
  /-- Several lines of text. -/
  | textarea
  /-- A number. -/
  | number
  /-- A date. -/
  | date
  /-- One of several options. -/
  | select
  /-- Yes or no. -/
  | checkbox
  /-- The value of another field, shown only. -/
  | readonly
  deriving DecidableEq, Repr, Inhabited

instance : Worded FieldType where
  all := [.text, .textarea, .number, .date, .select, .checkbox, .readonly]
  word
    | .text => "text"
    | .textarea => "textarea"
    | .number => "number"
    | .date => "date"
    | .select => "select"
    | .checkbox => "checkbox"
    | .readonly => "readonly-text"

/-- A place on the canvas. -/
structure Position where
  /-- The horizontal coordinate. -/
  x : Float := 0
  /-- The vertical coordinate. -/
  y : Float := 0
  deriving DecidableEq, Repr, Inhabited

/-- An input of a form. -/
structure FormField where
  /-- The id, unique within the document. -/
  id : String
  /-- The label. -/
  label : String
  /-- The kind of input. -/
  type : FieldType := .text
  /-- Whether a value has to be given; never so for a readonly field. -/
  required : Bool := false
  /-- The options of a select field. -/
  options : Option (List String) := none
  /-- The id of the field that a readonly field shows. -/
  source : Option String := none
  deriving DecidableEq, Repr, Inhabited

/-- Whether a field only shows another one. -/
def FormField.isReadonly (f : FormField) : Bool := f.type == .readonly

/-- The form of a task. -/
structure Form where
  /-- How the form completes the step. -/
  mode : FormMode := .fill
  /-- The fields, in order. -/
  fields : List FormField := []
  deriving DecidableEq, Repr, Inhabited

/-- The field with a given id. -/
def Form.field? (f : Form) (id : String) : Option FormField := f.fields.find? (·.id == id)

/-- A step of a workflow. The description and the assignee are texts or absent in a document
that was read; a patch may put any value there, which shows when the document is read again. -/
structure Node where
  /-- The id, unique within the document. -/
  id : String
  /-- The kind of step. -/
  type : NodeType
  /-- The label. -/
  label : String
  /-- A longer description. -/
  description : Value := .null
  /-- The place on the canvas. -/
  position : Position := {}
  /-- The user who alone may complete the step. -/
  assignee : Value := .null
  /-- The form of the step. -/
  form : Option Form := none
  deriving Repr, BEq, Inhabited

/-- The form fields of a node. -/
def Node.fields (n : Node) : List FormField := (n.form.map (·.fields)).getD []

/-- Whether only one user may complete the step. -/
def Node.isGated (n : Node) : Bool := n.assignee.truthy

/-- A transition from one step to another. -/
structure Edge where
  /-- The id, unique within the document. -/
  id : String
  /-- The node that the edge leaves. -/
  source : String
  /-- The node that the edge leads to. -/
  target : String
  /-- The name of the decision that the edge stands for. -/
  label : Option String := none
  deriving DecidableEq, Repr, Inhabited

/-- Whether an edge leaves or reaches a node. -/
def Edge.touches (e : Edge) (nodeId : String) : Bool := e.source == nodeId || e.target == nodeId

/-- A workflow: steps and transitions, both in the order in which they were added. -/
structure Document where
  /-- The steps. -/
  nodes : List Node := []
  /-- The transitions. -/
  edges : List Edge := []
  deriving Repr, BEq, Inhabited

namespace Document

/-- The node with a given id. -/
def node? (d : Document) (id : String) : Option Node := d.nodes.find? (·.id == id)

/-- The edge with a given id. -/
def edge? (d : Document) (id : String) : Option Edge := d.edges.find? (·.id == id)

/-- The ids of all nodes. -/
def nodeIds (d : Document) : List String := d.nodes.map (·.id)

/-- The ids of all edges. -/
def edgeIds (d : Document) : List String := d.edges.map (·.id)

/-- The edges that leave a node, in document order. -/
def outgoing (d : Document) (id : String) : List Edge := d.edges.filter (·.source == id)

/-- The edges that reach a node, in document order. -/
def incoming (d : Document) (id : String) : List Edge := d.edges.filter (·.target == id)

/-- The nodes at which cases may begin; they begin at the first. -/
def starts (d : Document) : List Node := d.nodes.filter (·.type == .start)

/-- All form fields with the ids of their nodes, in document order. -/
def ownedFields (d : Document) : List (String × FormField) :=
  d.nodes.flatMap fun n => n.fields.map fun f => (n.id, f)

/-- The ids of all form fields. -/
def fieldIds (d : Document) : List String := d.ownedFields.map (·.2.id)

/-- The first id that occurs a second time. -/
def firstRepeated? : List String → List String → Option String
  | _, [] => none
  | seen, id :: rest => if seen.contains id then some id else firstRepeated? (id :: seen) rest

/-- The rule that the ids of a document break: node ids, edge ids and, over all forms, field ids
have to be distinct. -/
def brokenRule? (d : Document) : Option Rule :=
  if (firstRepeated? [] d.nodeIds).isSome then some .repeatedNodeId
  else if (firstRepeated? [] d.edgeIds).isSome then some .repeatedEdgeId
  else (firstRepeated? [] d.fieldIds).map .repeatedFieldId

end Document

end CaseFlow
