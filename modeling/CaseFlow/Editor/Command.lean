import CaseFlow.Error.Cause
import CaseFlow.Workflow.Identity
import CaseFlow.Workflow.Reading

/-!
# Editing commands

Each command takes a document to a new one, or is refused. The arguments that an author writes
(positions, labels, fields, patches) are values of any kind; they are read and checked here.
-/

namespace CaseFlow

/-- A command of an author. -/
inductive Command where
  /-- Adds a node of a kind at a position; id and label may be absent. -/
  | addNode (type position id label : Value)
  /-- Moves a node. -/
  | moveNode (nodeId : String) (position : Value)
  /-- Connects two nodes by an edge with an optional label. -/
  | connect (source target : String) (label : Value)
  /-- Changes the label, description, assignee or form of a node. -/
  | updateNode (nodeId : String) (patch : Fields)
  /-- Removes a node and the edges that touch it. -/
  | deleteNode (nodeId : String)
  /-- Removes an edge. -/
  | deleteEdge (edgeId : String)
  /-- Sets how the form of a task completes its step. -/
  | setFormMode (nodeId : String) (mode : Value)
  /-- Adds a field at the end of a form. -/
  | addFormField (nodeId : String) (field : Value)
  /-- Changes a field of a form. -/
  | updateFormField (nodeId fieldId : String) (patch : Fields)
  /-- Removes a field of a form. -/
  | deleteFormField (nodeId fieldId : String)
  deriving Repr, BEq

/-- The name of a command in the audit trail. -/
def Command.name : Command → String
  | .addNode .. => "add_node"
  | .moveNode .. => "move_node"
  | .connect .. => "connect"
  | .updateNode .. => "update_node"
  | .deleteNode .. => "delete_node"
  | .deleteEdge .. => "delete_edge"
  | .setFormMode .. => "set_form_mode"
  | .addFormField .. => "add_form_field"
  | .updateFormField .. => "update_form_field"
  | .deleteFormField .. => "delete_form_field"

/-- What a command made besides the new document. -/
inductive Made where
  /-- Nothing to speak of. -/
  | document
  /-- A node. -/
  | node (n : Node)
  /-- An edge. -/
  | edge (e : Edge)
  /-- No edge, since the nodes are connected already or a loop is not wanted; the document stays
  the one that it was. -/
  | noEdge
  deriving Repr, BEq

/-- The outcome of a command. -/
abbrev Edit (α : Type) := Except Failure α

namespace Edit

/-- A refused command. -/
def refuse {α : Type} (e : Error) : Edit α := .error (.refused e)

end Edit

namespace Position

/-- The kind of a value that has no components. -/
def kindName : Value → String
  | .null => "NoneType"
  | .bool _ => "bool"
  | .int _ => "int"
  | .float _ => "float"
  | .date _ => "datetime.date"
  | _ => "datetime.datetime"

/-- A position from its two components. -/
def ofPair (x y : Value) : Except PositionFault Position :=
  (read (.object [("x", x), ("y", y)])).toExcept "Position" |>.mapError .rejected

/-- A position from a list of components. -/
def ofComponents : List Value → Except PositionFault Position
  | [x, y] => ofPair x y
  | [] => .error (.tooFew 0)
  | [_] => .error (.tooFew 1)
  | _ => .error .tooMany

/-- A position from an object, a list of two, or a text of two digits. -/
def given : Value → Except PositionFault Position
  | .object fs => ((read (.object fs)).toExcept "Position").mapError .rejected
  | .list xs => ofComponents xs
  | .text s => ofComponents (s.toList.map fun c => .text (String.singleton c))
  | v => .error (.notAPair (kindName v))

end Position

namespace Document

/-- A document with other nodes and edges, provided that the ids are distinct. -/
def rebuild (nodes : List Node) (edges : List Edge) : Edit Document :=
  let d : Document := { nodes, edges }
  match d.brokenRule? with
  | some r => Edit.refuse (.invalidDocument ⟨recordName, [⟨[], .rule r⟩]⟩)
  | none => .ok d

/-- The node with a given id, which has to exist. -/
def requireNode (d : Document) (id : String) : Edit Node :=
  match d.node? id with
  | some n => .ok n
  | none => Edit.refuse (.unknownNode id)

/-- The nodes with one of them replaced. -/
def replaced (d : Document) (n : Node) : List Node :=
  d.nodes.map fun m => if m.id == n.id then n else m

/-- A document with one node replaced. -/
def replaceNode (d : Document) (n : Node) : Edit Document := rebuild (d.replaced n) d.edges

/-- The position that a value stands for. -/
def positionOf (v : Value) : Edit Position :=
  match Position.given v with
  | .ok p => .ok p
  | .error fault => Edit.refuse (.invalidPosition v fault)

/-! ## Forms -/

/-- The ids of the fields on all nodes but one. -/
def foreignFieldIds (d : Document) (nodeId : String) : List String :=
  (d.ownedFields.filter (·.1 != nodeId)).map (·.2.id)

/-- The first field whose id is in use, elsewhere or before it. -/
def clash? (taken : List String) : List FormField → Option FormField
  | [] => none
  | f :: rest => if taken.contains f.id then some f else clash? (f.id :: taken) rest

/-- What is wrong with one field of a form, the ids of all fields being known. -/
def fieldError? (nodeId : String) (known : List String) (f : FormField) : Option Error :=
  if f.type == .select && (f.options.getD []).isEmpty then
    some (.missingOptions f.label f.id nodeId)
  else
    match f.source with
    | some source =>
      if f.isReadonly && !source.isEmpty && (!known.contains source || source == f.id) then
        some (.unknownSource f.label source f.id nodeId)
      else none
    | none => none

/-- Checks the fields that a node is to have: their ids are new to the document and distinct, a
select field has options, and a readonly field shows another field of the document. -/
def checkFields (d : Document) (nodeId : String) (fields : List FormField) : Edit Unit :=
  let foreign := d.foreignFieldIds nodeId
  match clash? foreign fields with
  | some f => Edit.refuse (.takenFieldId f.id nodeId)
  | none =>
    match fields.findSome? (fieldError? nodeId (foreign ++ fields.map (·.id))) with
    | some e => Edit.refuse e
    | none => .ok ()

/-- A document in which a task has the given form. -/
def withForm (d : Document) (n : Node) (form : Form) : Edit Document :=
  if n.type != .task then Edit.refuse (.formOnlyOnTask n.id n.type)
  else
    match d.checkFields n.id form.fields with
    | .error e => .error e
    | .ok () => d.replaceNode { n with form := some form }

/-- The form of a node, which has to have one. -/
def requireForm (n : Node) : Edit Form :=
  match n.form with
  | some f => .ok f
  | none => Edit.refuse (.noForm n.id)

/-- The field of a form with a given id, which has to exist. -/
def requireField (form : Form) (nodeId fieldId : String) : Edit FormField :=
  match form.field? fieldId with
  | some f => .ok f
  | none => Edit.refuse (.unknownField fieldId nodeId)

/-- The form field that named values stand for. -/
def fieldOf (fs : Fields) : Edit FormField :=
  match (FormField.readFields fs).toExcept "FormField" with
  | .ok f => .ok f
  | .error r => Edit.refuse (.invalidField r)

/-- The fields of an object; other values have the wrong shape. -/
def objectOf : Value → Edit Fields
  | .object fs => .ok fs
  | _ => .error (.fault .shape)

/-! ## Commands on nodes -/

/-- The node that the arguments of a new node stand for. -/
def newNode (d : Document) (type : NodeType) (position id label : Value) (ids : IdSource) :
    Edit Node × IdSource :=
  let (idValue, ids) :=
    if id.truthy then (id, ids)
    else
      let (fresh, ids) := ids.drawNew "node" d.nodeIds
      (.text fresh, ids)
  let node : Edit Node := do
    let p ← positionOf position
    let fs : Fields :=
      [("id", idValue), ("type", .text type.word),
        ("label", if label.truthy then label else .text type.word)]
    match (Node.readFields fs).toExcept "WorkflowNode" with
    | .ok n =>
      .ok { n with position := p, form := if type == .task then some {} else none }
    | .error r => Edit.refuse (.invalidNode r)
  (node, ids)

/-- Adds a node; a task starts with an empty form. -/
def addNode (d : Document) (type position id label : Value) (ids : IdSource) :
    Edit (Document × Node) × IdSource :=
  match type.text?.bind Worded.ofWord? with
  | none => (Edit.refuse (.unknownNodeType type), ids)
  | some t =>
    match id.text?.bind d.node? with
    | some n => (Edit.refuse (.takenNodeId n.id), ids)
    | none =>
      let (node, ids) := d.newNode t position id label ids
      let added : Edit (Document × Node) := do
        let n ← node
        let d' ← rebuild (d.nodes ++ [n]) d.edges
        return (d', n)
      (added, ids)

/-- Moves a node. -/
def moveNode (d : Document) (nodeId : String) (position : Value) : Edit Document := do
  let n ← d.requireNode nodeId
  let p ← positionOf position
  d.replaceNode { n with position := p }

/-- The attributes of a node that a patch may name. -/
def patchable : List String := ["label", "description", "assignee_id", "form"]

/-- The label that a patch gives to a node. -/
def patchLabel (n : Node) (v : Value) : Edit Node :=
  if !v.truthy then Edit.refuse (.emptyLabel n.id)
  else
    match v with
    | .text s =>
      let label := Text.trim s
      if label.isEmpty then Edit.refuse (.emptyLabel n.id) else .ok { n with label }
    | _ => .error (.fault .labelKind)

/-- The assignee that a patch gives to a node; a falsy one removes it. -/
def patchAssignee (n : Node) (v : Value) : Edit Node :=
  if v.truthy && n.type != .task then Edit.refuse (.assigneeOnlyOnTask n.id n.type)
  else .ok { n with assignee := v.orNull }

/-- A node with the patched attributes other than the form. -/
def patchNode (n : Node) (patch : Fields) : Edit Node := do
  let n ← match patch.get? "label" with
    | some v => patchLabel n v
    | none => .ok n
  let n := match patch.get? "description" with
    | some v => { n with description := v }
    | none => n
  match patch.get? "assignee_id" with
  | some v => patchAssignee n v
  | none => .ok n

/-- The names of a patch that may not be patched, sorted. -/
def lockedNames (patch : Fields) : List String :=
  (patch.names.filter fun name => !patchable.contains name).mergeSort (· ≤ ·)

/-- The form that a value stands for. -/
def formOf (nodeId : String) (v : Value) : Edit Form := do
  let fs ← objectOf v
  match (Form.readFields fs).toExcept "NodeForm" with
  | .ok f => .ok f
  | .error r => Edit.refuse (.invalidForm r nodeId)

/-- Applies a patch to a node. -/
def updateNode (d : Document) (nodeId : String) (patch : Fields) : Edit Document := do
  let n ← d.requireNode nodeId
  let locked := lockedNames patch
  if !locked.isEmpty then Edit.refuse (.lockedAttributes locked nodeId)
  let updated ← patchNode n patch
  match patch.get? "form" with
  | none => d.replaceNode updated
  | some .null => d.replaceNode { updated with form := none }
  | some v =>
    let form ← formOf nodeId v
    -- The form is checked last, in the document that has all other changes.
    let d' ← d.replaceNode updated
    d'.withForm updated form

/-- Removes a node together with every edge that touches it. -/
def deleteNode (d : Document) (nodeId : String) : Edit Document := do
  let _ ← d.requireNode nodeId
  rebuild (d.nodes.filter (·.id != nodeId)) (d.edges.filter fun e => !e.touches nodeId)

/-! ## Commands on edges -/

/-- Whether an edge leads from one node to the other. -/
def isConnected (d : Document) (source target : String) : Bool :=
  d.edges.any fun e => e.source == source && e.target == target

/-- The id of a new edge: named for its ends, with a drawn text behind it where that is in use. -/
def newEdgeId (d : Document) (source target : String) (ids : IdSource) : String × IdSource :=
  let name := s!"edge-{source}-{target}"
  if d.edgeIds.contains name then ids.drawNew name d.edgeIds else (name, ids)

/-- Connects two nodes. There is no new edge when the nodes are connected already, or when the
edge would be a loop and loops are not wanted. -/
def connect (d : Document) (loops : Bool) (source target : String) (label : Value)
    (ids : IdSource) : Edit (Option (Document × Edge)) × IdSource :=
  match d.requireNode source, d.requireNode target with
  | .error e, _ => (.error e, ids)
  | .ok _, .error e => (.error e, ids)
  | .ok _, .ok _ =>
    -- Both nodes exist; nothing is drawn unless an edge is made.
    if source == target && !loops then (.ok none, ids)
    else if d.isConnected source target then (.ok none, ids)
    else
      let (id, ids) := d.newEdgeId source target ids
      let fs : Fields :=
        [("id", .text id), ("source", .text source), ("target", .text target), ("label", label)]
      let made : Edit (Option (Document × Edge)) :=
        match (Edge.readFields fs).toExcept "WorkflowEdge" with
        | .error r => .error (.rejected r)
        | .ok e => do
          let d' ← rebuild d.nodes (d.edges ++ [e])
          return some (d', e)
      (made, ids)

/-- Removes an edge. -/
def deleteEdge (d : Document) (edgeId : String) : Edit Document :=
  match d.edge? edgeId with
  | none => Edit.refuse (.unknownEdge edgeId)
  | some _ => rebuild d.nodes (d.edges.filter (·.id != edgeId))

/-! ## Commands on forms -/

/-- Sets the mode of a form; a task without a form gets an empty one. -/
def setFormMode (d : Document) (nodeId : String) (mode : Value) : Edit Document := do
  let n ← d.requireNode nodeId
  match mode.text?.bind Worded.ofWord? with
  | none => Edit.refuse (.unknownFormMode mode nodeId)
  | some m => d.withForm n { (n.form.getD {}) with mode := m }

/-- Adds a field at the end of a form. -/
def addFormField (d : Document) (nodeId : String) (field : Value) : Edit Document := do
  let n ← d.requireNode nodeId
  let form ← requireForm n
  let fs ← objectOf field
  let f ← fieldOf fs
  d.withForm n { form with fields := form.fields ++ [f] }

/-- Changes a field: what the patch does not name stays as it is. -/
def updateFormField (d : Document) (nodeId fieldId : String) (patch : Fields) : Edit Document := do
  let n ← d.requireNode nodeId
  let form ← requireForm n
  let old ← requireField form nodeId fieldId
  let f ← fieldOf (Fields.merge old.toFields patch)
  d.withForm n
    { form with fields := form.fields.map fun g => if g.id == fieldId then f else g }

/-- Removes a field. -/
def deleteFormField (d : Document) (nodeId fieldId : String) : Edit Document := do
  let n ← d.requireNode nodeId
  let form ← requireForm n
  let _ ← requireField form nodeId fieldId
  d.replaceNode
    { n with form := some { form with fields := form.fields.filter (·.id != fieldId) } }

end Document

/-- Applies a command to a document. The outcome is the new document and what was made, and the
source of ids after the draws of the command. -/
def Command.apply (c : Command) (loops : Bool) (d : Document) (ids : IdSource) :
    Edit (Document × Made) × IdSource :=
  let plain (r : Edit Document) : Edit (Document × Made) × IdSource :=
    (r.map fun d' => (d', .document), ids)
  match c with
  | .addNode type position id label =>
    let (r, ids) := d.addNode type position id label ids
    (r.map fun p => (p.1, .node p.2), ids)
  | .connect source target label =>
    let (r, ids) := d.connect loops source target label ids
    (r.map fun
      | some (d', e) => (d', .edge e)
      | none => (d, .noEdge), ids)
  | .moveNode id position => plain (d.moveNode id position)
  | .updateNode id patch => plain (d.updateNode id patch)
  | .deleteNode id => plain (d.deleteNode id)
  | .deleteEdge id => plain (d.deleteEdge id)
  | .setFormMode id mode => plain (d.setFormMode id mode)
  | .addFormField id field => plain (d.addFormField id field)
  | .updateFormField id fieldId patch => plain (d.updateFormField id fieldId patch)
  | .deleteFormField id fieldId => plain (d.deleteFormField id fieldId)

end CaseFlow
