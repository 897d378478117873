import CaseFlow.Workflow.Basic

/-!
# Reading workflow documents

Ids and edge ends are trimmed; blank options are dropped and the others trimmed; a readonly
field is never required. The ids of nodes and fields consist of ASCII letters, digits,
underscores and hyphens.
-/

namespace CaseFlow

open CaseFlow.Text

/-- The characters of ids. -/
def isIdChar (c : Char) : Bool := c.isAlphanum || c == '_' || c == '-'

/-- A trimmed id, or the rule that it breaks. -/
def checkId (empty badChars : Rule) (s : String) : Except Rule String :=
  let id := trim s
  if id.isEmpty then .error empty
  else if id.toList.all isIdChar then .ok id
  else .error badChars

/-- A trimmed text that is not empty. -/
def checkNotBlank (empty : Rule) (s : String) : Except Rule String :=
  let t := trim s
  if t.isEmpty then .error empty else .ok t

/-- The texts of a list that are not blank, trimmed. -/
def dropBlank (xs : List String) : List String := (xs.map trim).filter (!·.isEmpty)

namespace Position

/-- Reads the fields of a position. -/
def readFields (fs : Fields) : Checked Position :=
  Position.mk <$> fs.optional "x" Reader.float 0 <*> fs.optional "y" Reader.float 0

/-- Reads a position. -/
def read : Reader Position := Reader.record "Position" readFields

/-- A position as a value. -/
def toValue (p : Position) : Value := .object [("x", .float p.x), ("y", .float p.y)]

end Position

namespace FormField

/-- Reads the id of a field. -/
def readId : Reader String :=
  Reader.text.checking (checkId .emptyFieldId .fieldIdCharacters)

/-- Reads the fields of a form field; a readonly field is not required, whatever it says. -/
def readFields (fs : Fields) : Checked FormField :=
  let type := fs.optional "type" Reader.choice FieldType.text
  let forced := type.toOption == some FieldType.readonly
  FormField.mk <$> fs.require "id" readId
    <*> fs.require "label" Reader.text
    <*> type
    <*> (fs.optional "required" Reader.bool false).map (fun r => r && !forced)
    <*> fs.optional "options"
      (Reader.nullable fun v => (Reader.list Reader.text v).map dropBlank) none
    <*> fs.optional "source_field_id" (Reader.nullable Reader.text) none

/-- Reads a form field. -/
def read : Reader FormField := Reader.record "FormField" readFields

/-- The fields of a form field as they are written. -/
def toFields (f : FormField) : Fields :=
  [("id", .text f.id), ("label", .text f.label), ("type", .text (Worded.word f.type)),
    ("required", .bool f.required), ("options", (f.options.map Value.ofTexts).getD .null),
    ("source_field_id", .ofText? f.source)]

/-- A form field as a value. -/
def toValue (f : FormField) : Value := .object f.toFields

end FormField

namespace Form

/-- Reads the fields of a form. -/
def readFields (fs : Fields) : Checked Form :=
  Form.mk <$> fs.optional "mode" Reader.choice FormMode.fill
    <*> fs.optional "fields" (Reader.list FormField.read) []

/-- Reads a form. -/
def read : Reader Form := Reader.record "NodeForm" readFields

/-- A form as a value. -/
def toValue (f : Form) : Value :=
  .object [("mode", .text (Worded.word f.mode)), ("fields", .list (f.fields.map FormField.toValue))]

end Form

namespace Node

/-- Only tasks carry forms. -/
def checkForm (n : Node) : Checked Node :=
  if n.form.isSome && n.type != .task then Checked.refuse (.rule (.formOwner n.id n.type.word))
  else .ok n

/-- Reads the id of a node. -/
def readId : Reader String := Reader.text.checking (checkId .emptyNodeId .nodeIdCharacters)

/-- Reads a text or no value, kept as a value. -/
def readNote : Reader Value := fun v => (Reader.nullable Reader.text v).map Value.ofText?

/-- Reads the fields of a node. -/
def readFields (fs : Fields) : Checked Node :=
  (Node.mk <$> fs.require "id" readId
    <*> fs.require "type" Reader.choice
    <*> fs.require "label" Reader.text
    <*> fs.optional "description" readNote .null
    <*> fs.optional "position" Position.read {}
    <*> fs.optional "assignee_id" readNote .null
    <*> fs.optional "form" (Reader.nullable Form.read) none).andThen checkForm

/-- Reads a node. -/
def read : Reader Node := Reader.record "WorkflowNode" readFields

/-- A node as a value. -/
def toValue (n : Node) : Value :=
  .object [("id", .text n.id), ("type", .text n.type.word), ("label", .text n.label),
    ("description", n.description), ("position", n.position.toValue),
    ("assignee_id", n.assignee), ("form", (n.form.map Form.toValue).getD .null)]

end Node

namespace Edge

/-- Reads an end of an edge. -/
def readEnd : Reader String := Reader.text.checking (checkNotBlank .emptyNodeId)

/-- Reads the fields of an edge. -/
def readFields (fs : Fields) : Checked Edge :=
  Edge.mk <$> fs.require "id" Reader.text
    <*> fs.require "source" readEnd
    <*> fs.require "target" readEnd
    <*> fs.optional "label" (Reader.nullable Reader.text) none

/-- Reads an edge. -/
def read : Reader Edge := Reader.record "WorkflowEdge" readFields

/-- An edge as a value. -/
def toValue (e : Edge) : Value :=
  .object [("id", .text e.id), ("source", .text e.source), ("target", .text e.target),
    ("label", .ofText? e.label)]

end Edge

namespace Document

/-- The ids of a document have to be distinct. -/
def checkIds (d : Document) : Checked Document :=
  match d.brokenRule? with
  | some r => Checked.refuse (.rule r)
  | none => .ok d

/-- Reads the fields of a document. -/
def readFields (fs : Fields) : Checked Document :=
  (Document.mk <$> fs.optional "nodes" (Reader.list Node.read) []
    <*> fs.optional "edges" (Reader.list Edge.read) []).andThen checkIds

/-- The name under which documents are refused. -/
def recordName : String := "WorkflowDocument"

/-- Reads a document. -/
def read : Reader Document := Reader.record recordName readFields

/-- A document as a value. -/
def toValue (d : Document) : Value :=
  .object [("nodes", .list (d.nodes.map Node.toValue)), ("edges", .list (d.edges.map Edge.toValue))]

end Document

end CaseFlow
