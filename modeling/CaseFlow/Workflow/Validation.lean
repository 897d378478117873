import CaseFlow.Workflow.Reachability
import CaseFlow.Value.Display
import CaseFlow.Reading.Checked

/-!
# Validating workflow documents

A reference to a node that does not exist is an error. What the engine copes with, but an author
probably does not want, is a warning.
-/

namespace CaseFlow

/-- A structural error. -/
inductive StructuralError where
  /-- An edge leaves no node of the document. -/
  | missingSource (edgeId nodeId : String)
  /-- An edge reaches no node of the document. -/
  | missingTarget (edgeId nodeId : String)
  deriving DecidableEq, Repr

/-- The wording of a structural error. -/
def StructuralError.text : StructuralError → String
  | .missingSource edgeId nodeId =>
    s!"Edge '{edgeId}' references non-existent source node: '{nodeId}'"
  | .missingTarget edgeId nodeId =>
    s!"Edge '{edgeId}' references non-existent target node: '{nodeId}'"

/-- A smell of a workflow. -/
inductive Smell where
  /-- No case can begin. -/
  | noStart
  /-- Cases begin at the first of several starts. -/
  | severalStarts (nodeIds : List String)
  /-- No case gets to these nodes. -/
  | unreachable (nodeIds : List String)
  /-- Cases get stuck. -/
  | deadEnd (nodeId : String)
  /-- A form that is filled in does not decide between several edges. -/
  | fillBranches (nodeId : String) (count : Nat)
  /-- Cases can come back to a start. -/
  | startEntered (nodeId : String)
  /-- Nobody can complete a step. -/
  | unknownAssignee (nodeId : String) (assignee : Value)
  /-- A readonly field shows nothing. -/
  | unknownSource (fieldId nodeId source : String)
  deriving Repr, BEq

/-- The wording of a smell. -/
def Smell.text : Smell → String
  | .noStart => "Workflow has no Start node"
  | .severalStarts ids =>
    let first := ids.headD ""
    "Workflow has several Start nodes: " ++ String.intercalate ", " ids ++
      s!"; cases begin at '{first}'"
  | .unreachable ids => "Unreachable nodes detected: " ++ String.intercalate ", " ids
  | .deadEnd id => s!"Node '{id}' has no outgoing edge"
  | .fillBranches id count =>
    s!"FILL step '{id}' has {count} outgoing edges; completion follows the first"
  | .startEntered id => s!"Start node '{id}' has incoming edges; cases sent back keep their status"
  | .unknownAssignee id assignee =>
    s!"Node '{id}' is assigned to unknown user '{assignee.shown}'"
  | .unknownSource fieldId nodeId source =>
    s!"Read-only field '{fieldId}' on '{nodeId}' references unknown field '{source}'"

/-- What was found in a document. -/
structure Findings where
  /-- The structural errors. -/
  errors : List StructuralError
  /-- The smells. -/
  smells : List Smell
  deriving Repr, BEq

namespace Document

/-- The structural errors of an edge. -/
def edgeErrors (d : Document) (e : Edge) : List StructuralError :=
  (if d.nodeIds.contains e.source then [] else [.missingSource e.id e.source]) ++
    (if d.nodeIds.contains e.target then [] else [.missingTarget e.id e.target])

/-- The node ids that no sequence of edges reaches from a start, each once and sorted. -/
def unreachable (d : Document) : List String :=
  let reached := reachableFrom d.edges (d.starts.map (·.id))
  (d.nodeIds.filter fun id => !reached.contains id).eraseDups.mergeSort (· ≤ ·)

/-- The smells of the starts. -/
def startSmells (d : Document) : List Smell :=
  match d.starts.map (·.id) with
  | [] => [.noStart]
  | ids =>
    (if 1 < ids.length then [.severalStarts ids] else []) ++
      (if d.unreachable.isEmpty then [] else [.unreachable d.unreachable])

/-- The smells of a node; assignees are only looked at where the users are given. -/
def nodeSmells (d : Document) (knownUsers : Option (List String)) (n : Node) : List Smell :=
  let out := d.outgoing n.id
  (if n.type != .finish && out.isEmpty then [.deadEnd n.id] else []) ++
    (if n.form.any (·.mode == .fill) && 1 < out.length then [.fillBranches n.id out.length]
      else []) ++
    (if n.type == .start && !(d.incoming n.id).isEmpty then [.startEntered n.id] else []) ++
    (match knownUsers with
      | some users =>
        if n.isGated && !users.any (fun u => n.assignee.text? == some u) then
          [.unknownAssignee n.id n.assignee] else []
      | none => [])

/-- The smell of a field: it shows a field that the document does not have. -/
def fieldSmells (d : Document) (owned : String × FormField) : List Smell :=
  match owned.2.source with
  | some source =>
    if owned.2.isReadonly && !source.isEmpty && !d.fieldIds.contains source then
      [.unknownSource owned.2.id owned.1 source] else []
  | none => []

/-- Everything that can be found in a document. -/
def validate (d : Document) (knownUsers : Option (List String) := none) : Findings where
  errors := d.edges.flatMap d.edgeErrors
  smells := d.startSmells ++ d.nodes.flatMap (d.nodeSmells knownUsers) ++
    d.ownedFields.flatMap d.fieldSmells

end Document

/-- A report on a document: its errors and warnings in words. -/
structure ValidationReport where
  /-- Whether there are no errors. -/
  isValid : Bool
  /-- The errors. -/
  errors : List String := []
  /-- The warnings. -/
  warnings : List String := []
  deriving DecidableEq, Repr, Inhabited

/-- What was found, in words. -/
def Findings.report (f : Findings) : ValidationReport where
  isValid := f.errors.isEmpty
  errors := f.errors.map (·.text)
  warnings := f.smells.map (·.text)

namespace ValidationReport

/-- Reads the fields of a report. -/
def readFields (fs : Fields) : Checked ValidationReport :=
  ValidationReport.mk <$> fs.require "is_valid" Reader.bool
    <*> fs.optional "errors" (Reader.list Reader.text) []
    <*> fs.optional "warnings" (Reader.list Reader.text) []

/-- Reads a report. -/
def read : Reader ValidationReport := Reader.record "ValidationResult" readFields

/-- A report as a value. -/
def toValue (r : ValidationReport) : Value :=
  .object [("is_valid", .bool r.isValid), ("errors", .ofTexts r.errors),
    ("warnings", .ofTexts r.warnings)]

end ValidationReport

end CaseFlow
