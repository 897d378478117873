import CaseFlow.Audit.Trail
import CaseFlow.Editor.Command
import CaseFlow.Workflow.Validation

/-!
# Editor sessions

An editor holds the current document and hands every new one to a keeper, who may refuse it. It
moves on only to documents that the keeper has accepted; a refused command or a refusing keeper
leaves it where it is.
-/

namespace CaseFlow

/-- The state of an editor. -/
structure Editor where
  /-- The current document. -/
  document : Document
  /-- Whether a node may be connected to itself. -/
  loops : Bool := false
  deriving Repr, BEq, Inhabited

/-- What a command gave to the author: an error, or what it made with the document after it. -/
abbrev EditResult := Except Failure (Document × Made)

namespace Editor

/-- What an editor does with a command before anybody keeps the outcome. -/
inductive Proposal where
  /-- The command is refused. -/
  | refused (f : Failure)
  /-- Nothing changes. -/
  | unchanged
  /-- A new document is to be kept. -/
  | changed (d : Document) (made : Made)
  deriving Repr, BEq

/-- The proposal of a command, and the source of ids after it. -/
def propose (ed : Editor) (c : Command) (ids : IdSource) : Proposal × IdSource :=
  let (r, ids) := c.apply ed.loops ed.document ids
  (match r with
    | .error f => .refused f
    | .ok (_, .noEdge) => .unchanged
    | .ok (d, made) => .changed d made, ids)

/-- Runs a command against a keeper with a state of its own. The keeper sees each new document
once; the editor moves on when the keeper accepts it. -/
def run {σ : Type} (keep : Document → σ → Except Failure Unit × σ) (ed : Editor) (c : Command)
    (ids : IdSource) (s : σ) : EditResult × Editor × IdSource × σ :=
  match ed.propose c ids with
  | (.refused f, ids) => (.error f, ed, ids, s)
  | (.unchanged, ids) => (.ok (ed.document, .noEdge), ed, ids, s)
  | (.changed d made, ids) =>
    match keep d s with
    | (.error f, s) => (.error f, ed, ids, s)
    | (.ok (), s) => (.ok (d, made), { ed with document := d }, ids, s)

/-! ## Notes -/

/-- The note of a new document. -/
def changeNote (c : Command) (d : Document) : Note :=
  Trail.editor.changed (.text c.name) (.int d.nodes.length) (.int d.edges.length)

/-- The notes of a command on a document, before its outcome is kept: why no edge was added. -/
def commandNotes (ed : Editor) (c : Command) : List Note :=
  match c with
  | .connect source target _ =>
    if (ed.document.node? source).isSome && (ed.document.node? target).isSome then
      if source == target && !ed.loops then
        [Logger.editing.note .debug s!"Refusing self-loop on node {source}"]
      else if ed.document.isConnected source target then
        [Logger.editing.note .debug s!"Edge {source} -> {target} already exists"]
      else []
    else []
  | _ => []

/-- The note of a validation. -/
def validationNote (f : Findings) : Note :=
  Logger.editing.note .debug
    (s!"Workflow validation completed. Errors: {f.errors.length}, Warnings: {f.smells.length}")

end Editor

end CaseFlow
