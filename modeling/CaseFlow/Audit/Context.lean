import CaseFlow.Error.Cause

/-!
# The log context

Fields that all records of a stretch of work carry: who asked, for which app, case and step. Each
stretch layers its fields over those around it and puts the former ones back at its end, whatever
happened in between. A record's own fields win over those of the context.
-/

namespace CaseFlow

/-- What was in force before fields were layered over it. -/
structure LogLayer where
  /-- The fields in force before. -/
  before : Fields
  /-- Whether they have been put back. -/
  restored : Bool := false
  deriving Repr, BEq, Inhabited

/-- The log context: the fields in force and the layers that can be taken off again. -/
structure LogContext where
  /-- The fields in force. -/
  fields : Fields := []
  /-- The layers, the first one put on first. -/
  layers : List LogLayer := []
  deriving Repr, BEq, Inhabited

namespace LogContext

/-- Sets fields for all that follows. -/
def set (c : LogContext) (new : Fields) : LogContext := { c with fields := c.fields.merge new }

/-- Drops all fields. -/
def clear (c : LogContext) : LogContext := { c with fields := [] }

/-- Layers fields over those in force; the number of the layer serves to take it off. -/
def push (c : LogContext) (new : Fields) : Nat × LogContext :=
  (c.layers.length,
    { fields := c.fields.merge new, layers := c.layers ++ [{ before := c.fields }] })

/-- Puts back what was in force before a layer. Each layer is taken off once. -/
def reset (c : LogContext) (layer : Nat) : Except Fault LogContext :=
  match c.layers[layer]? with
  | some ⟨before, false⟩ =>
    .ok { fields := before, layers := c.layers.set layer { before, restored := true } }
  | _ => .error .tokenUsed

/-- The fields of a record filed in the context: the record's own ones win. -/
def overlaid (c : LogContext) (own : Fields) : Fields := c.fields.merge own

/-- The fields that have a value. -/
def given (fs : Fields) : Fields :=
  fs.filter fun f =>
    match f.2 with
    | .null => false
    | _ => true

/-- Work within a block: the given fields are layered over those in force, and these are put back
at the end, whether or not the work came to its end. -/
def within {α : Type} (fs : Fields) (work : LogContext → α × LogContext) (c : LogContext) :
    α × LogContext :=
  let (layer, inner) := c.push (given fs)
  let (a, after) := work inner
  (a, match after.reset layer with
    | .ok restored => restored
    | .error _ => after)

end LogContext

/-- What a stretch of work does to the log context. -/
inductive Activity where
  /-- Sets fields. -/
  | set (fields : Fields)
  /-- Drops all fields. -/
  | clear
  /-- Files a record with fields of its own. -/
  | file (own : Fields)
  /-- Breaks off. -/
  | fail
  /-- Does all of `body` within a block. -/
  | block (fields : Fields) (body : List Activity)
  deriving Repr, Inhabited

/-- What became of a stretch of work. -/
structure Course where
  /-- The fields of the records filed, in order. -/
  filed : List Fields := []
  /-- Whether the work broke off. -/
  failed : Bool := false
  deriving Repr, BEq, Inhabited

mutual

/-- Does one thing. -/
def Activity.run (c : LogContext) : Activity → Course × LogContext
  | .set fs => ({}, c.set fs)
  | .clear => ({}, c.clear)
  | .file own => ({ filed := [c.overlaid own] }, c)
  | .fail => ({ failed := true }, c)
  | .block fs body => c.within fs fun inner => Activity.runAll inner body

/-- Does one thing after the other, up to the first that breaks off. -/
def Activity.runAll (c : LogContext) : List Activity → Course × LogContext
  | [] => ({}, c)
  | a :: rest =>
    let (first, c) := Activity.run c a
    if first.failed then (first, c)
    else
      let (others, c) := Activity.runAll c rest
      ({ others with filed := first.filed ++ others.filed }, c)

end

end CaseFlow
