import CaseFlow.Audit.Note
import CaseFlow.Case.Progression
import CaseFlow.Error.Cause
import CaseFlow.Store.Basic
import CaseFlow.Workflow.Identity

/-!
# Services

A service works on the world: the store, the source of new ids, the clock, and the log. It gives a
result or fails; what it has drawn, read and noted before it failed stays drawn, read and noted.
The store changes only where a service commits.
-/

namespace CaseFlow

/-- The rules that an installation chooses. -/
structure Policy where
  /-- Whether a step with several ways out demands a choice. -/
  strict : Bool := false
  /-- Whether a node may be connected to itself. -/
  loops : Bool := false
  deriving DecidableEq, Repr, Inhabited

/-- What services work on. -/
structure World where
  /-- The store. -/
  store : Store := {}
  /-- The source of new ids. -/
  ids : IdSource := IdSource.counter
  /-- The clock. -/
  clock : Clock := default
  /-- The rules chosen. -/
  policy : Policy := {}
  /-- The log, oldest note first. -/
  notes : List Note := []
  deriving Inhabited

/-- A computation on the world that gives a result or fails. -/
abbrev Service (α : Type) := ExceptT Failure (StateM World) α

/-- A refusal of something that is not there. -/
def Failure.isNotFound : Failure → Bool
  | .refused (.notFound _ _) => true
  | _ => false

namespace Service

/-- Runs a service. -/
def perform {α : Type} (m : Service α) (w : World) : Except Failure α × World := m.run w

/-- The outcome of a service as a result. -/
def attempt {α : Type} (m : Service α) : Service (Except Failure α) :=
  ExceptT.mk do return .ok (← m.run)

/-- Fails for a cause. -/
def refuse {α : Type} (e : Error) : Service α := throw (.refused e)

/-- The result of a decision, or its failure. -/
def settle {α : Type} : Except Failure α → Service α
  | .ok a => pure a
  | .error f => throw f

/-- Writes notes to the log. -/
def write (notes : List Note) : Service Unit :=
  modify fun w => { w with notes := w.notes ++ notes }

/-- Writes a note to the log. -/
def note (l : Logger) (level : Level) (message : String) : Service Unit :=
  write [l.note level message]

/-- Works on the source of new ids. -/
def draw {α : Type} (f : IdSource → α × IdSource) : Service α :=
  modifyGet fun w =>
    let (a, ids) := f w.ids
    (a, { w with ids })

/-- Draws a new id. -/
def drawId (kind : String) (size : Nat) : Service String := draw (·.draw kind size)

/-- Reads the clock. -/
def readClock : Service Timestamp :=
  modifyGet fun w => (w.clock.now, { w with clock := w.clock.tick })

/-- Changes the store. -/
def commit (change : Store → Store) : Service Unit :=
  modify fun w => { w with store := change w.store }

/-- The logger of the service that looks after a resource. -/
def loggerOf : Resource → Logger
  | .app => .apps
  | .case => .cases
  | .user => .directory

/-- Fails since the store refused. -/
def storageFails {α : Type} (a : StoreAction) : Service α := do
  note (loggerOf a.resource) .error ("Database error while " ++ a.activity)
  refuse (.storage a)

/-- The store, if it can be used. -/
def query (a : StoreAction) : Service Store := do
  let s := (← get).store
  if s.condition == .ready then return s else storageFails a

/-- Drops the tables of the store. -/
def dropTables : Service Unit := do
  if (← get).store.condition == .unusable then throw (.fault .databaseUnusable)
  commit Store.dropped

/-- Makes the missing tables of the store. -/
def createTables : Service Unit := do
  if (← get).store.condition == .unusable then throw (.fault .databaseUnusable)
  commit Store.created

/-- Turns to a store that cannot be used. -/
def breakStore : Service Unit := commit fun _ => { condition := .unusable }

/-- Whether the store answers at all. -/
def isReachable : Service Bool := return (← get).store.condition != .unusable

end Service

end CaseFlow
