import CaseFlow.Audit.Output
import CaseFlow.Install.Options
import CaseFlow.Seed.Demo
import CaseFlow.Service.Cases
import CaseFlow.Settings.Environment
import CaseFlow.Settings.Location

/-!
# Installing

The installer makes the tables of the database that the settings name and fills them with the
first users, apps and cases, as far as the options ask for it. What is there already stays, unless
the tables are to be dropped first.
-/

namespace CaseFlow.Install

/-- What the installer finds on a machine. -/
structure Machine where
  /-- The text of a file, if there is one of that name. -/
  file? : String → Option String
  /-- The environment variables. -/
  bindings : Fields := []
  /-- The directories, besides those that every machine has. -/
  directories : List Path := []
  /-- The databases that are kept in files. -/
  stores : List (Path × Store) := []
  /-- The notes of the runs so far. -/
  notes : List Note := []

/-- How a run of the installer ends. -/
inductive Outcome where
  /-- All that was asked for is done. -/
  | done
  /-- The settings or the database cannot be used. -/
  | failed
  /-- The command line makes no sense. -/
  | misused
  deriving DecidableEq, Repr

/-- The exit code of an outcome. -/
def Outcome.code : Outcome → Nat
  | .done => 0
  | .failed => 1
  | .misused => 2

namespace Machine

/-- The file of variables that is read: the one that is named, or one of a common name. -/
def envFile (named : Option String) : String := (named.filter (!·.isEmpty)).getD ".env"

/-- The environment of the machine. -/
def environment (m : Machine) : Environment := { bindings := m.bindings }

/-- The settings that the environment and a file of variables give; a file that is not there gives
nothing. -/
def settings (m : Machine) (named : Option String) : Except Failure Settings :=
  (m.environment.load ((m.file? (envFile named)).getD "")).1

/-- The database that a file of variables names, whatever else it says. -/
def database (m : Machine) (file : String) : Settings.Database :=
  let e := (m.environment.load ((m.file? file).getD "")).2
  let s : Settings := {}
  Settings.database
    { s with databaseUrl := (e.lookup (Settings.variableOf "database_url")).getD s.databaseUrl }

/-- A database without tables; one that is new or is kept nowhere. -/
def blank : Store := { condition := .withoutTables }

/-- The store of a database. -/
def store (m : Machine) : Settings.Database → Store
  | .memory => blank
  | .unsupported => { condition := .unusable }
  | .file p =>
    match m.stores.find? (·.1 == p) with
    | some (_, s) => s
    | none => if p.admitsFile m.directories then blank else { condition := .unusable }

/-- Keeps the store of a database, if it is kept at all. -/
def keep (m : Machine) (d : Settings.Database) (s : Store) : Machine :=
  match d with
  | .file p =>
    if s.condition == .unusable then m
    else { m with stores := (p, s) :: m.stores.filter (·.1 != p) }
  | _ => m

end Machine

/-- The work on a database. -/
def work (o : Options) (s : Settings) : Service Unit := do
  if o.reset then
    Service.dropTables
    Service.note .installer .warning s!"Dropped all tables in {s.databaseUrl}"
  Service.createTables
  Service.note .installer .info s!"Tables ready in {s.databaseUrl}"
  if o.seed then
    let users ← Directory.seed Seed.users
    let apps ← Apps.seed Seed.apps
    let cases ← if s.seedDemoCases then Cases.seed Seed.cases else pure 0
    Service.note .installer .info s!"Seeded {users} users, {apps} apps and {cases} cases"

/-- One run of the installer. -/
def run (m : Machine) (arguments : List String) : Outcome × Machine :=
  match Usage.read arguments with
  | .mistake => (.misused, m)
  | .help => (.done, m)
  | .run o =>
    match m.settings o.envFile with
    | .error _ => (.failed, m)
    | .ok s =>
      let start : World := { store := m.store s.database, policy := { loops := s.allowSelfLoops } }
      let (outcome, w) := Service.perform (work o s) start
      let m' := { m.keep s.database w.store with notes := m.notes ++ w.notes }
      match outcome with
      | .ok () => (.done, m')
      | .error _ =>
        (.failed, { m' with notes := m'.notes ++
          [Logger.installer.note .error "Database initialization failed"] })

/-! ## The log of a run -/

/-- The record of a note. -/
def recordOf (n : Note) : LogRecord :=
  { message := .text n.message, level := some n.level, logger := n.logger, unit := "install"
    function := "run", line := .int 0, fields := n.fields }

/-- A line of the log on the console, which shows no time. -/
def consoleFormat : String := "%(name)s - %(levelname)s - %(message)s%(context)s"

/-- What the notes of a run put on the console under some settings. -/
def consoleText (s : Settings) (notes : List Note) : Except Fault String := do
  let o ← LogOutput.start { level := Worded.word s.logLevel, format := some consoleFormat } false
  return ((notes.map recordOf).foldl (LogOutput.take {}) o).console

end CaseFlow.Install
