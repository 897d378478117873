import CaseFlow.Error.Cause
import CaseFlow.Files.Path
import CaseFlow.Settings.Basic

/-!
# Locations in settings

Settings name files: that of the database and that of the log. The directories of both have to
exist or to be made before the settings can be used.
-/

namespace CaseFlow.Settings

/-- The characters after the first occurrence of a sequence; all of them where there is none. -/
def after (mark cs : List Char) : List Char :=
  let n := (before mark cs).length
  if n = cs.length then cs else cs.drop (n + mark.length)

/-- Whether the address of the database speaks of memory. -/
def mentionsMemory (s : Settings) : Bool :=
  let cs := s.databaseUrl.toList
  (before ":memory:".toList cs).length != cs.length

/-- What follows three slashes in an address of an embedded database. -/
def databaseFile (s : Settings) : String := String.ofList (after "///".toList s.databaseUrl.toList)

/-- Where a database lies. -/
inductive Database where
  /-- In memory; nothing of it is kept. -/
  | memory
  /-- In a file. -/
  | file (path : Path)
  /-- In a place that cannot be used here. -/
  | unsupported
  deriving DecidableEq, Repr

/-- The database that an address names: options after a question mark do not tell where it lies. -/
def database (s : Settings) : Database :=
  let cs := s.databaseUrl.toList
  let system := before "://".toList cs
  if system.length = cs.length then .unsupported
  else if system != "sqlite".toList && system != "sqlite+pysqlite".toList then .unsupported
  else
    match (cs.drop (system.length + 3)).takeWhile (· != '?') with
    | [] => .memory
    | '/' :: file =>
      if file.isEmpty || file == ":memory:".toList then .memory
      else .file (Path.ofText (String.ofList file))
    | _ => .unsupported

/-- What is wrong with the directory of a file. -/
def directoryProblem? (what file : String) : Option String :=
  let directory := (Path.ofText file).parent
  directory.creationFault?.map fun fault =>
    s!"Cannot create {what} directory {directory.text}: {fault}"

/-- What is wrong with the directories that settings need. -/
def problems (s : Settings) : List String :=
  let database :=
    if s.isEmbedded && !s.mentionsMemory then directoryProblem? "database" s.databaseFile else none
  let log := match s.logFile with
    | none | some "" => none
    | some file => directoryProblem? "log" file
  database.toList ++ log.toList

/-- Refuses settings whose directories cannot be made. -/
def check (s : Settings) : Except Error Unit :=
  match s.problems with
  | [] => .ok ()
  | ps => .error (.configuration ps)

end CaseFlow.Settings
