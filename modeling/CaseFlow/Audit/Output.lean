import CaseFlow.Audit.Record

/-!
# Log output

Where records go: those that their loggers let through are written to the console and, if there
is one, to a log file. The file is set aside when it gets too long, and only so many old ones are
kept. A record that cannot be written is dropped.
-/

namespace CaseFlow

/-! ## Loggers -/

/-- The levels of single loggers. -/
abbrev Thresholds := List (String × Level)

namespace Thresholds

/-- The loggers of the libraries, which are kept quiet. -/
def libraries : Thresholds :=
  [("uvicorn", .info), ("uvicorn.access", .warning), ("sqlalchemy", .warning),
    ("sqlalchemy.engine", .warning), ("sqlalchemy.pool", .warning), ("asyncio", .warning)]

/-- The levels under a chosen one: the engine tells details only when all of them are asked for. -/
def chosen (level : Option Level) : Thresholds :=
  ("casework", if level = some .debug then .debug else .info) :: libraries

/-- Whether a logger is another one or belongs to it: names go from the whole to the part, with
points between them. -/
def belongs (logger whole : String) : Bool :=
  logger == whole || (whole ++ ".").isPrefixOf logger

/-- The threshold that holds for a logger: the one of the closest logger to which it belongs that
has one. -/
def closest? (ts : Thresholds) (logger : String) : Option Level :=
  let candidates := ts.filter fun t => belongs logger t.1
  (candidates.foldl (fun (best : Option (String × Level)) t =>
    match best with
    | some b => if b.1.length < t.1.length then some t else some b
    | none => some t) none).map (·.2)

/-- Whether a record at a level gets through its logger; one without a level never does. -/
def lets (level : Option Level) (logger : String) (record : Option Level) : Bool :=
  let threshold := match (chosen level).closest? logger with
    | some t => some t
    | none => level
  0 < levelRank record && levelRank threshold ≤ levelRank record

end Thresholds

/-! ## Files -/

/-- A log file and the old ones that were set aside. -/
structure LogFiles where
  /-- The length at which the file is set aside; without one it grows for ever. -/
  maxSize : Int
  /-- How many old files are kept. -/
  backups : Int
  /-- The text of the file. -/
  current : String := ""
  /-- The texts of the old files, the latest first. -/
  older : List String := []
  deriving Repr, BEq, Inhabited

namespace LogFiles

/-- Whether the file is set aside before a line: the line would bring it to its greatest length.
The file is measured in bytes, the line in characters. -/
def isFull (f : LogFiles) (line : String) : Bool :=
  0 < f.maxSize && f.maxSize ≤ (f.current.utf8ByteSize + line.length : Nat)

/-- Sets the file aside; the oldest files beyond those to be kept are dropped. Where none are to
be kept the file stays. -/
def setAside (f : LogFiles) : LogFiles :=
  if f.backups ≤ 0 then f
  else { f with current := "", older := (f.current :: f.older).take f.backups.toNat }

/-- Writes a line. -/
def write (f : LogFiles) (line : String) : LogFiles :=
  let f := if f.isFull line then f.setAside else f
  { f with current := f.current ++ line }

/-- The endings of the names of the old files. -/
def endings (f : LogFiles) : List String :=
  (List.range f.older.length).map fun n => s!".{n + 1}"

/-- The texts of all files in the order of their names. -/
def texts (f : LogFiles) : List String :=
  let old := (f.endings.zip f.older).mergeSort fun a b => !(b.1 < a.1)
  f.current :: old.map (·.2)

end LogFiles

/-! ## Output -/

/-- How the log is written. -/
structure LogOptions where
  /-- The word of the least level. -/
  level : String := "INFO"
  /-- The layout of a line. -/
  format : Option String := none
  /-- Whether records are written as JSON. -/
  structured : Bool := false
  /-- The length at which a log file is set aside. -/
  maxSize : Int := 10485760
  /-- How many old files are kept. -/
  backups : Int := 5
  deriving DecidableEq, Repr, Inhabited

/-- The output of the log. -/
structure LogOutput where
  /-- The least level. -/
  level : Option Level
  /-- The layout of a line; records are written as JSON where there is none. -/
  layout : Option LogRecord.Layout
  /-- What was written to the console. -/
  console : String := ""
  /-- The log files, if records go there. -/
  files : Option LogFiles := none
  deriving Repr

namespace LogOutput

/-- The layout that settings choose. The context is shown at the end of a line, unless the layout
puts it elsewhere. -/
def layoutOf (format : Option String) : LogRecord.Layout :=
  let format := (format.filter (!·.isEmpty)).getD defaultLogFormat
  let slot := "%(context)s"
  let format := if (format.splitOn slot).length = 1 then format ++ slot else format
  { format, thousandths := false }

/-- Opens the output. -/
def start (o : LogOptions) (toFile : Bool) : Except Fault LogOutput :=
  match Level.ofWord? (inCapitals o.level) with
  | none => .error .unknownLevel
  | some level => .ok
    { level
      layout := if o.structured then none else some (layoutOf o.format)
      files := if toFile then some { maxSize := o.maxSize, backups := o.backups } else none }

/-- A record as it is written. -/
def line (o : LogOutput) (r : LogRecord) : Except Fault String :=
  ((o.layout.map fun l => r.plain l).getD r.structured).map (· ++ "\n")

/-- Takes a record filed in a context. -/
def take (c : LogContext) (o : LogOutput) (r : LogRecord) : LogOutput :=
  if Thresholds.lets o.level r.logger r.level then
    match o.line (r.filed c) with
    | .ok line =>
      { o with console := o.console ++ line, files := o.files.map fun f => f.write line }
    | .error _ => o
  else o

/-- All texts written: the console, then the files in the order of their names. -/
def texts (o : LogOutput) : List String :=
  o.console :: (o.files.map LogFiles.texts).getD []

end LogOutput

end CaseFlow
