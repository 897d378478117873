import CaseFlow.Audit.Note
import CaseFlow.Reading.Checked
import CaseFlow.Text.Lowercase

/-!
# Settings

The settings of an installation: how it is served, which database it uses, what it starts with,
which rules it follows, and what it logs. Each setting has a default value and can be given as a
value of any kind that its type accepts.
-/

namespace CaseFlow

open CaseFlow.Text

/-- The settings of an installation. -/
structure Settings where
  /-- The name of the service. -/
  appName : String := "Casework"
  /-- The version of the service. -/
  appVersion : String := "1.0.0"
  /-- Whether the service is being debugged. -/
  debug : Bool := false
  /-- The address at which it listens. -/
  host : String := "0.0.0.0"
  /-- The port at which it listens, from 1 to 65535. -/
  port : Int := 8000
  /-- Whether it restarts when its code changes. -/
  reload : Bool := false
  /-- The address of the database. -/
  databaseUrl : String := "sqlite:///./casework.db"
  /-- Whether queries are logged. -/
  databaseEcho : Bool := false
  /-- Whether the demo users and apps are created. -/
  seedDemoData : Bool := true
  /-- Whether the demo cases are created with them. -/
  seedDemoCases : Bool := true
  /-- Whether a step with several ways out demands a choice. -/
  strictTransitions : Bool := false
  /-- Whether a node may be connected to itself. -/
  allowSelfLoops : Bool := false
  /-- The least weight of a note that is logged. -/
  logLevel : Level := .info
  /-- The form of a line in the log. -/
  logFormat : String := defaultLogFormat
  /-- The file that the log is also written to. -/
  logFile : Option String := none
  /-- Whether the log consists of objects instead of lines. -/
  logStructured : Bool := false
  /-- The size at which a log file is set aside, positive. -/
  logMaxSize : Int := 10485760
  /-- How many log files are kept aside, not negative. -/
  logBackupCount : Int := 5
  /-- The seconds after which a request counts as slow, positive. -/
  slowRequestThreshold : Float := 5
  /-- Whether requests are timed. -/
  enablePerformanceMonitoring : Bool := true
  /-- The sites whose pages may call the service. -/
  corsOrigins : List String := ["*"]
  /-- The methods with which they may call it. -/
  corsMethods : List String := ["GET", "POST", "PUT", "PATCH", "DELETE"]
  deriving DecidableEq, Repr, Inhabited

namespace Settings

/-- The database systems that are supported. -/
def supportedSchemes : List String := ["sqlite", "postgresql", "mysql"]

/-- The characters before the first occurrence of a sequence; all of them where there is none. -/
def before (mark : List Char) : List Char → List Char
  | [] => []
  | c :: cs => if mark.isPrefixOf (c :: cs) then [] else c :: before mark cs

/-- The system that a database address names; a driver may follow it after a plus sign. -/
def scheme (url : String) : String :=
  lower (String.ofList (before ['+'] (before "://".toList url.toList)))

/-- A database address of a supported system. -/
def checkDatabaseUrl (url : String) : Except Rule String :=
  if url.isEmpty then .error .emptyDatabaseUrl
  else if supportedSchemes.contains (scheme url) then .ok url
  else .error (.databaseScheme (scheme url))

/-- Reads a weight, in capital or small letters. -/
def readLevel : Reader Level
  | .text s => Reader.choice (.text (inCapitals s))
  | v => Reader.choice v

/-- The parts of a text between commas, trimmed; blank ones are dropped. -/
def commaList (s : String) : List String :=
  ((s.splitOn ",").map trim).filter (!·.isEmpty)

/-- Reads a list of texts, also from a text with commas. -/
def readList : Reader (List String)
  | .text s => .ok (commaList s)
  | v => Reader.list Reader.text v

/-- Bounds of a port. -/
def portBounds : List ((Int → Bool) × Complaint) :=
  [((1 ≤ ·), .atLeast 1), ((· ≤ 65535), .atMost 65535)]

/-- Reads settings; one that is not given has its default value. -/
def readFields (fs : Fields) : Checked Settings :=
  let d : Settings := {}
  Settings.mk <$> fs.optional "app_name" Reader.text d.appName
    <*> fs.optional "app_version" Reader.text d.appVersion
    <*> fs.optional "debug" Reader.bool d.debug
    <*> fs.optional "host" Reader.text d.host
    <*> fs.optional "port" (Reader.int.bounded portBounds) d.port
    <*> fs.optional "reload" Reader.bool d.reload
    <*> fs.optional "database_url" (Reader.text.checking checkDatabaseUrl) d.databaseUrl
    <*> fs.optional "database_echo" Reader.bool d.databaseEcho
    <*> fs.optional "seed_demo_data" Reader.bool d.seedDemoData
    <*> fs.optional "seed_demo_cases" Reader.bool d.seedDemoCases
    <*> fs.optional "strict_transitions" Reader.bool d.strictTransitions
    <*> fs.optional "allow_self_loops" Reader.bool d.allowSelfLoops
    <*> fs.optional "log_level" readLevel d.logLevel
    <*> fs.optional "log_format" Reader.text d.logFormat
    <*> fs.optional "log_file" (Reader.nullable Reader.text) d.logFile
    <*> fs.optional "log_structured" Reader.bool d.logStructured
    <*> fs.optional "log_max_size" (Reader.int.bounded [((0 < ·), .above 0)]) d.logMaxSize
    <*> fs.optional "log_backup_count" (Reader.int.bounded [((0 ≤ ·), .atLeast 0)])
      d.logBackupCount
    <*> fs.optional "slow_request_threshold" (Reader.float.bounded [((0 < ·), .above 0)])
      d.slowRequestThreshold
    <*> fs.optional "enable_performance_monitoring" Reader.bool d.enablePerformanceMonitoring
    <*> fs.optional "cors_origins" readList d.corsOrigins
    <*> fs.optional "cors_methods" readList d.corsMethods

/-- The name under which settings are refused. -/
def recordName : String := "AppConfig"

/-- Whether the database is a file or lies in memory. -/
def isEmbedded (s : Settings) : Bool := (lower s.databaseUrl).startsWith "sqlite"

/-- The fields of settings as they are written. -/
def toFields (s : Settings) : Fields :=
  [("app_name", .text s.appName), ("app_version", .text s.appVersion), ("debug", .bool s.debug),
    ("host", .text s.host), ("port", .int s.port), ("reload", .bool s.reload),
    ("database_url", .text s.databaseUrl), ("database_echo", .bool s.databaseEcho),
    ("seed_demo_data", .bool s.seedDemoData), ("seed_demo_cases", .bool s.seedDemoCases),
    ("strict_transitions", .bool s.strictTransitions),
    ("allow_self_loops", .bool s.allowSelfLoops), ("log_level", .text (Worded.word s.logLevel)),
    ("log_format", .text s.logFormat), ("log_file", .ofText? s.logFile),
    ("log_structured", .bool s.logStructured), ("log_max_size", .int s.logMaxSize),
    ("log_backup_count", .int s.logBackupCount),
    ("slow_request_threshold", .float s.slowRequestThreshold),
    ("enable_performance_monitoring", .bool s.enablePerformanceMonitoring),
    ("cors_origins", .ofTexts s.corsOrigins), ("cors_methods", .ofTexts s.corsMethods)]

/-- What the server that serves the requests is told. -/
def serverArguments (s : Settings) : Fields :=
  [("host", .text s.host), ("port", .int s.port), ("reload", .bool s.reload),
    ("log_level", .text (lowerAscii (Worded.word s.logLevel))), ("access_log", .bool s.debug)]

/-- Settings for deployment: no foreign pages, and decisions have to be made. -/
def production : Settings := { corsOrigins := [], strictTransitions := true }

/-- Settings for tests: a database in memory without demo data. -/
def testing : Settings :=
  { debug := true, databaseUrl := "sqlite:///:memory:", logLevel := .warning,
    seedDemoData := false, seedDemoCases := false, enablePerformanceMonitoring := false }

end Settings

end CaseFlow
