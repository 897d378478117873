import CaseFlow.Reading.Checked

/-!
# Notes

What the engine writes to its log: a level, the name of the logger, a message, and values that go
with it.
-/

namespace CaseFlow

/-- The weight of a note. -/
inductive Level where
  /-- Of interest while looking for a mistake. -/
  | debug
  /-- Something happened as it should. -/
  | info
  /-- Something was refused or looks odd. -/
  | warning
  /-- Something failed. -/
  | error
  /-- Nothing works any more. -/
  | critical
  deriving DecidableEq, Repr, Inhabited

instance : Worded Level where
  all := [.debug, .info, .warning, .error, .critical]
  word
    | .debug => "DEBUG"
    | .info => "INFO"
    | .warning => "WARNING"
    | .error => "ERROR"
    | .critical => "CRITICAL"

/-- The rank of a level among levels. -/
def Level.rank : Level → Nat
  | .debug => 10
  | .info => 20
  | .warning => 30
  | .error => 40
  | .critical => 50

/-- The ASCII capital of a letter, where it has one. -/
def capital (c : Char) : Char :=
  if c == 'ı' then 'I' else if c == 'ſ' then 'S' else c.toUpper

/-- A text in capitals. -/
def inCapitals (s : String) : String := String.ofList (s.toList.map capital)

/-- The level of a word. Two levels have a second word, and one word stands for no level. -/
def Level.ofWord? (word : String) : Option (Option Level) :=
  match word with
  | "WARN" => some (some .warning)
  | "FATAL" => some (some .critical)
  | "NOTSET" => some none
  | _ => (Worded.ofWord? (α := Level) word).map some

/-- The rank of a level that may be missing. -/
def levelRank (l : Option Level) : Nat := (l.map Level.rank).getD 0

/-- The word of a level that may be missing. -/
def levelWord (l : Option Level) : String := (l.map Worded.word).getD "NOTSET"

/-- The layout of a line of the log, as far as settings do not choose another one. -/
def defaultLogFormat : String :=
  "%(asctime)s - %(name)s - %(levelname)s - %(message)s%(context)s"

/-- An entry of the log. -/
structure Note where
  /-- The weight. -/
  level : Level
  /-- The name of the logger. -/
  logger : String
  /-- The message. -/
  message : String
  /-- Values that go with the message. -/
  fields : Fields := []
  deriving Repr, BEq, Inhabited

/-- The loggers of the engine. -/
inductive Logger where
  /-- Editing of documents. -/
  | editing
  /-- Forms. -/
  | forms
  /-- Progress of cases. -/
  | progression
  /-- The user directory. -/
  | directory
  /-- Apps. -/
  | apps
  /-- Cases. -/
  | cases
  /-- Requests. -/
  | requests
  /-- Routes. -/
  | routes
  /-- The running application. -/
  | application
  /-- The installer. -/
  | installer
  deriving DecidableEq, Repr

/-- The name of a logger. -/
def Logger.name : Logger → String
  | .editing => "casework.core.graph_editor"
  | .forms => "casework.core.form_interpreter"
  | .progression => "casework.core.progression"
  | .directory => "casework.core.identity"
  | .apps => "casework.core.app_manager"
  | .cases => "casework.core.case_manager"
  | .requests => "casework.core.middleware"
  | .routes => "casework.api.endpoints"
  | .application => "casework.factory"
  | .installer => "casework.init_db"

/-- A note of the engine. -/
def Logger.note (l : Logger) (level : Level) (message : String) (fields : Fields := []) : Note :=
  { level, logger := l.name, message, fields }

end CaseFlow
