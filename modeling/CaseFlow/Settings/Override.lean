import CaseFlow.Settings.Basic

/-!
# Overriding settings

Single settings can be put in by hand. They are taken as they are: no bound and no rule is checked
again.
-/

namespace CaseFlow.Settings

/-- The text of a value where a text is wanted; other values leave what was there. -/
def orText (old : String) (v : Value) : String := v.text?.getD old

/-- The number of a value where a whole number is wanted. -/
def orInt (old : Int) : Value → Int
  | .int n => n
  | _ => old

/-- The number of a value where a binary number is wanted. -/
def orFloat (old : Float) (v : Value) : Float := (Reader.float v).toOption.getD old

/-- The texts of a list. -/
def orTexts (old : List String) : Value → List String
  | .list vs => vs.filterMap Value.text?
  | _ => old

/-- Puts in one setting. -/
def put (s : Settings) (name : String) (v : Value) : Settings :=
  match name with
  | "app_name" => { s with appName := orText s.appName v }
  | "app_version" => { s with appVersion := orText s.appVersion v }
  | "debug" => { s with debug := v.truthy }
  | "host" => { s with host := orText s.host v }
  | "port" => { s with port := orInt s.port v }
  | "reload" => { s with reload := v.truthy }
  | "database_url" => { s with databaseUrl := orText s.databaseUrl v }
  | "database_echo" => { s with databaseEcho := v.truthy }
  | "seed_demo_data" => { s with seedDemoData := v.truthy }
  | "seed_demo_cases" => { s with seedDemoCases := v.truthy }
  | "strict_transitions" => { s with strictTransitions := v.truthy }
  | "allow_self_loops" => { s with allowSelfLoops := v.truthy }
  | "log_format" => { s with logFormat := orText s.logFormat v }
  | "log_file" => { s with logFile := v.text? }
  | "log_structured" => { s with logStructured := v.truthy }
  | "log_max_size" => { s with logMaxSize := orInt s.logMaxSize v }
  | "log_backup_count" => { s with logBackupCount := orInt s.logBackupCount v }
  | "slow_request_threshold" =>
    { s with slowRequestThreshold := orFloat s.slowRequestThreshold v }
  | "enable_performance_monitoring" => { s with enablePerformanceMonitoring := v.truthy }
  | "cors_origins" => { s with corsOrigins := orTexts s.corsOrigins v }
  | "cors_methods" => { s with corsMethods := orTexts s.corsMethods v }
  | _ => s

/-- Puts in settings one after the other. -/
def override (s : Settings) (fs : Fields) : Settings := fs.foldl (fun s f => s.put f.1 f.2) s

end CaseFlow.Settings
