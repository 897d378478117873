import CaseFlow.Install.Run

/-!
# Command line

Runs the installer once. The database is kept in memory, so that a run shows what an installation
with the given settings and options does, and leaves nothing behind.
-/

namespace CaseFlow.Install

/-- How the installer is called. -/
def usage : String := "usage: caseflow [-h] [--env-file ENV_FILE] [--reset] [--no-seed]"

/-- What the options mean. -/
def explanation : String :=
  String.intercalate "\n"
    [usage, "", "Create the casework tables and seed the demo users and apps.", "", "options:",
      "  -h, --help           show this help message and exit",
      "  --env-file ENV_FILE  Read settings from this file instead of ./.env",
      "  --reset              Drop existing tables first",
      "  --no-seed            Only create tables"]

/-- The text of a file, if it can be read. -/
def fileText? (name : String) : IO (Option String) := do
  try
    return some (← IO.FS.readFile name)
  catch _ => return none

/-- The environment variables that give settings. -/
def settingVariables : IO Fields := do
  let names := (Fields.names (Settings.toFields {})).map Settings.variableOf
  let found ← names.mapM fun name => do
    return (← IO.getEnv name).map fun value => (name, Value.text value)
  return found.filterMap id

/-- Runs the installer with options that make sense. -/
def perform (o : Options) (arguments : List String) : IO Outcome := do
  let text ← fileText? (Machine.envFile o.envFile)
  let m : Machine := { file? := fun _ => text, bindings := ← settingVariables }
  match m.settings o.envFile with
  | .error f =>
    IO.eprintln f.kind
    return .failed
  | .ok s =>
    let (outcome, after) := run m arguments
    match consoleText s after.notes with
    | .ok text => IO.print text
    | .error f => IO.eprintln f.kind
    return outcome

end CaseFlow.Install

open CaseFlow.Install in
/-- Runs the installer and answers with its exit code. -/
def main (arguments : List String) : IO UInt32 := do
  match Usage.read arguments with
  | .help =>
    IO.println explanation
    return 0
  | .mistake =>
    IO.eprintln usage
    return UInt32.ofNat Outcome.misused.code
  | .run o => return UInt32.ofNat (← perform o arguments).code
