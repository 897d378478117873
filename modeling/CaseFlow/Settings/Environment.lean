import CaseFlow.Error.Cause
import CaseFlow.Settings.Basic
import CaseFlow.Settings.EnvFile

/-!
# Settings from the environment

Every setting can be given by an environment variable: its name in capitals after `CASEWORK_`. The
settings in use are read from the environment once and then kept. A file of variables adds to the
environment; a variable that is there already keeps its value.
-/

namespace CaseFlow

open CaseFlow.Text

namespace Settings

/-- The variable that gives a setting. -/
def variableOf (name : String) : String :=
  "CASEWORK_" ++ String.ofList (name.toList.map Char.toUpper)

/-- Settings from fields. -/
def ofFields (fs : Fields) : Except Failure Settings :=
  ((readFields fs).toExcept recordName).mapError .rejected

/-- Settings from variables; one without a variable has its default value. -/
def ofVariables (bindings : Fields) : Except Failure Settings :=
  let given := (Fields.names (toFields {})).filterMap fun name =>
    match bindings.get? (variableOf name) with
    | none | some .null => none
    | some v => some (name, v)
  ofFields given

end Settings

/-- The environment of an installation, and the settings read from it. -/
structure Environment where
  /-- The variables. -/
  bindings : Fields := []
  /-- The settings in use, once they have been read. -/
  current : Option Settings := none
  deriving Inhabited

namespace Environment

/-- The value of a variable. -/
def lookup (e : Environment) (name : String) : Option String :=
  (e.bindings.get? name).bind Value.text?

/-- Whether the system takes a name for a variable. -/
def isName (name : String) : Bool := !(name.toList.contains '=' || name.toList.contains '\x00')

/-- Sets variables one after the other, up to one that cannot be set. -/
def setAll (e : Environment) : Fields → Except Failure Unit × Environment
  | [] => (.ok (), e)
  | (name, v) :: rest =>
    match v with
    | .text s =>
      if isName name && !s.toList.contains '\x00' then
        setAll { e with bindings := Fields.set e.bindings name v } rest
      else (.error (.fault .variableName), e)
    | _ => (.error (.fault .shape), e)

/-- The settings in use; they are read where there are none yet. -/
def settings (e : Environment) : Except Failure Settings × Environment :=
  match e.current with
  | some s => (.ok s, e)
  | none =>
    match Settings.ofVariables e.bindings with
    | .ok s => (.ok s, { e with current := some s })
    | .error f => (.error f, e)

/-- Forgets the settings in use. -/
def forget (e : Environment) : Environment := { e with current := none }

/-- The variables that a file adds. -/
def additions (e : Environment) (file : String) : Fields :=
  (EnvFile.resolve e.lookup (EnvFile.bindings file)).filterMap fun b =>
    match b.value with
    | some v => if Fields.has e.bindings b.name then none else some (b.name, .text v)
    | none => none

/-- Takes a file of variables into the environment and reads the settings anew. -/
def load (e : Environment) (file : String) : Except Failure Settings × Environment :=
  match e.setAll (e.additions file) with
  | (.error f, e) => (.error f, e)
  | (.ok (), e) =>
    match Settings.ofVariables e.bindings with
    | .ok s => (.ok s, { e with current := some s })
    | .error f => (.error f, e)

end Environment

end CaseFlow
