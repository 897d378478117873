import CaseFlow.Value.Basic
import CaseFlow.Text.Quoted

/-!
# The text of a value

A value on its own is shown plainly. Inside a list or an object texts are quoted, and dates and
timestamps are written with their components.
-/

namespace CaseFlow

open CaseFlow.Text

/-- The parts of an offset as days and seconds, the latter not negative. -/
def offsetParts (offset : Int) : String :=
  let days := offset.fdiv 86400
  let seconds := offset.fmod 86400
  let part (name : String) (n : Int) := if n = 0 then [] else [s!"{name}={n}"]
  String.intercalate ", " (part "days" days ++ part "seconds" seconds)

/-- A date by its components. -/
def Date.componentText (d : Date) : String :=
  s!"datetime.date({d.year}, {d.month}, {d.day})"

/-- A timestamp by its components; trailing zero seconds and microseconds are left out. -/
def Timestamp.componentText (t : Timestamp) : String :=
  let small :=
    if t.microsecond ≠ 0 then s!", {t.second % 60}, {t.microsecond}"
    else if t.second % 60 ≠ 0 then s!", {t.second % 60}" else ""
  let zone := match t.offset with
    | none => ""
    | some 0 => ", tzinfo=datetime.timezone.utc"
    | some n => s!", tzinfo=datetime.timezone(datetime.timedelta({offsetParts n}))"
  s!"datetime.datetime({t.date.year}, {t.date.month}, {t.date.day}, {t.second / 3600}, " ++
    s!"{t.second / 60 % 60}{small}{zone})"

namespace Value

mutual

/-- A value inside another one. -/
def written : Value → String
  | null => "None"
  | bool b => if b then "True" else "False"
  | int n => toString n
  | float x => Decimal.floatText x
  | text s => quote s
  | date d => d.componentText
  | timestamp t => t.componentText
  | list xs => "[" ++ writtenItems xs ++ "]"
  | object fs => "\x7b" ++ writtenFields fs ++ "\x7d"

/-- Items with commas between them. -/
def writtenItems : List Value → String
  | [] => ""
  | [v] => written v
  | v :: w :: vs => written v ++ ", " ++ writtenItems (w :: vs)

/-- Fields with commas between them. -/
def writtenFields : List (String × Value) → String
  | [] => ""
  | [(name, v)] => quote name ++ ": " ++ written v
  | (name, v) :: f :: fs => quote name ++ ": " ++ written v ++ ", " ++ writtenFields (f :: fs)

end

/-- A value on its own. -/
def shown : Value → String
  | text s => s
  | date d => d.text
  | timestamp t => t.displayText
  | v => v.written

end Value

end CaseFlow
