import CaseFlow.Value.Basic

/-!
# Portable values

What becomes of a value that is kept or sent as JSON: a date or a timestamp becomes its text, and
a number that is not finite is lost.
-/

namespace CaseFlow.Value

mutual

/-- The value as JSON can hold it. -/
def portable : Value → Value
  | float x => if Decimal.isFinite x then float x else null
  | date d => text d.text
  | timestamp t => text t.documentText
  | list vs => list (portableItems vs)
  | object fs => object (portableFields fs)
  | v => v

/-- Items as JSON can hold them. -/
def portableItems : List Value → List Value
  | [] => []
  | v :: vs => portable v :: portableItems vs

/-- Fields as JSON can hold them. -/
def portableFields : List (String × Value) → List (String × Value)
  | [] => []
  | (name, v) :: fs => (name, portable v) :: portableFields fs

end

end CaseFlow.Value
