import CaseFlow.Calendar.Timestamp

/-!
# Values

The values that documents, forms and settings are written in: those of JSON, with dates and
timestamps besides. The fields of an object keep the order in which they were set, and no name
occurs twice.
-/

namespace CaseFlow

/-- A value of a document or a form. -/
inductive Value where
  /-- No value. -/
  | null
  /-- A truth value. -/
  | bool (b : Bool)
  /-- A whole number of any size. -/
  | int (n : Int)
  /-- A binary number. -/
  | float (x : Float)
  /-- A text. -/
  | text (s : String)
  /-- A date. -/
  | date (d : Date)
  /-- A timestamp. -/
  | timestamp (t : Timestamp)
  /-- A list of values. -/
  | list (items : List Value)
  /-- Named values. -/
  | object (fields : List (String × Value))
  deriving Repr, BEq, Inhabited

/-- The fields of an object. -/
abbrev Fields := List (String × Value)

namespace Fields

/-- The value of a field. -/
def get? (fs : Fields) (name : String) : Option Value := (fs.find? (·.1 == name)).map (·.2)

/-- Whether there is a field of that name. -/
def has (fs : Fields) (name : String) : Bool := fs.any (·.1 == name)

/-- The names of the fields, in order. -/
def names (fs : Fields) : List String := fs.map (·.1)

/-- Sets a field: in its place if there is one of that name, at the end if not. -/
def set (fs : Fields) (name : String) (v : Value) : Fields :=
  if has fs name then fs.map fun f => if f.1 == name then (name, v) else f else fs ++ [(name, v)]

/-- Sets all fields of `new`, one after the other. -/
def merge (fs new : Fields) : Fields := new.foldl (fun acc f => set acc f.1 f.2) fs

end Fields

namespace Value

/-- A text, or no value. -/
def ofText? (s : Option String) : Value := (s.map text).getD null

/-- Texts as a list. -/
def ofTexts (xs : List String) : Value := list (xs.map text)

/-- The fields of an object; other values have none. -/
def fields? : Value → Option Fields
  | object fs => some fs
  | _ => none

/-- The text that a value is. -/
def text? : Value → Option String
  | text s => some s
  | _ => none

/-- Whether a value counts as given: neither absent nor false, zero or empty. -/
def truthy : Value → Bool
  | null => false
  | bool b => b
  | int n => n != 0
  | float x => !Decimal.isZero x
  | text s => !s.isEmpty
  | date _ => true
  | timestamp _ => true
  | list xs => !xs.isEmpty
  | object fs => !fs.isEmpty

/-- Whether an answer is empty: absent, or the empty text. -/
def isEmpty : Value → Bool
  | null => true
  | text s => s.isEmpty
  | _ => false

/-- A falsy value becomes no value. -/
def orNull (v : Value) : Value := if v.truthy then v else null

end Value

end CaseFlow
