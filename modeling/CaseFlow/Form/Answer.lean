import CaseFlow.Error.Cause
import CaseFlow.Text.Lowercase

/-!
# Answers

What a form field shows for a recorded value, and what it records for a submitted one. Decoding is
lenient, since recorded values may be older than the form; coercion accepts only what the type of
the field can hold and yields texts, truth values and numbers.
-/

namespace CaseFlow

open CaseFlow.Text CaseFlow.Decimal

namespace Answer

/-- The words for yes. -/
def trueWords : List String := ["true", "1", "yes", "on"]

/-- The words for no. -/
def falseWords : List String := ["false", "0", "no", "off", ""]

/-- The text shown for a recorded value. -/
def display : Value → String
  | .bool b => if b then "Yes" else "No"
  | v => if v.isEmpty then "Not provided" else v.shown

/-- The value of a field that was never answered. -/
def initial : FieldType → Value
  | .checkbox => .bool false
  | _ => .text ""

/-! ## Decoding -/

/-- A recorded value as a text. -/
def decodeText : Value → Value
  | .null => .text ""
  | v => .text v.shown

/-- A recorded value as a number, where it can be read as one. -/
def decodeNumber (v : Value) : Value :=
  match v with
  | .null | .bool _ => .text ""
  | .text s =>
    if s.isEmpty then .text ""
    else
      match readInt? s, readFloat? s with
      | some n, _ => .int n
      | none, some x => .float x
      | none, none => v
  | v => v

/-- A recorded value as a date, where it can be read as one. -/
def decodeDate (v : Value) : Value :=
  if v.isEmpty then .text ""
  else
    match v with
    | .timestamp t => .date t.date
    | .date d => .date d
    | v =>
      match Date.parse? v.shown with
      | some d => .date d
      | none => v

/-- A recorded value as a truth value. -/
def decodeCheckbox : Value → Value
  | .text s => .bool (trueWords.contains (lower (trim s)))
  | v => .bool v.truthy

/-- A recorded value as a field of the given type shows it. -/
def decode : FieldType → Value → Value
  | .text, v | .textarea, v | .select, v => decodeText v
  | .number, v => decodeNumber v
  | .date, v => decodeDate v
  | .checkbox, v => decodeCheckbox v
  | .readonly, v => v

/-! ## Coercion -/

/-- A submitted value as a text. -/
def coerceText : Value → Value
  | .null => .text ""
  | v => .text v.shown

/-- A submitted value as a number. -/
def coerceNumber (f : FormField) (v : Value) : Except Error Value :=
  if v.isEmpty then .ok (.text "")
  else
    match v with
    | .bool _ => .error (.answerNotNumber f.label f.id)
    | .int n => .ok (.int n)
    | .float x => .ok (.float x)
    | v =>
      let s := trim v.shown
      match readInt? s, readFloat? s with
      | some n, _ => .ok (.int n)
      | none, some x => .ok (.float x)
      | none, none => .error (.answerNotNumber f.label f.id)

/-- A submitted value as the written form of a date. -/
def coerceDate (f : FormField) (v : Value) : Except Error Value :=
  if v.isEmpty then .ok (.text "")
  else
    match v with
    | .timestamp t => .ok (.text t.date.text)
    | .date d => .ok (.text d.text)
    | v =>
      match Date.parse? (trim v.shown) with
      | some d => .ok (.text d.text)
      | none => .error (.answerNotDate f.label f.id)

/-- A submitted value as one of the options; a field without options takes any text. -/
def coerceSelect (f : FormField) (v : Value) : Except Error Value :=
  if v.isEmpty then .ok (.text "")
  else
    let s := v.shown
    let options := f.options.getD []
    if !options.isEmpty && !options.contains s then .error (.answerNotOption f.label options f.id)
    else .ok (.text s)

/-- A submitted value as a truth value. -/
def coerceCheckbox (f : FormField) (v : Value) : Except Error Value :=
  match v with
  | .null => .ok (.bool false)
  | .bool b => .ok (.bool b)
  | .int n => .ok (.bool (n != 0))
  | .text s =>
    let word := lower (trim s)
    if trueWords.contains word then .ok (.bool true)
    else if falseWords.contains word then .ok (.bool false)
    else .error (.answerNotBoolean f.label f.id)
  | _ => .error (.answerNotBoolean f.label f.id)

/-- The value that a field records for a submitted one. A readonly field records nothing; its
value passes through. -/
def coerce (f : FormField) (v : Value) : Except Error Value :=
  match f.type with
  | .text | .textarea => .ok (coerceText v)
  | .number => coerceNumber f v
  | .date => coerceDate f v
  | .select => coerceSelect f v
  | .checkbox => coerceCheckbox f v
  | .readonly => .ok v

end Answer

end CaseFlow
