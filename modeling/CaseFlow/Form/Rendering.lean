import CaseFlow.Form.Answer

/-!
# Rendering forms

A form is shown with the values recorded on a case. A readonly field shows the value of the field
that it names.
-/

namespace CaseFlow

/-- A form field with the value that it shows for one case. -/
structure RenderedField where
  /-- The field. -/
  field : FormField
  /-- The decoded value. -/
  value : Value
  /-- The text shown for the value. -/
  display : String
  deriving Repr, BEq

namespace FormField

/-- The value that a field shows for recorded data. -/
def decoded (f : FormField) (data : Fields) : Value :=
  if f.isReadonly then
    match f.source with
    | some source => if source.isEmpty then .null else (data.get? source).getD .null
    | none => .null
  else
    match data.get? f.id with
    | none | some .null => Answer.initial f.type
    | some v => Answer.decode f.type v

/-- A field with its value. -/
def render (f : FormField) (data : Fields) : RenderedField :=
  let value := f.decoded data
  let display :=
    if f.isReadonly then Answer.display value
    else if value.isEmpty then "" else value.shown
  { field := f, value, display }

end FormField

/-- All fields of a form with their values. -/
def Form.render (f : Form) (data : Fields) : List RenderedField := f.fields.map (·.render data)

/-- A rendered field as a value. -/
def RenderedField.toValue (r : RenderedField) : Value :=
  .object [("id", .text r.field.id), ("label", .text r.field.label),
    ("type", .text (Worded.word r.field.type)),
    ("required", .bool (r.field.required && !r.field.isReadonly)),
    ("read_only", .bool r.field.isReadonly),
    ("options", (r.field.options.map Value.ofTexts).getD .null), ("value", r.value),
    ("display_value", .text r.display)]

end CaseFlow
