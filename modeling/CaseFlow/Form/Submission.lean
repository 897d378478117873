import CaseFlow.Form.Answer

/-!
# Submitting forms

A submission gives values for the fields of a form. A field that it leaves out keeps the value
recorded before, or its initial one. Every value has to suit the type of its field, and a required
field has to end up with one that counts as given; the first field that fails is reported.
Readonly fields and values for other fields are passed over.
-/

namespace CaseFlow

namespace Submission

/-- The value to be coerced for a field: the submitted one, else the recorded one, else the initial
one. -/
def raw (data submitted : Fields) (f : FormField) : Value :=
  match submitted.get? f.id with
  | some v => v
  | none => (data.get? f.id).getD (Answer.initial f.type)

/-- The value that one field records. -/
def fieldValue (data submitted : Fields) (f : FormField) : Except Error Value :=
  match Answer.coerce f (raw data submitted f) with
  | .error e => .error e
  | .ok v => if f.required && !v.truthy then .error (.missingAnswer f.label f.id) else .ok v

/-- The values that a list of fields records, set one after the other. -/
def collect (data submitted : Fields) : Fields → List FormField → Except Error Fields
  | acc, [] => .ok acc
  | acc, f :: rest =>
    if f.isReadonly then collect data submitted acc rest
    else
      match fieldValue data submitted f with
      | .error e => .error e
      | .ok v => collect data submitted (acc.set f.id v) rest

/-- The submitted names that are no fields of the form, sorted. -/
def ignored (form : Form) (submitted : Fields) : List String :=
  (submitted.names.filter fun name => !(form.fields.any (·.id == name))).mergeSort (· ≤ ·)

end Submission

/-- The values to record for a submission, by field id in form order. -/
def Form.submit (form : Form) (data submitted : Fields) : Except Error Fields :=
  Submission.collect data submitted [] form.fields

end CaseFlow
