import CaseFlow.Proofs.Form.Accepted
import CaseFlow.Proofs.Form.Recorded

/-!
# Submitted numbers and JSON

JSON has room for all that a form records but the numbers that are not finite. A form records such a
number exactly where a number field is given one, be it as a number or as a text that reads as one,
such as `inf`; every other submission is recorded as JSON can hold it (`Form.submit_portable`).
Nothing in a form keeps such a number out (`Form.submit_not_portable`).

Only number fields record binary numbers (`Answer.coerce_eq_float`), since nothing but a number
suits any other type of field. Which number a number field takes a value for is told by
`Value.numberGiven?`; whole numbers are taken for what they are and are never at fault.
-/

namespace CaseFlow

open CaseFlow.Text Decimal

namespace Value

/-- A text, a truth value, a whole number or a finite number. -/
inductive IsPortable : Value → Prop where
  | text (s : String) : IsPortable (.text s)
  | bool (b : Bool) : IsPortable (.bool b)
  | int (n : Int) : IsPortable (.int n)
  | float {x : Float} (h : isFinite x = true) : IsPortable (.float x)

/-- An answer is portable unless it is a number that is not finite. -/
private theorem IsAnswer.isPortable {v : Value} (h : v.IsAnswer)
    (hfinite : ∀ x, v = .float x → isFinite x = true) : v.IsPortable := by
  cases h with
  | text s => exact .text s
  | bool b => exact .bool b
  | int n => exact .int n
  | float x => exact .float (hfinite x rfl)

/-- The binary number for which a number field takes a value. Whole numbers, and texts that read as
whole numbers, are taken for what they are. -/
def numberGiven? : Value → Option Float
  | .bool _ => none
  | .int _ => none
  | .float x => some x
  | v =>
    if v.isEmpty || (readInt? (trim v.shown)).isSome then none else readFloat? (trim v.shown)

/-- A value that a number field does not take for a number which is not finite. -/
def GivesFinite (v : Value) : Prop := ∀ x, v.numberGiven? = some x → isFinite x = true

instance (v : Value) : Decidable v.GivesFinite :=
  decidable_of_iff (v.numberGiven?.all isFinite = true) (Option.all_eq_true _ _)

end Value

namespace Answer

variable {f : FormField} {v : Value} {x : Float}

/-- A number field records a binary number exactly if it is given one. -/
private theorem coerceNumber_eq_float :
    coerceNumber f v = .ok (.float x) ↔ v.numberGiven? = some x := by
  unfold coerceNumber Value.numberGiven?
  -- An empty value stands for no number.
  by_cases hempty : v.isEmpty = true
  · rw [if_pos hempty]
    refine iff_of_false (fun h => nomatch h) ?_
    cases v with
    | bool b => simp
    | int n => simp
    | float y => cases hempty
    | _ =>
      dsimp only
      rw [hempty, Bool.true_or, if_pos rfl]
      simp
  · rw [if_neg hempty]
    rw [Bool.not_eq_true] at hempty
    cases v with
    | bool b => simp
    | int n => simp
    | float y => simp
    | _ =>
      -- What is no number by itself is read as one, first as a whole one.
      dsimp only
      rw [hempty, Bool.false_or]
      generalize readInt? _ = n?
      generalize readFloat? _ = x?
      cases n? <;> cases x? <;> simp

/-- Only number fields record binary numbers. -/
theorem coerce_eq_float (hf : f.isReadonly = false) :
    coerce f v = .ok (.float x) ↔ f.type = .number ∧ v.numberGiven? = some x := by
  constructor
  · intro h
    -- Of all types only that of numbers is suited by a binary one.
    have htype : f.type = .number := by
      have hsuits := suits_of_coerce hf h
      generalize f.type = t at hsuits ⊢
      cases hsuits
      rfl
    rw [coerce, htype] at h
    exact ⟨htype, coerceNumber_eq_float.mp h⟩
  · rintro ⟨htype, hgiven⟩
    rw [coerce, htype]
    exact coerceNumber_eq_float.mpr hgiven

end Answer

namespace Submission

variable {data submitted : Fields} {f : FormField} {x : Float}

/-- A field that records a binary number is a number field and was given that number. -/
private theorem given_of_fieldValue (hf : f.isReadonly = false)
    (h : fieldValue data submitted f = .ok (.float x)) :
    f.type = .number ∧ (raw data submitted f).numberGiven? = some x := by
  rw [← Answer.coerce_eq_float hf]
  unfold fieldValue at h
  split at h
  · cases h
  · next v hcoerce =>
    split at h
    · cases h
    · rw [hcoerce, Except.ok.inj h]

/-- A number field that is given a number which is not finite records it, required or not. -/
theorem fieldValue_of_given (hf : f.type = .number)
    (h : (raw data submitted f).numberGiven? = some x) (hx : isFinite x = false) :
    fieldValue data submitted f = .ok (.float x) := by
  have hreadonly : f.isReadonly = false := by simp [FormField.isReadonly, hf]
  have hcoerce : Answer.coerce f (raw data submitted f) = .ok (.float x) :=
    (Answer.coerce_eq_float hreadonly).mpr ⟨hf, h⟩
  -- Only a finite number can be zero, and so fail to count as given.
  have htruthy : (Value.float x).truthy = true := by
    have hzero : isZero x = false := by
      unfold isFinite at hx
      unfold isZero
      cases hparts : parts x <;> simp_all
    rw [Value.truthy, hzero, Bool.not_false]
  simp [fieldValue, hcoerce, htruthy]

end Submission

variable {form : Form} {data submitted vs : Fields}

/-- Whatever is submitted, an accepted form returns texts, truth values and numbers. Where no number
field is given a number that is not finite, JSON can hold all of them and gives them back as they
are; and where ids are distinct, a number field that is given such a number returns it. -/
theorem Form.submit_portable (h : form.submit data submitted = .ok vs) :
    (∀ p ∈ vs, p.2.IsAnswer) ∧
    ((∀ f ∈ form.fields, f.type = .number → (Submission.raw data submitted f).GivesFinite) →
      (∀ p ∈ vs, p.2.IsPortable) ∧ Value.portableFields vs = vs) ∧
    ((form.fields.map (·.id)).Nodup → ∀ f ∈ form.fields, f.type = .number →
      ∀ x, (Submission.raw data submitted f).numberGiven? = some x → isFinite x = false →
        vs.get? f.id = some (.float x)) := by
  have hanswers : ∀ p ∈ vs, p.2.IsAnswer := by
    intro p hp
    obtain ⟨f, -, hf, -, hvalue⟩ := exists_of_mem_submit h hp
    exact Submission.fieldValue_isAnswer hf hvalue
  refine ⟨hanswers, fun hgiven => ?_, fun hids f hf htype x hx hinfinite => ?_⟩
  · -- A number that is recorded was given to a number field, where none is infinite.
    have hfinite : ∀ p ∈ vs, ∀ x, p.2 = .float x → isFinite x = true := by
      intro p hp x hx
      obtain ⟨f, hmem, hf, -, hvalue⟩ := exists_of_mem_submit h hp
      rw [hx] at hvalue
      obtain ⟨htype, hnumber⟩ := Submission.given_of_fieldValue hf hvalue
      exact hgiven f hmem htype x hnumber
    refine ⟨fun p hp => (hanswers p hp).isPortable (hfinite p hp), ?_⟩
    have hscalar : vs.Scalar := fun p hp => .inl (hanswers p hp)
    rw [hscalar.portableFields_eq, Fields.finite_eq_self_iff]
    exact hfinite
  · -- The form as that of a step, of whose values it is known under which ids they are found.
    let n : Node := { id := "", type := .task, label := "", form := some form }
    obtain ⟨-, -, hvalues⟩ := Node.answers_spec (n := n) hids h
    have hreadonly : f.isReadonly = false := by simp [FormField.isReadonly, htype]
    obtain ⟨v, hv, hvalue⟩ := hvalues f hf hreadonly
    rw [Submission.fieldValue_of_given htype hx hinfinite] at hvalue
    rw [hv, Except.ok.inj hvalue]

/-! ## A form with numbers -/

namespace Sample

/-- A form with two number fields and a date. -/
def order : Form where
  fields :=
    [{ id := "amount", label := "Amount", type := .number, required := true },
      { id := "limit", label := "Limit", type := .number },
      { id := "due", label := "Due", type := .date }]

/-- What is recorded for the order before it is filled in. -/
def ordered : Fields := [("due", .text "20240229")]

/-- What is submitted for the order. -/
def orderGiven : Fields := [("amount", .text " 1_000"), ("limit", .text "2.5e3")]

end Sample

/-- The order takes an amount with a blank before it and an underscore in it, a limit written with
an exponent, and a date as it is recorded. -/
theorem Form.submit_portable_sample : ∃ vs,
    Sample.order.submit Sample.ordered Sample.orderGiven = .ok vs ∧
      (∀ p ∈ vs, p.2.IsPortable) ∧ Value.portableFields vs = vs := by
  obtain ⟨vs, h⟩ : ∃ vs, Sample.order.submit Sample.ordered Sample.orderGiven = .ok vs :=
    isOk_eq_true.mp (by decide +kernel)
  exact ⟨vs, h, (submit_portable h).2.1 (by decide +kernel)⟩

/-- A number field takes the word for an infinite number and records it, so not every value that is
recorded can be held by JSON. -/
theorem Form.submit_not_portable : ¬ ∀ (form : Form) (data submitted vs : Fields),
    form.submit data submitted = .ok vs → ∀ p ∈ vs, p.2.IsPortable := by
  intro h
  have hinf : (Value.text "inf").numberGiven? = some (1 / 0) := by decide +kernel
  have hfield : Submission.fieldValue [] [("f", .text "inf")]
      { id := "f", label := "The Field", type := .number } = .ok (.float (1 / 0)) :=
    Submission.fieldValue_of_given rfl hinf (by decide +kernel)
  have hmem := h { fields := [{ id := "f", label := "The Field", type := .number }] } []
    [("f", .text "inf")] [("f", .float (1 / 0))]
    (by rw [submit, Submission.collect, if_neg (by decide), hfield]; rfl)
    ("f", .float (1 / 0)) (List.mem_singleton.mpr rfl)
  cases hmem with
  | float hfinite => exact absurd hfinite (by decide +kernel)

end CaseFlow
