import CaseFlow.Proofs.Form.Accepted

/-!
# Values that were recorded before

The values that a form returns are recorded, and come back to the form as recorded data. Where
fields that share an id share their type too, the form then returns the same values again without
anything submitted, and shows each of them for what it is (`Form.submit_fixed`). Within a document
that is always so, since no two of its fields share an id.

Each value suits the type of the field that recorded it, so every field of that id and type takes it
for what it is. Two fields of one id and different types take turns instead: the value of the last
one is recorded, and the first one may refuse it (`Form.submit_not_fixed`).
-/

namespace CaseFlow

variable {data submitted vs : Fields} {form : Form} {f g : FormField} {v : Value}

namespace Submission

/-- What is collected depends on the values of the fields alone. -/
theorem collect_congr {data' submitted' acc : Fields} {fs : List FormField}
    (h : ∀ f ∈ fs.filter (!·.isReadonly),
      fieldValue data submitted f = fieldValue data' submitted' f) :
    collect data submitted acc fs = collect data' submitted' acc fs := by
  induction fs generalizing acc with
  | nil => rfl
  | cons f rest ih =>
    rw [collect, collect]
    -- A field that is shown read-only is passed over, whatever is submitted for it.
    by_cases hreadonly : f.isReadonly = true
    · rw [if_pos hreadonly, if_pos hreadonly]
      exact ih (by simpa [hreadonly] using h)
    · rw [List.filter_cons_of_pos (by simpa using hreadonly), List.forall_mem_cons] at h
      rw [if_neg hreadonly, if_neg hreadonly, h.1]
      cases fieldValue data' submitted' f with
      | error e => rfl
      | ok v => exact ih h.2

end Submission

namespace FormField

/-- A date is displayed in its written form, so that the text is the same for what is held and what
is shown. -/
private theorem display_of_shownAs {t : FieldType} (hf : f.isReadonly = false)
    (h : v.ShownAs t (f.decoded data)) :
    (f.render data).display = if v.isEmpty then "" else v.shown := by
  simp only [render, hf, Bool.false_eq_true, ↓reduceIte]
  generalize f.decoded data = shown at h ⊢
  cases h with
  | date d => simp [Value.isEmpty, Value.shown]
  | same h => rfl

end FormField

namespace Form

/-- The fields that a form asks and that share an id share their type. So it is wherever ids are
distinct, as they are within a document. -/
def SharesTypes (form : Form) : Prop :=
  ∀ f ∈ form.asked, ∀ g ∈ form.asked, f.id = g.id → f.type = g.type

instance : Decidable form.SharesTypes :=
  inferInstanceAs (Decidable (∀ f ∈ form.asked, ∀ g ∈ form.asked, f.id = g.id → f.type = g.type))

/-- Fields with distinct ids share no id, and so every type. -/
private theorem sharesTypes_of_nodup (h : (form.fields.map (·.id)).Nodup) : form.SharesTypes := by
  intro f hf g hg hid
  rw [List.inj_on_of_nodup_map h (mem_asked.mp hf).1 (mem_asked.mp hg).1 hid]

/-- Every field that a form asks finds under its id the value that it recorded, also where another
field recorded it after. -/
private theorem get?_of_sharesTypes (hshares : form.SharesTypes)
    (h : form.submit data submitted = .ok vs) (hf : f ∈ form.asked) :
    ∃ v, vs.get? f.id = some v ∧ Submission.fieldValue data submitted f = .ok v := by
  have hname : f.id ∈ vs.names := by
    rw [names_of_submit h, List.mem_eraseDups]
    exact List.mem_map_of_mem hf
  obtain ⟨w, hw⟩ := Fields.exists_get? hname
  obtain ⟨g, hg, hreadonly, hid, hgiven⟩ := exists_of_mem_submit h (Fields.mem_of_get? hw)
  obtain ⟨v, hvalue⟩ := Submission.accepts_iff.mp (accepts_of_submit h hf)
  -- Both fields were given the same, and being of one type they made the same of it.
  have htype : f.type = g.type := hshares f hf g (mem_asked.mpr ⟨hg, hreadonly⟩) hid
  have hraw : Submission.raw data submitted f = Submission.raw data submitted g := by
    simp only [Submission.raw, ← hid, htype]
  have hcoerce := (Submission.fieldValue_eq_ok.mp hvalue).1
  rw [hraw] at hcoerce
  have hsame : v = w :=
    Answer.coerce_unique htype hcoerce (Submission.fieldValue_eq_ok.mp hgiven).1
  exact ⟨w, hw, hsame ▸ hvalue⟩

/-- Where fields that share an id share their type, the values that a form returned are returned
again when they are recorded and nothing is submitted, and every field that is not readonly is shown
with the value under its id. -/
theorem submit_fixed (hshares : form.SharesTypes) (h : form.submit data submitted = .ok vs) :
    form.submit (data.merge vs) [] = .ok vs ∧
    ∀ r ∈ form.render (data.merge vs), r.field.isReadonly = false →
      ∃ v, vs.get? r.field.id = some v ∧ v.ShownAs r.field.type r.value ∧
        r.display = if v.isEmpty then "" else v.shown := by
  have hnames : vs.names.Nodup := nodup_of_submit h
  -- What was returned under the id of a field is what is recorded for it, and it suits its type.
  have hrecorded : ∀ f ∈ form.asked, ∃ v, vs.get? f.id = some v ∧
      Submission.fieldValue data submitted f = .ok v ∧ (data.merge vs).get? f.id = some v ∧
      v.Suits (f.options.getD []) f.type := by
    intro f hf
    obtain ⟨v, hv, hvalue⟩ := get?_of_sharesTypes hshares h hf
    refine ⟨v, hv, hvalue, ?_, ?_⟩
    · rw [Fields.get?_merge hnames, hv]
      rfl
    · exact Answer.suits_of_coerce (mem_asked.mp hf).2 (Submission.fieldValue_eq_ok.mp hvalue).1
  constructor
  · rw [← h]
    refine Submission.collect_congr fun f hf => ?_
    obtain ⟨v, -, hvalue, hdata, hsuits⟩ := hrecorded f hf
    -- Nothing is submitted now, so that what counts is what was recorded.
    have hraw : Submission.raw (data.merge vs) [] f = v := by
      rw [Submission.raw, Fields.get?_nil, hdata]
      rfl
    rw [hvalue, Submission.fieldValue_eq_ok, hraw]
    exact ⟨Answer.coerce_of_suits hsuits, (Submission.fieldValue_eq_ok.mp hvalue).2⟩
  · intro r hr hreadonly
    obtain ⟨f, hf, rfl⟩ := List.mem_map.mp hr
    replace hreadonly : f.isReadonly = false := hreadonly
    obtain ⟨v, hv, -, hdata, hsuits⟩ := hrecorded f (mem_asked.mpr ⟨hf, hreadonly⟩)
    have hshown : v.ShownAs f.type (f.decoded (data.merge vs)) := by
      rw [FormField.decoded_of_get? hreadonly hdata]
      exact Answer.decode_of_suits hsuits
    exact ⟨v, hv, hshown, FormField.display_of_shownAs hreadonly hshown⟩

end Form

namespace Sample

/-- A number and a truth value under one id. -/
def twofold : Form where
  fields :=
    [{ id := "f", label := "Count", type := .number },
      { id := "f", label := "Flag", type := .checkbox }]

end Sample

/-- The booking is filled in, and what was filled in stays as it is. -/
theorem Form.submit_fixed_sample : ∃ vs,
    Sample.booking.submit Sample.booked Sample.bookingGiven = .ok vs ∧
      Sample.booking.SharesTypes ∧
      Sample.booking.submit (Sample.booked.merge vs) [] = .ok vs ∧
      ∀ r ∈ Sample.booking.render (Sample.booked.merge vs), r.field.isReadonly = false →
        ∃ v, vs.get? r.field.id = some v ∧ v.ShownAs r.field.type r.value ∧
          r.display = if v.isEmpty then "" else v.shown := by
  -- That the submission is taken is decided, without the values that it is taken with.
  obtain ⟨vs, h⟩ : ∃ vs, Sample.booking.submit Sample.booked Sample.bookingGiven = .ok vs :=
    isOk_eq_true.mp (by decide +kernel)
  have hshares : Sample.booking.SharesTypes := sharesTypes_of_nodup (by decide +kernel)
  exact ⟨vs, h, hshares, submit_fixed hshares h⟩

/-- A number and a truth value under one id are both given as `1`. What is returned is the truth
value, and that is no number. -/
theorem Form.submit_not_fixed : ¬ ∀ (form : Form) (data submitted vs : Fields),
    form.submit data submitted = .ok vs → form.submit (data.merge vs) [] = .ok vs := by
  intro h
  have hgiven : Sample.twofold.submit [] [("f", .text "1")] = .ok [("f", .bool true)] := by
    rfl
  cases h _ _ _ _ hgiven

end CaseFlow
