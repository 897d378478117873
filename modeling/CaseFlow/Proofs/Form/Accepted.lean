import CaseFlow.Proofs.Error.Kind
import CaseFlow.Proofs.Form.Submitted
import CaseFlow.Proofs.Form.Suitable

/-!
# When a form accepts a submission

A form asks the fields that are not readonly (`Form.asked`), and accepts a submission exactly if
each of them accepts its value: the value can be coerced to the type of the field, and it counts as
given if the field is required (`Submission.Accepts`). What the form returns then is named by the
ids of these fields, in form order, and each value suits the type of its field; otherwise the first
field in form order that does not accept its value is the one that the error names
(`Form.submit_exact`).

A single field is looked at first: it takes its value, or it refuses it with an error about itself
(`Submission.isAbout_of_fieldValue`). Collecting goes through the fields in order and stops at the
first refusal (`Submission.collect_eq_error`).
-/

namespace CaseFlow

variable {data submitted vs : Fields} {f : FormField} {v : Value} {e : Error}

/-- An error in the answer to a field. -/
def Error.IsAbout (e : Error) (id : String) : Prop := ∃ message, e.report = answerReport message id

/-- The error about a field is an error of invalid input. -/
theorem Error.IsAbout.kind {id : String} (h : e.IsAbout id) : e.kind = .validation := by
  obtain ⟨message, h⟩ := h
  rw [Error.kind, h, kind_answerReport]

/-- The context of an error in an answer is the id of the field, and nothing else. -/
theorem Error.IsAbout.context {id : String} (h : e.IsAbout id) :
    e.report.context = [("field_id", .text id)] := by
  obtain ⟨message, h⟩ := h
  rw [h]
  rfl

/-! ## What an answer is refused for -/

namespace Answer

/-- A number field refuses an answer in one way only. -/
private theorem coerceNumber_eq_error (h : coerceNumber f v = .error e) :
    e = .answerNotNumber f.label f.id := by
  unfold coerceNumber at h
  split at h
  · cases h
  · split at h
    · exact (Except.error.inj h).symm
    · cases h
    · cases h
    · -- What is left is a text, which may read as a number.
      dsimp only at h
      split at h
      · cases h
      · cases h
      · exact (Except.error.inj h).symm

private theorem coerceDate_eq_error (h : coerceDate f v = .error e) :
    e = .answerNotDate f.label f.id := by
  unfold coerceDate at h
  split at h
  · cases h
  · split at h
    · cases h
    · cases h
    · split at h
      · cases h
      · exact (Except.error.inj h).symm

private theorem coerceSelect_eq_error (h : coerceSelect f v = .error e) :
    e = .answerNotOption f.label (f.options.getD []) f.id := by
  unfold coerceSelect at h
  split at h
  · cases h
  · dsimp only at h
    split at h
    · exact (Except.error.inj h).symm
    · cases h

private theorem coerceCheckbox_eq_error (h : coerceCheckbox f v = .error e) :
    e = .answerNotBoolean f.label f.id := by
  unfold coerceCheckbox at h
  split at h
  · cases h
  · cases h
  · cases h
  · dsimp only at h
    split at h
    · cases h
    · split at h
      · cases h
      · exact (Except.error.inj h).symm
  · exact (Except.error.inj h).symm

/-- An answer is refused with an error about its field. -/
private theorem isAbout_of_coerce (h : coerce f v = .error e) : e.IsAbout f.id := by
  unfold coerce at h
  split at h
  · cases h
  · cases h
  · exact ⟨_, congrArg Error.report (coerceNumber_eq_error h)⟩
  · exact ⟨_, congrArg Error.report (coerceDate_eq_error h)⟩
  · exact ⟨_, congrArg Error.report (coerceSelect_eq_error h)⟩
  · exact ⟨_, congrArg Error.report (coerceCheckbox_eq_error h)⟩
  · cases h

end Answer

namespace Submission

/-- A field accepts its value: the value can be coerced to the type of the field, and it counts as
given if the field is required. -/
def Accepts (data submitted : Fields) (f : FormField) : Prop :=
  ∃ v, Answer.coerce f (raw data submitted f) = .ok v ∧ (f.required = true → v.truthy = true)

/-- An answer is taken with the value that it is coerced to, unless the field is required and the
value is empty. -/
theorem fieldValue_eq_ok : fieldValue data submitted f = .ok v ↔
    Answer.coerce f (raw data submitted f) = .ok v ∧ (f.required = true → v.truthy = true) := by
  unfold fieldValue
  cases Answer.coerce f (raw data submitted f) with
  | error e => simp
  | ok w =>
    dsimp only
    -- A required field is looked at after the coercion, so a value that is coerced away counts as
    -- missing.
    by_cases hmissing : (f.required && !w.truthy) = true
    · rw [if_pos hmissing]
      rw [Bool.and_eq_true, Bool.not_eq_true'] at hmissing
      simp only [reduceCtorEq, Except.ok.injEq, false_iff, not_and, not_forall]
      rintro rfl
      exact ⟨hmissing.1, by simp [hmissing.2]⟩
    · rw [if_neg hmissing]
      simp only [Except.ok.injEq, iff_self_and]
      rintro rfl hrequired
      simpa [hrequired] using hmissing

/-- A field accepts what is submitted exactly if it yields a value. -/
theorem accepts_iff : Accepts data submitted f ↔ ∃ v, fieldValue data submitted f = .ok v := by
  simp only [Accepts, fieldValue_eq_ok]

theorem not_accepts_of_error (h : fieldValue data submitted f = .error e) :
    ¬ Accepts data submitted f := by
  rw [accepts_iff, h]
  simp

instance : Decidable (Accepts data submitted f) :=
  decidable_of_iff ((fieldValue data submitted f).isOk = true) <| by
    rw [accepts_iff, isOk_eq_true]

/-- A field refuses an answer with an error about itself. -/
theorem isAbout_of_fieldValue (h : fieldValue data submitted f = .error e) : e.IsAbout f.id := by
  unfold fieldValue at h
  split at h
  · next hcoerce =>
    obtain rfl := Except.error.inj h
    exact Answer.isAbout_of_coerce hcoerce
  · split at h
    · obtain rfl := Except.error.inj h
      exact ⟨_, rfl⟩
    · cases h

/-- Collecting stops at the first field that does not accept its value, with its error. -/
theorem collect_eq_error {acc : Fields} {fs : List FormField}
    (h : collect data submitted acc fs = .error e) : ∃ before f after,
      fs.filter (!·.isReadonly) = before ++ f :: after ∧
        (∀ g ∈ before, Accepts data submitted g) ∧ fieldValue data submitted f = .error e := by
  -- The induction is on the fields that are left; what was collected before makes no difference.
  induction fs generalizing acc with
  | nil => cases h
  | cons f rest ih =>
    rw [collect] at h
    by_cases hreadonly : f.isReadonly = true
    · rw [if_pos hreadonly] at h
      simpa [hreadonly] using ih h
    · rw [if_neg hreadonly] at h
      rw [List.filter_cons_of_pos (by simpa using hreadonly)]
      cases hvalue : fieldValue data submitted f with
      | error e' =>
        rw [hvalue] at h
        obtain rfl := Except.error.inj h
        -- The first field that is asked is refused, so that no others come before it.
        exact ⟨[], f, _, rfl, by simp, hvalue⟩
      | ok v =>
        rw [hvalue] at h
        obtain ⟨before, g, after, hsplit, hbefore, herror⟩ := ih h
        refine ⟨f :: before, g, after, by rw [hsplit, List.cons_append], ?_, herror⟩
        exact List.forall_mem_cons.mpr ⟨accepts_iff.mpr ⟨v, hvalue⟩, hbefore⟩

/-- A form refuses a submission only as one that is not valid. -/
theorem kind_of_collect {acc : Fields} {fs : List FormField}
    (h : collect data submitted acc fs = .error e) : e.kind = .validation := by
  obtain ⟨-, f, -, -, -, herror⟩ := collect_eq_error h
  exact (isAbout_of_fieldValue herror).kind

end Submission

namespace Form

variable {form : Form}

/-- The fields that a form asks: those that are not readonly. -/
def asked (form : Form) : List FormField := form.fields.filter (!·.isReadonly)

/-- The fields that are asked are those that are not shown read-only. -/
theorem mem_asked : f ∈ form.asked ↔ f ∈ form.fields ∧ f.isReadonly = false := by
  simp [asked]

/-- The values that a form returns are those of the fields that it asks, merged in form order. -/
theorem submit_eq_ok : form.submit data submitted = .ok vs ↔
    ∃ ps, List.Forall₂ (fun f p => p.1 = f.id ∧ Submission.fieldValue data submitted f = .ok p.2)
      form.asked ps ∧ Fields.merge [] ps = vs :=
  Submission.collect_eq_ok

/-- Every value that a form returns was returned by one of its fields, under its id. -/
theorem exists_of_mem_submit (h : form.submit data submitted = .ok vs) {p : String × Value}
    (hp : p ∈ vs) : ∃ f ∈ form.fields, f.isReadonly = false ∧ p.1 = f.id ∧
      Submission.fieldValue data submitted f = .ok p.2 := by
  obtain ⟨ps, hps, rfl⟩ := submit_eq_ok.mp h
  obtain hnone | hp := Fields.mem_merge hp
  · cases hnone
  · obtain ⟨f, hf, hid, hvalue⟩ := exists_of_forall₂ hps.flip hp
    obtain ⟨hmem, hasked⟩ := mem_asked.mp hf
    exact ⟨f, hmem, hasked, hid, hvalue⟩

/-- Every field that is asked accepted its answer, where the form was taken. -/
theorem accepts_of_submit (h : form.submit data submitted = .ok vs) (hf : f ∈ form.asked) :
    Submission.Accepts data submitted f := by
  obtain ⟨ps, hps, -⟩ := submit_eq_ok.mp h
  obtain ⟨p, -, -, hvalue⟩ := exists_of_forall₂ hps hf
  exact Submission.accepts_iff.mpr ⟨p.2, hvalue⟩

/-- The names of the values that a form returns are the ids of the fields that it asks, in form
order and each of them once. -/
theorem names_of_submit (h : form.submit data submitted = .ok vs) :
    vs.names = (form.asked.map (·.id)).eraseDups := by
  obtain ⟨ps, hps, rfl⟩ := submit_eq_ok.mp h
  rw [Fields.names_merge_nil, Submission.names_of_forall₂ hps]

/-- A submission that is taken has one value under each field id. -/
theorem nodup_of_submit (h : form.submit data submitted = .ok vs) : vs.names.Nodup := by
  obtain ⟨ps, -, rfl⟩ := submit_eq_ok.mp h
  exact Fields.nodup_names_merge List.nodup_nil

/-- Of the fields that share an id the last one gives the value. -/
private theorem get?_of_submit (h : form.submit data submitted = .ok vs)
    {before after : List FormField}
    (hsplit : form.asked = before ++ f :: after) (hlast : f.id ∉ after.map (·.id)) :
    ∃ v, vs.get? f.id = some v ∧ Submission.fieldValue data submitted f = .ok v := by
  obtain ⟨ps, hps, rfl⟩ := submit_eq_ok.mp h
  rw [hsplit] at hps
  clear h hsplit
  -- The list of values is split where that of the fields is.
  obtain ⟨ps₁, p, ps₂, rfl, hp, hps₂⟩ := exists_split_of_forall₂ hps
  have hafter : Fields.get? ps₂.reverse f.id = none := by
    have hreverse : Fields.names ps₂.reverse = (Fields.names ps₂).reverse := List.map_reverse
    rw [Fields.get?_eq_none_iff, hreverse, List.mem_reverse, Submission.names_of_forall₂ hps₂]
    exact hlast
  refine ⟨p.2, ?_, hp.2⟩
  rw [Fields.get?_merge_reverse]
  simp [Fields.get?_append, Fields.get?_cons, hafter, hp.1]

/-- A form accepts a submission exactly if every field that it asks accepts its value. The values
that it then returns are named by the ids of these fields, in form order, and each is the coerced
value of the last field of its id, which suits the type of that field. Otherwise the error is about
the first field in form order that does not accept its value. -/
theorem submit_exact (form : Form) (data submitted : Fields) :
    ((∃ vs, form.submit data submitted = .ok vs) ↔
      ∀ f ∈ form.asked, Submission.Accepts data submitted f) ∧
    (∀ vs, form.submit data submitted = .ok vs →
      vs.names = (form.asked.map (·.id)).eraseDups ∧
      ∀ before f after, form.asked = before ++ f :: after → f.id ∉ after.map (·.id) →
        ∃ v, vs.get? f.id = some v ∧
          Answer.coerce f (Submission.raw data submitted f) = .ok v ∧
          v.Suits (f.options.getD []) f.type) ∧
    (∀ e, form.submit data submitted = .error e →
      ∃ before f after, form.asked = before ++ f :: after ∧
        (∀ g ∈ before, Submission.Accepts data submitted g) ∧
        ¬ Submission.Accepts data submitted f ∧
        e.kind = .validation ∧ e.report.context = [("field_id", .text f.id)]) := by
  -- All three parts rest on this: a refusal is that of one field, and all before it were accepted.
  have hfailure : ∀ e, form.submit data submitted = .error e →
      ∃ before f after, form.asked = before ++ f :: after ∧
        (∀ g ∈ before, Submission.Accepts data submitted g) ∧
        Submission.fieldValue data submitted f = .error e :=
    fun e h => Submission.collect_eq_error h
  refine ⟨⟨?_, fun haccepts => ?_⟩, fun vs h => ⟨names_of_submit h, ?_⟩, fun e h => ?_⟩
  · rintro ⟨vs, h⟩ f hf
    exact accepts_of_submit h hf
  · -- A refusal would name a field that does not accept its value, and there is none.
    cases h : form.submit data submitted with
    | ok vs => exact ⟨vs, rfl⟩
    | error e =>
      obtain ⟨before, f, after, hsplit, -, herror⟩ := hfailure e h
      exact absurd (haccepts f (by simp [hsplit])) (Submission.not_accepts_of_error herror)
  · intro before f after hsplit hlast
    obtain ⟨v, hv, hvalue⟩ := get?_of_submit h hsplit hlast
    have hcoerce := (Submission.fieldValue_eq_ok.mp hvalue).1
    have hf : f ∈ form.asked := by simp [hsplit]
    exact ⟨v, hv, hcoerce, Answer.suits_of_coerce (mem_asked.mp hf).2 hcoerce⟩
  · obtain ⟨before, f, after, hsplit, hbefore, herror⟩ := hfailure e h
    have habout := Submission.isAbout_of_fieldValue herror
    exact ⟨before, f, after, hsplit, hbefore, Submission.not_accepts_of_error herror, habout.kind,
      habout.context⟩

end Form

namespace Sample

/-- A form with a field of every type, two of which have to be filled in. -/
def booking : Form where
  fields :=
    [{ id := "guest", label := "Guest", required := true },
      { id := "nights", label := "Nights", type := .number, required := true },
      { id := "arrival", label := "Arrival", type := .date },
      { id := "room", label := "Room", type := .select, options := some ["single", "double"] },
      { id := "breakfast", label := "Breakfast", type := .checkbox },
      { id := "wishes", label := "Wishes", type := .textarea },
      { id := "contact", label := "Contact", type := .readonly, source := some "guest" }]

/-- What is recorded before the booking. -/
def booked : Fields := [("arrival", .text "20240301"), ("room", .text "single")]

/-- What is submitted for the booking. -/
def bookingGiven : Fields :=
  [("guest", .text "Ada"), ("nights", .text " 3 "), ("breakfast", .text "Yes")]

end Sample

/-- The booking is accepted with the arrival and the room of before. Without anything submitted it
is refused, for want of the guest and of the nights. -/
theorem Form.submit_exact_sample :
    (∃ vs, Sample.booking.submit Sample.booked Sample.bookingGiven = .ok vs ∧
      vs.names = ["guest", "nights", "arrival", "room", "breakfast", "wishes"]) ∧
    ∃ e, Sample.booking.submit Sample.booked [] = .error e ∧
      ∃ before f after, Sample.booking.asked = before ++ f :: after ∧
        (∀ g ∈ before, Submission.Accepts Sample.booked [] g) ∧
        ¬ Submission.Accepts Sample.booked [] f ∧
        e.kind = .validation ∧ e.report.context = [("field_id", .text f.id)] := by
  obtain ⟨haccepted, hreturned, -⟩ :=
    submit_exact Sample.booking Sample.booked Sample.bookingGiven
  obtain ⟨hrefused, -, hreported⟩ := submit_exact Sample.booking Sample.booked []
  constructor
  · obtain ⟨vs, hvs⟩ := haccepted.mpr (by decide +kernel)
    refine ⟨vs, hvs, (hreturned vs hvs).1.trans ?_⟩
    decide +kernel
  · -- That the refusal comes can be decided; which error it is need not be computed.
    cases h : Sample.booking.submit Sample.booked [] with
    | ok vs => exact absurd (hrefused.mp ⟨vs, h⟩) (by decide +kernel)
    | error e => exact ⟨e, rfl, hreported e h⟩

end CaseFlow
