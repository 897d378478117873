import CaseFlow.Form.Rendering
import CaseFlow.Proofs.Calendar.Dates

/-!
# Values of a field type

What a field of each type may hold is said once, without regard to how it is submitted
(`Value.Suits`): any text, a number, the written form of a date or one of the options, or nothing at
all where a field may be left empty. Coercion and decoding are then described by it:

* `Answer.suits_of_coerce`: whatever is submitted, coercion yields such values only;
* `Answer.coerce_of_suits`: coercion takes each of them for what it is, so that they are its fixed
  points;
* `Answer.decode_of_suits`: a field shows each of them for what it is, which for the written form of
  a date is the date (`Value.ShownAs`).

So all that a form does with its own answers is argued by cases on `Value.Suits`.
-/

namespace CaseFlow

open CaseFlow.Text Decimal

/-- A value that a field may hold: any text; a number, a date in its written form or one of the
options, or the empty text in their place; or a truth value. Where there are no options, any text
counts as one. -/
inductive Value.Suits (options : List String) : FieldType → Value → Prop where
  | text (s : String) : Suits options .text (.text s)
  | textarea (s : String) : Suits options .textarea (.text s)
  | noNumber : Suits options .number (.text "")
  | int (n : Int) : Suits options .number (.int n)
  | float (x : Float) : Suits options .number (.float x)
  | noDate : Suits options .date (.text "")
  | date (d : Date) : Suits options .date (.text d.text)
  | noOption : Suits options .select (.text "")
  | option {s : String} (h : options = [] ∨ s ∈ options) : Suits options .select (.text s)
  | checkbox (b : Bool) : Suits options .checkbox (.bool b)

/-- What a field shows for a value that it holds: the date for its written form in a date field, and
otherwise the value itself. -/
inductive Value.ShownAs : FieldType → Value → Value → Prop where
  | date (d : Date) : ShownAs .date (.text d.text) (.date d)
  | same {t : FieldType} {v : Value} (h : t ≠ .date ∨ v = .text "") : ShownAs t v v

namespace Answer

variable {f g : FormField} {v w w' : Value} {options : List String}

/-! ## What coercion yields -/

/-- What is coerced to a text suits both kinds of text field. -/
theorem suits_of_coerceText (v : Value) :
    (coerceText v).Suits options .text ∧ (coerceText v).Suits options .textarea := by
  unfold coerceText
  split <;> exact ⟨.text _, .textarea _⟩

/-- What is coerced to a number suits a number field. -/
theorem suits_of_coerceNumber (h : coerceNumber f v = .ok w) : w.Suits options .number := by
  unfold coerceNumber at h
  split at h
  · cases h
    exact .noNumber
  · split at h
    · cases h
    · cases h
      exact .int _
    · cases h
      exact .float _
    · -- What is left is a text, which reads as a whole number or as a binary one.
      dsimp only at h
      split at h
      · cases h
        exact .int _
      · cases h
        exact .float _
      · cases h

private theorem suits_of_coerceDate (h : coerceDate f v = .ok w) : w.Suits options .date := by
  unfold coerceDate at h
  split at h
  · cases h
    exact .noDate
  · split at h
    · cases h
      exact .date _
    · cases h
      exact .date _
    · split at h
      · cases h
        exact .date _
      · cases h

private theorem suits_of_coerceSelect (h : coerceSelect f v = .ok w) :
    w.Suits (f.options.getD []) .select := by
  unfold coerceSelect at h
  split at h
  · cases h
    exact .noOption
  · dsimp only at h
    split at h
    · cases h
    · next hoption =>
      cases h
      refine .option ?_
      simpa [or_iff_not_imp_left] using hoption

private theorem suits_of_coerceCheckbox (h : coerceCheckbox f v = .ok w) :
    w.Suits options .checkbox := by
  unfold coerceCheckbox at h
  split at h
  · cases h
    exact .checkbox _
  · cases h
    exact .checkbox _
  · cases h
    exact .checkbox _
  · dsimp only at h
    split at h
    · cases h
      exact .checkbox _
    · split at h
      · cases h
        exact .checkbox _
      · cases h
  · cases h

/-- What a field records suits its type, whatever is submitted. -/
theorem suits_of_coerce (hf : f.isReadonly = false) (h : coerce f v = .ok w) :
    w.Suits (f.options.getD []) f.type := by
  unfold coerce at h
  -- Text fields never refuse; of the others each has a coercion of its own.
  split at h
  · next htype =>
    cases h
    rw [htype]
    exact (suits_of_coerceText v).1
  · next htype =>
    cases h
    rw [htype]
    exact (suits_of_coerceText v).2
  · next htype => exact htype ▸ suits_of_coerceNumber h
  · next htype => exact htype ▸ suits_of_coerceDate h
  · next htype => exact htype ▸ suits_of_coerceSelect h
  · next htype => exact htype ▸ suits_of_coerceCheckbox h
  · next htype => simp [FormField.isReadonly, htype] at hf

/-! ## What becomes of a value that suits -/

/-- The text of a date is coerced to itself. -/
private theorem coerceDate_text (d : Date) : coerceDate f (.text d.text) = .ok (.text d.text) := by
  simp [coerceDate, Value.isEmpty, Value.shown, Date.parse?_text]

private theorem coerceSelect_of_mem {s : String}
    (h : f.options.getD [] = [] ∨ s ∈ f.options.getD []) :
    coerceSelect f (.text s) = .ok (.text s) := by
  unfold coerceSelect
  by_cases hempty : s.isEmpty = true
  · rw [String.isEmpty_iff.mp hempty]
    rfl
  · rcases h with h | h
    · simp [Value.isEmpty, Value.shown, hempty, h]
    · simp [Value.isEmpty, Value.shown, hempty, h]

/-- A value that suits the type of a field is recorded as it is. -/
theorem coerce_of_suits (h : w.Suits (f.options.getD []) f.type) : coerce f w = .ok w := by
  unfold coerce
  -- The type of the field is that of the value, so that the values of each type can be gone
  -- through.
  generalize f.type = t at h ⊢
  cases h with
  | text s => rfl
  | textarea s => rfl
  | noNumber => rfl
  | int n => rfl
  | float x => rfl
  | noDate => rfl
  | date d => exact coerceDate_text d
  | noOption => rfl
  | option h => exact coerceSelect_of_mem h
  | checkbox b => rfl

/-- The text of a date is decoded to the date. -/
theorem decodeDate_text (d : Date) : decodeDate (.text d.text) = .date d := by
  simp [decodeDate, Value.isEmpty, Value.shown, Date.parse?_text]

/-- A value that suits a type is shown for what it is. -/
theorem decode_of_suits {t : FieldType} (h : w.Suits options t) : w.ShownAs t (decode t w) := by
  -- Only dates are shown for what they say; everything else is shown as it is recorded.
  cases h with
  | date d =>
    rw [decode, decodeDate_text]
    exact .date d
  | noDate => exact .same (.inr rfl)
  | text s => exact .same (.inl nofun)
  | textarea s => exact .same (.inl nofun)
  | noNumber => exact .same (.inl nofun)
  | int n => exact .same (.inl nofun)
  | float x => exact .same (.inl nofun)
  | noOption => exact .same (.inl nofun)
  | option h => exact .same (.inl nofun)
  | checkbox b => exact .same (.inl nofun)

/-- No value is shown as the initial one. -/
private theorem decode_null {t : FieldType} (ht : t ≠ .readonly) : decode t .null = initial t := by
  cases t with
  | readonly => exact absurd rfl ht
  | _ => rfl

/-! ## One answer for two fields of a type -/

/-- What a number is coerced to does not depend on the field. -/
private theorem coerceNumber_unique (hf : coerceNumber f v = .ok w)
    (hg : coerceNumber g v = .ok w') :
    w = w' := by
  unfold coerceNumber at hf hg
  grind

private theorem coerceDate_unique (hf : coerceDate f v = .ok w) (hg : coerceDate g v = .ok w') :
    w = w' := by
  unfold coerceDate at hf hg
  grind

private theorem coerceSelect_unique (hf : coerceSelect f v = .ok w)
    (hg : coerceSelect g v = .ok w') :
    w = w' := by
  unfold coerceSelect at hf hg
  grind

private theorem coerceCheckbox_unique (hf : coerceCheckbox f v = .ok w)
    (hg : coerceCheckbox g v = .ok w') : w = w' := by
  unfold coerceCheckbox at hf hg
  grind

/-- Two fields of one type that both take a value record the same for it, whatever their labels and
options. -/
theorem coerce_unique (htype : f.type = g.type) (hf : coerce f v = .ok w)
    (hg : coerce g v = .ok w') : w = w' := by
  unfold coerce at hf hg
  rw [← htype] at hg
  generalize f.type = t at hf hg
  cases t with
  | number => exact coerceNumber_unique hf hg
  | date => exact coerceDate_unique hf hg
  | select => exact coerceSelect_unique hf hg
  | checkbox => exact coerceCheckbox_unique hf hg
  | _ => exact Except.ok.inj (hf.symm.trans hg)

end Answer

/-- A field shows what is recorded under its id. -/
theorem FormField.decoded_of_get? {f : FormField} {data : Fields} {v : Value}
    (hf : f.isReadonly = false) (h : data.get? f.id = some v) :
    f.decoded data = Answer.decode f.type v := by
  have htype : f.type ≠ .readonly := by simpa [isReadonly] using hf
  rw [decoded, hf, h]
  cases v with
  | null => exact (Answer.decode_null htype).symm
  | _ => rfl

end CaseFlow
