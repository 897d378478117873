import CaseFlow.Proofs.Form.Suitable
import CaseFlow.Proofs.Value.Shown

/-!
# Decoding what coercion accepts

Recorded values are decoded leniently: what cannot be read as the type of the field is shown as it
is. Submitted values are coerced, and refused if that is impossible. What coercion accepts is
decoded as what it yields, so that a value looks the same before and after it is submitted again,
with two exceptions (`Answer.Unread`): coercion trims a text before it reads a number or a date,
while decoding reads the text as it stands. These texts are shown as they are
(`FormField.decoded_coerced`).

The exceptions are exact. White space around a number is passed over by decoding, too, so that only
information separators matter there; around a date any blank does. A padded date shows that they
occur (`FormField.decoded_differs`).
-/

namespace CaseFlow

open CaseFlow.Text Decimal

variable {data data' : Fields} {f : FormField} {v w : Value}

namespace Answer

/-- A text that coercion may read as a number or as a date, and decoding does not. Around a number
white space makes no difference, but an information separator does; around a date any blank may. -/
def Unread : FieldType → Value → Prop
  | .number, .text s => trimList isSpace s.toList ≠ trimList isBlank s.toList
  | .date, .text s => trim s ≠ s ∧ Date.parse? s = none
  | _, _ => False

instance (t : FieldType) (v : Value) : Decidable (Unread t v) := by
  unfold Unread
  split <;> infer_instance

/-! ## Numbers -/

/-- What is shown for other values than texts, truth values and numbers is no number. -/
private theorem coerceNumber_ne_ok (hv : v.isEmpty = false) (htext : ∀ s, v ≠ .text s)
    (hbool : ∀ b, v ≠ .bool b) (hint : ∀ n, v ≠ .int n) (hfloat : ∀ x, v ≠ .float x) :
    coerceNumber f v ≠ .ok w := by
  obtain ⟨hnoInt, hnoFloat⟩ := Value.unread_shown hv htext hbool hint hfloat
  unfold coerceNumber
  rw [if_neg (by simp [hv])]
  split
  · next b => exact absurd rfl (hbool b)
  · next n => exact absurd rfl (hint n)
  · next x => exact absurd rfl (hfloat x)
  · simp only [hnoInt, hnoFloat]
    nofun

/-- A number that is read from a text is read from the submitted text alike, unless blanks stand
around it. -/
private theorem decodeNumber_padded {s : String} (hs : s.isEmpty = false)
    (h : coerceNumber f (.text s) = .ok w) :
    (decodeNumber (.text s) = w ↔ ¬ Unread .number (.text s)) ∧
      (Unread .number (.text s) → decodeNumber (.text s) = .text s) := by
  simp only [coerceNumber, Value.isEmpty, hs, Bool.false_eq_true, ↓reduceIte, Value.shown] at h
  simp only [decodeNumber, hs, Bool.false_eq_true, ↓reduceIte]
  by_cases hsame : trimList isSpace s.toList = trimList isBlank s.toList
  · -- Trimming removes white space only, which reading passes over.
    obtain ⟨hint, hfloat⟩ := read_trim hsame
    have hread : ¬ Unread .number (.text s) := fun hunread => hunread hsame
    rw [hint, hfloat] at h
    refine ⟨iff_of_true ?_ hread, fun hunread => absurd hunread hread⟩
    generalize readInt? s = n? at h ⊢
    generalize readFloat? s = x? at h ⊢
    cases n? <;> cases x? <;> simp_all
  · -- Trimming removes a separator, without which there is a number, while there is none with it.
    obtain ⟨hint, hfloat⟩ := unread_of_separator hsame
    rw [hint, hfloat]
    refine ⟨iff_of_false ?_ (not_not.mpr hsame), fun _ => rfl⟩
    rintro rfl
    split at h <;> cases h

/-- Where coercion yields a number, decoding finds the same number or keeps the text. -/
private theorem decodeNumber_coerced (h : coerceNumber f v = .ok w) :
    (decodeNumber v = w ↔ ¬ Unread .number v) ∧ (Unread .number v → decodeNumber v = v) := by
  cases v with
  | text s =>
    -- An empty text stands for no number and is shown as it is.
    by_cases hs : s.isEmpty = true
    · rw [String.isEmpty_iff] at hs
      subst hs
      cases h
      exact ⟨iff_of_true rfl fun hunread => hunread rfl, fun _ => rfl⟩
    · exact decodeNumber_padded (by simpa using hs) h
  | null =>
    cases h
    exact ⟨iff_of_true rfl not_false, False.elim⟩
  | bool b => cases h
  | int n =>
    cases h
    exact ⟨iff_of_true rfl not_false, False.elim⟩
  | float x =>
    cases h
    exact ⟨iff_of_true rfl not_false, False.elim⟩
  | _ => exact absurd h (coerceNumber_ne_ok rfl nofun nofun nofun nofun)

/-! ## Dates -/

/-- A date that is read from a text is read from the submitted text alike, unless blanks stand
around it. -/
private theorem decodeDate_padded {s : String} (hs : s.isEmpty = false)
    (h : coerceDate f (.text s) = .ok w) :
    (decodeDate (.text s) = decodeDate w ↔ ¬ Unread .date (.text s)) ∧
      (Unread .date (.text s) → decodeDate (.text s) = .text s) := by
  -- A text is coerced if it is a date between blanks.
  simp only [coerceDate, Value.isEmpty, hs, Bool.false_eq_true, ↓reduceIte, Value.shown] at h
  split at h
  · next d htrim =>
    cases h
    rw [decodeDate_text]
    simp only [decodeDate, Value.isEmpty, hs, Bool.false_eq_true, ↓reduceIte, Value.shown]
    cases hparse : Date.parse? s with
    | none =>
      -- A date is found without the blanks only, so there are some.
      have hpadded : trim s ≠ s := by
        intro hsame
        rw [hsame, hparse] at htrim
        cases htrim
      refine ⟨iff_of_false ?_ (not_not.mpr ⟨hpadded, hparse⟩), fun _ => rfl⟩
      intro hsame
      cases hsame
    | some d' =>
      have hread : ¬ Unread .date (.text s) := fun hunread => by
        rw [hunread.2] at hparse
        cases hparse
      obtain rfl := Date.eq_of_parse?_trim htrim hparse
      exact ⟨iff_of_true rfl hread, fun hunread => absurd hunread hread⟩
  · cases h

/-- Other values are shown without blanks around them, so that they are read alike. -/
private theorem decodeDate_shown (hv : v.isEmpty = false) (htext : ∀ s, v ≠ .text s)
    (htimestamp : ∀ t, v ≠ .timestamp t) (hdate : ∀ d, v ≠ .date d)
    (h : coerceDate f v = .ok w) : decodeDate v = decodeDate w := by
  unfold coerceDate at h
  rw [if_neg (by simp [hv])] at h
  split at h
  · next t => exact absurd rfl (htimestamp t)
  · next d => exact absurd rfl (hdate d)
  · -- Coercion trims what it shows, which makes no difference here.
    rw [Value.trim_shown htext htimestamp] at h
    split at h
    · next d hparse =>
      cases h
      rw [decodeDate_text]
      unfold decodeDate
      rw [if_neg (by simp [hv])]
      split
      · exact absurd rfl (htimestamp _)
      · exact absurd rfl (hdate _)
      · rw [hparse]
    · cases h

/-- Where coercion yields a date, decoding finds the same date or keeps the text. -/
private theorem decodeDate_coerced (h : coerceDate f v = .ok w) :
    (decodeDate v = decodeDate w ↔ ¬ Unread .date v) ∧ (Unread .date v → decodeDate v = v) := by
  cases v with
  | text s =>
    -- An empty text stands for no date and is shown as it is.
    by_cases hs : s.isEmpty = true
    · rw [String.isEmpty_iff] at hs
      subst hs
      cases h
      exact ⟨iff_of_true rfl fun hunread => hunread.1 rfl, fun _ => rfl⟩
    · exact decodeDate_padded (by simpa using hs) h
  | null =>
    cases h
    exact ⟨iff_of_true rfl not_false, False.elim⟩
  | date d =>
    cases h
    exact ⟨iff_of_true (decodeDate_text d).symm not_false, False.elim⟩
  | timestamp t =>
    cases h
    exact ⟨iff_of_true (decodeDate_text t.date).symm not_false, False.elim⟩
  | _ => exact ⟨iff_of_true (decodeDate_shown rfl nofun nofun nofun h) not_false, False.elim⟩

/-! ## The other types -/

/-- A text field reads what was submitted as it reads what was recorded. -/
theorem decodeText_coerced (v : Value) : decodeText v = decodeText (coerceText v) := by
  cases v <;> rfl

private theorem decodeSelect_coerced (h : coerceSelect f v = .ok w) :
    decodeText v = decodeText w := by
  unfold coerceSelect at h
  split at h
  · next hempty =>
    cases h
    -- Of all values two are empty: none at all, and the empty text.
    cases v with
    | null => rfl
    | text s =>
      obtain rfl := String.isEmpty_iff.mp hempty
      rfl
    | _ => cases hempty
  · dsimp only at h
    split at h
    · cases h
    · next hempty _ =>
      cases h
      cases v with
      | null => exact absurd rfl hempty
      | _ => rfl

private theorem decodeCheckbox_coerced (h : coerceCheckbox f v = .ok w) :
    decodeCheckbox v = decodeCheckbox w := by
  -- Truth values, whole numbers and nothing are coerced as they are decoded, so that texts remain.
  unfold coerceCheckbox at h
  split at h
  · cases h
    rfl
  · cases h
    rfl
  · cases h
    rfl
  · next s =>
    dsimp only at h
    -- A word for yes is decoded as yes, and every other one as no.
    split at h
    · next hword =>
      cases h
      rw [decodeCheckbox, hword]
      rfl
    · next hword =>
      split at h
      · cases h
        rw [Bool.not_eq_true] at hword
        rw [decodeCheckbox, hword]
        rfl
      · cases h
  · cases h

/-- What coercion accepts is decoded as what it yields, except for the texts that decoding leaves
unread, and these it keeps. -/
private theorem decode_coerced (hf : f.isReadonly = false) (h : coerce f v = .ok w) :
    (decode f.type v = decode f.type w ↔ ¬ Unread f.type v) ∧
      (Unread f.type v → decode f.type v = v) := by
  -- Texts, options and truth values are read alike whatever is submitted.
  have hread {t : FieldType} (hsame : decode t v = decode t w) (hnever : ¬ Unread t v) :
      (decode t v = decode t w ↔ ¬ Unread t v) ∧ (Unread t v → decode t v = v) :=
    ⟨iff_of_true hsame hnever, fun hunread => absurd hunread hnever⟩
  unfold coerce at h
  split at h
  · next htype =>
    cases h
    rw [htype]
    exact hread (decodeText_coerced v) not_false
  · next htype =>
    cases h
    rw [htype]
    exact hread (decodeText_coerced v) not_false
  · next htype =>
    -- A number, or the empty text in its place, is decoded as itself.
    have hsame : decodeNumber w = w := by
      have hsuits : w.Suits [] .number := suits_of_coerceNumber h
      cases hsuits <;> rfl
    rw [htype]
    simp only [decode, hsame]
    exact decodeNumber_coerced h
  · next htype => exact htype ▸ decodeDate_coerced h
  · next htype => exact htype ▸ hread (decodeSelect_coerced h) not_false
  · next htype => exact htype ▸ hread (decodeCheckbox_coerced h) not_false
  · next htype => simp [FormField.isReadonly, htype] at hf

end Answer

/-- Let a field be recorded with a value that coercion accepts, and then with what coercion yields
for it. The field looks the same both times, unless the value is a text that decoding leaves unread,
and such a text is shown as it stands. -/
theorem FormField.decoded_coerced (hf : f.isReadonly = false) (h : Answer.coerce f v = .ok w)
    (hv : data.get? f.id = some v) (hw : data'.get? f.id = some w) :
    (f.decoded data = f.decoded data' ↔ ¬ Answer.Unread f.type v) ∧
      (Answer.Unread f.type v → f.decoded data = v) := by
  rw [decoded_of_get? hf hv, decoded_of_get? hf hw]
  exact Answer.decode_coerced hf h

/-! ## Padded answers -/

namespace Sample

/-- A date field. -/
def due : FormField := { id := "due", label := "Due", type := .date }

/-- A number field. -/
def amount : FormField := { id := "amount", label := "Amount", type := .number }

end Sample

/-- An amount with a space on either side is shown as the number that it is, and a date with a space
on either side as a text. -/
theorem FormField.decoded_coerced_sample :
    (Answer.coerce Sample.amount (.text " 12 ") = .ok (.int 12) ∧
      Sample.amount.decoded [("amount", .text " 12 ")] =
        Sample.amount.decoded [("amount", .int 12)]) ∧
    Answer.coerce Sample.due (.text " 2024-03-01 ") = .ok (.text "2024-03-01") ∧
      Sample.due.decoded [("due", .text " 2024-03-01 ")] = .text " 2024-03-01 " := by
  have hamount : Answer.coerce Sample.amount (.text " 12 ") = .ok (.int 12) := by rfl
  have hdue : Answer.coerce Sample.due (.text " 2024-03-01 ") = .ok (.text "2024-03-01") := by rfl
  have hagain : Fields.get? [("due", .text "2024-03-01")] Sample.due.id =
      some (.text "2024-03-01") := rfl
  refine ⟨⟨hamount, ?_⟩, hdue, ?_⟩
  · exact (decoded_coerced rfl hamount rfl rfl).1.mpr (by decide +kernel)
  · exact (decoded_coerced rfl hdue rfl hagain).2 (by decide +kernel)

/-- A date with a space on either side is shown as a text before it is submitted again, and as a
date after. -/
theorem FormField.decoded_differs : ¬ ∀ (f : FormField) (v w : Value) (data data' : Fields),
    f.isReadonly = false → Answer.coerce f v = .ok w → data.get? f.id = some v →
      data'.get? f.id = some w → f.decoded data = f.decoded data' := by
  intro h
  have hsame := h Sample.due (.text " 2024-03-01 ") (.text "2024-03-01")
    [("due", .text " 2024-03-01 ")] [("due", .text "2024-03-01")] rfl rfl rfl rfl
  cases hsame

end CaseFlow
