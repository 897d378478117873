import CaseFlow.Proofs.Form.Submitted
import CaseFlow.Proofs.Form.Suitable
import CaseFlow.Value.Portable

/-!
# The values that forms record

Whatever is submitted for a field that records values, what it records is a text, a truth value or a
number (`Answer.coerce_isAnswer`). So recorded values have no parts, and what JSON cannot hold of
them are the numbers that are not finite, and nothing else (`Value.IsScalar.portable_eq`).

Values that were read from JSON may have parts, but no such numbers. Both kinds are durable: JSON
holds all of them but numbers that are not finite (`Fields.durable_portableFields`,
`Fields.Scalar.durable`), and they stay so as answers are merged into them (`Fields.Durable.merge`).
What is left of durable fields in a store can therefore be said without looking into them
(`Fields.finite`), and nothing is lost exactly if all their numbers are finite
(`Fields.finite_eq_self_iff`).
-/

namespace CaseFlow

/-! ## Values without parts -/

namespace Value

/-- A text, a truth value or a number. -/
inductive IsAnswer : Value → Prop where
  /-- A text. -/
  | text (s : String) : IsAnswer (.text s)
  /-- A truth value. -/
  | bool (b : Bool) : IsAnswer (.bool b)
  /-- A whole number. -/
  | int (n : Int) : IsAnswer (.int n)
  /-- A binary number, finite or not. -/
  | float (x : Float) : IsAnswer (.float x)

/-- A value that JSON writes without parts: an answer, or no value. -/
def IsScalar (v : Value) : Prop := v.IsAnswer ∨ v = .null

/-- The value without a number that is not finite. -/
def finite : Value → Value
  | .float x => if Decimal.isFinite x then .float x else .null
  | v => v

/-- A value loses nothing but a number that is not finite. -/
theorem finite_eq_self_iff {v : Value} :
    v.finite = v ↔ ∀ x, v = .float x → Decimal.isFinite x = true := by
  cases v with
  | float x => by_cases hx : Decimal.isFinite x <;> simp [finite, hx]
  | _ => simp [finite]

/-- A scalar is dumped as itself, if it is a finite number. -/
theorem IsScalar.portable_eq {v : Value} (h : v.IsScalar) : v.portable = v.finite := by
  rcases h with h | rfl
  · cases h <;> rfl
  · rfl

theorem IsScalar.finite {v : Value} (h : v.IsScalar) : v.finite.IsScalar := by
  rcases h with h | rfl
  · cases h with
    | float x =>
      by_cases hx : Decimal.isFinite x
      · exact .inl (by rw [Value.finite, if_pos hx]; exact .float x)
      · exact .inr (by rw [Value.finite, if_neg hx])
    | text s => exact .inl (.text s)
    | bool b => exact .inl (.bool b)
    | int n => exact .inl (.int n)
  · exact .inr rfl

theorem portableFields_eq_map (fs : Fields) :
    portableFields fs = fs.map fun p => (p.1, p.2.portable) := by
  induction fs with
  | nil => rfl
  | cons p fs ih =>
    obtain ⟨name, v⟩ := p
    rw [portableFields, ih, List.map_cons]

mutual

/-- What JSON holds of a value it holds as it is. -/
theorem portable_portable : ∀ v : Value, v.portable.portable = v.portable
  | .null | .bool _ | .int _ | .text _ | .date _ | .timestamp _ => rfl
  | .float x => by by_cases hx : Decimal.isFinite x <;> simp [portable, hx]
  | .list vs => by simp only [portable, portableItems_portableItems vs]
  | .object fs => by simp only [portable, portableFields_portableFields fs]

/-- Dumping a list a second time changes nothing. -/
theorem portableItems_portableItems :
    ∀ vs : List Value, portableItems (portableItems vs) = portableItems vs
  | [] => rfl
  | v :: vs => by simp only [portableItems, portable_portable v, portableItems_portableItems vs]

/-- Dumping an object a second time changes nothing. -/
theorem portableFields_portableFields :
    ∀ fs : List (String × Value), portableFields (portableFields fs) = portableFields fs
  | [] => rfl
  | (_, v) :: fs => by
    simp only [portableFields, portable_portable v, portableFields_portableFields fs]

end

end Value

namespace Fields

/-- Fields whose values have no parts. -/
def Scalar (fs : Fields) : Prop := ∀ p ∈ fs, p.2.IsScalar

/-- The fields without numbers that are not finite. -/
def finite (fs : Fields) : Fields := fs.map fun p => (p.1, p.2.finite)

/-- Fields of which JSON loses nothing but numbers that are not finite. -/
def Durable (fs : Fields) : Prop := ∀ p ∈ fs, p.2.portable = p.2.finite

variable {fs new : Fields}

/-- Of durable fields the dump changes only the numbers that are not finite. -/
theorem Durable.portableFields_eq (h : fs.Durable) : Value.portableFields fs = fs.finite := by
  rw [Value.portableFields_eq_map]
  exact List.map_congr_left fun p hp => congrArg (p.1, ·) (h p hp)

/-- Durable fields stay durable when durable fields are merged into them. -/
theorem Durable.merge (h : fs.Durable) (hnew : new.Durable) : (fs.merge new).Durable := by
  intro p hp
  rcases mem_merge hp with hp | hp
  · exact h p hp
  · exact hnew p hp

/-- What JSON holds of some fields is durable, for it has no number that is not finite. -/
theorem durable_portableFields (fs : Fields) : Durable (Value.portableFields fs) := by
  intro p hp
  rw [Value.portableFields_eq_map] at hp
  obtain ⟨q, -, rfl⟩ := List.mem_map.mp hp
  have hsame := Value.portable_portable q.2
  rw [hsame, eq_comm, Value.finite_eq_self_iff]
  -- JSON would not have held such a number once, so it cannot hold it again.
  rintro x hx
  by_contra hinfinite
  replace hx : q.2.portable = .float x := hx
  rw [hx, Value.portable, if_neg hinfinite] at hsame
  cases hsame

/-- Values without parts are durable. -/
theorem Scalar.durable (h : fs.Scalar) : fs.Durable := fun p hp => (h p hp).portable_eq

theorem Scalar.portableFields_eq (h : fs.Scalar) : Value.portableFields fs = fs.finite :=
  h.durable.portableFields_eq

theorem Scalar.finite (h : fs.Scalar) : fs.finite.Scalar := by
  intro p hp
  obtain ⟨q, hq, rfl⟩ := List.mem_map.mp hp
  exact (h q hq).finite

/-- Fields lose nothing exactly if all their numbers are finite. -/
theorem finite_eq_self_iff :
    fs.finite = fs ↔ ∀ p ∈ fs, ∀ x, p.2 = .float x → Decimal.isFinite x = true := by
  simp only [← Value.finite_eq_self_iff]
  have hmap : fs.finite = fs ↔ ∀ p ∈ fs, (p.1, p.2.finite) = p := by
    rw [finite, ← List.map_inj_left, List.map_id']
  rw [hmap]
  exact forall₂_congr fun p _ => by simp [Prod.ext_iff]

theorem Scalar.merge (h : fs.Scalar) (hnew : new.Scalar) : (fs.merge new).Scalar := by
  intro p hp
  rcases mem_merge hp with hp | hp
  · exact h p hp
  · exact hnew p hp

end Fields

/-! ## What a field records -/

variable {data submitted vs : Fields} {f : FormField} {u v : Value}

/-- What suits the type of a field is an answer. -/
theorem Value.Suits.isAnswer {w : Value} {options : List String} {t : FieldType}
    (h : w.Suits options t) : w.IsAnswer := by
  cases h with
  | text s => exact .text s
  | textarea s => exact .text s
  | noNumber => exact .text ""
  | int n => exact .int n
  | float x => exact .float x
  | noDate => exact .text ""
  | date d => exact .text d.text
  | noOption => exact .text ""
  | option => exact .text _
  | checkbox b => exact .bool b

/-- What is coerced for a field that records values is a text, a truth value or a number. -/
theorem Answer.coerce_isAnswer (hf : f.isReadonly = false) (h : coerce f v = .ok u) : u.IsAnswer :=
  (suits_of_coerce hf h).isAnswer

/-- A field records an answer. -/
theorem Submission.fieldValue_isAnswer (hf : f.isReadonly = false)
    (h : fieldValue data submitted f = .ok v) : v.IsAnswer := by
  unfold fieldValue at h
  split at h
  · cases h
  · next hcoerce =>
    split at h
    · cases h
    · cases h
      exact Answer.coerce_isAnswer hf hcoerce

/-- Whatever is submitted, a step returns values without parts. -/
theorem Node.answers_scalar {n : Node} (h : n.answers data submitted = .ok vs) : vs.Scalar := by
  rw [answers_eq_collect, Submission.collect_eq_ok] at h
  obtain ⟨ps, hps, rfl⟩ := h
  have hscalar : Fields.Scalar ps := by
    intro p hp
    obtain ⟨f, hf, -, hvalue⟩ := exists_of_forall₂ hps.flip hp
    have hrecords : f.isReadonly = false := by simpa using (List.mem_filter.mp hf).2
    exact .inl (Submission.fieldValue_isAnswer hrecords hvalue)
  have hnone : Fields.Scalar [] := fun p hp => by cases hp
  exact hnone.merge hscalar

end CaseFlow
