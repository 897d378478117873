import CaseFlow.Reading.Checked
import Mathlib.Data.List.Forall2

/-!
# When reading and deciding succeed

Readers and commands are built from steps that may fail. Each lemma of this file says of one way of
building exactly when the whole succeeds and with what: a bind when both halves do, a record when
every field does, a list when every item does.

* `bind_eq_ok`, `map_eq_ok` and `mapError_eq_ok` are about steps in sequence, and `mapM_eq_ok` about
  one step for each item of a list;
* `Checked.seq_eq_ok` is about fields that are read side by side, where the complaints about all of
  them are gathered, and `Checked.andThen_eq_ok` about a check of what was read;
* `Reader.record_eq_ok`, `Reader.list_eq_ok`, `Fields.require_eq_ok` and `Fields.optional_eq_ok` are
  about the values that are read.

Most of them are simp lemmas. Later files take a success apart with them and never unfold a reader.
-/

namespace CaseFlow

section Except

variable {ε ε' α β : Type}

/-- A sequence succeeds exactly when each of its steps does. -/
@[simp]
theorem bind_eq_ok {x : Except ε α} {f : α → Except ε β} {b : β} :
    (x >>= f) = .ok b ↔ ∃ a, x = .ok a ∧ f a = .ok b := by
  cases x <;> simp [bind, Except.bind]

/-- A pure step succeeds with its value. -/
@[simp]
theorem pure_eq_ok {a b : α} : (pure a : Except ε α) = .ok b ↔ a = b := by
  simp [pure, Except.pure]

/-- What is thrown is the failure. -/
@[simp]
theorem throw_eq_error {e : ε} : (throw e : Except ε α) = .error e := by
  simp [throw, throwThe, MonadExceptOf.throw]

/-- A sequence goes on from a step that succeeds. -/
@[simp]
theorem ok_bind {a : α} {f : α → Except ε β} : (Except.ok a >>= f) = f a := by
  simp [bind, Except.bind]

/-- A sequence ends with a step that fails. -/
@[simp]
theorem error_bind {e : ε} {f : α → Except ε β} : (Except.error e >>= f) = .error e := by
  simp [bind, Except.bind]

/-- A failure is renamed. -/
@[simp]
theorem mapError_error {e : ε} {f : ε → ε'} :
    (Except.error e : Except ε α).mapError f = .error (f e) := by
  simp [Except.mapError]

/-- Renaming the error of a step leaves its successes as they are. -/
@[simp]
theorem mapError_eq_ok {x : Except ε α} {f : ε → ε'} {a : α} :
    x.mapError f = .ok a ↔ x = .ok a := by
  cases x <;> simp [Except.mapError]

/-- A mapped step succeeds exactly when the step does. -/
@[simp]
theorem map_eq_ok {x : Except ε α} {f : α → β} {b : β} :
    x.map f = .ok b ↔ ∃ a, x = .ok a ∧ f a = b := by
  cases x <;> simp [Except.map]

@[simp]
theorem fmap_eq_ok {x : Except ε α} {f : α → β} {b : β} :
    f <$> x = .ok b ↔ ∃ a, x = .ok a ∧ f a = b :=
  map_eq_ok

/-- A step that is decided to succeed has a value. -/
theorem isOk_eq_true {x : Except ε α} : x.isOk = true ↔ ∃ a, x = .ok a := by
  cases x <;> simp [Except.isOk, Except.toBool]

/-- A step that is decided not to succeed has an error. -/
theorem isOk_eq_false {x : Except ε α} : x.isOk = false ↔ ∃ e, x = .error e := by
  cases x <;> simp [Except.isOk, Except.toBool]

/-- A step passes a test of its value exactly if it succeeds with one that does. -/
theorem any_toOption_eq_true {x : Except ε α} {p : α → Bool} :
    x.toOption.any p = true ↔ ∃ a, x = .ok a ∧ p a = true := by
  cases x <;> simp [Except.toOption]

end Except

/-- Lists that are related item by item: every item of the first has one in the second. -/
theorem exists_of_forall₂ {α β : Type} {R : α → β → Prop} {xs : List α} {ys : List β}
    (h : List.Forall₂ R xs ys) {x : α} (hx : x ∈ xs) : ∃ y ∈ ys, R x y := by
  induction h with
  | nil => cases hx
  | cons hxy _ ih =>
    rcases List.mem_cons.mp hx with rfl | hx
    · exact ⟨_, by simp, hxy⟩
    · obtain ⟨y, hy, hR⟩ := ih hx
      exact ⟨y, by simp [hy], hR⟩

/-- Lists that are related item by item are split at the same place. -/
theorem exists_split_of_forall₂ {α β : Type} {R : α → β → Prop} {before after : List α} {x : α}
    {ys : List β} (h : List.Forall₂ R (before ++ x :: after) ys) :
    ∃ ys₁ y ys₂, ys = ys₁ ++ y :: ys₂ ∧ R x y ∧ List.Forall₂ R after ys₂ := by
  induction before generalizing ys with
  | nil =>
    obtain ⟨y, ys, hxy, hafter, rfl⟩ := List.forall₂_cons_left_iff.mp h
    exact ⟨[], y, ys, rfl, hxy, hafter⟩
  | cons x' before ih =>
    obtain ⟨y', ys, -, hrest, rfl⟩ := List.forall₂_cons_left_iff.mp h
    obtain ⟨ys₁, y, ys₂, rfl, hxy, hafter⟩ := ih hrest
    exact ⟨y' :: ys₁, y, ys₂, rfl, hxy, hafter⟩

/-- Lists that are related item by item agree in whatever related items agree in. -/
theorem map_eq_of_forall₂ {α β γ : Type} {R : α → β → Prop} {f : α → γ} {g : β → γ} {xs : List α}
    {ys : List β} (h : List.Forall₂ R xs ys) (hR : ∀ x y, R x y → g y = f x) :
    ys.map g = xs.map f := by
  induction h with
  | nil => rfl
  | cons hxy _ ih => rw [List.map_cons, List.map_cons, ih, hR _ _ hxy]

section Lists

variable {ε α β : Type} {f : α → Except ε β} {xs : List α} {ys : List β}

/-- A step that is taken for every item of a list succeeds when it does for each of them. -/
theorem mapM_eq_ok : xs.mapM f = .ok ys ↔ List.Forall₂ (fun x y => f x = .ok y) xs ys := by
  induction xs generalizing ys with
  | nil => rw [List.mapM_nil, pure_eq_ok, List.forall₂_nil_left_iff, eq_comm]
  | cons x xs ih =>
    simp only [List.mapM_cons, bind_eq_ok, pure_eq_ok, ih, List.forall₂_cons_left_iff]
    constructor
    · rintro ⟨y, hy, ys, hys, rfl⟩
      exact ⟨y, ys, hy, hys, rfl⟩
    · rintro ⟨y, ys, hy, hys, rfl⟩
      exact ⟨y, hy, ys, hys, rfl⟩

/-- A list is read exactly if each of its items is. -/
theorem exists_mapM_eq_ok : (∃ ys, xs.mapM f = .ok ys) ↔ ∀ x ∈ xs, ∃ y, f x = .ok y := by
  simp only [mapM_eq_ok]
  constructor
  · rintro ⟨ys, hys⟩ x hx
    obtain ⟨y, -, hy⟩ := exists_of_forall₂ hys hx
    exact ⟨y, hy⟩
  · intro hxs
    -- The values that are read are collected along the list.
    induction xs with
    | nil => exact ⟨[], .nil⟩
    | cons x xs ih =>
      rw [List.forall_mem_cons] at hxs
      obtain ⟨y, hy⟩ := hxs.1
      obtain ⟨ys, hys⟩ := ih hxs.2
      exact ⟨y :: ys, .cons hy hys⟩

end Lists

namespace Checked

variable {α β : Type}

@[simp]
theorem map_eq_ok {f : α → β} {x : Checked α} {b : β} :
    f <$> x = .ok b ↔ ∃ a, x = .ok a ∧ f a = b := by
  cases x <;> simp [Functor.map, Checked.map]

@[simp]
theorem map_eq_ok' {f : α → β} {x : Checked α} {b : β} :
    x.map f = .ok b ↔ ∃ a, x = .ok a ∧ f a = b :=
  map_eq_ok

/-- Fields that are read side by side are in order when each of them is. -/
@[simp]
theorem seq_eq_ok {x : Checked (α → β)} {y : Checked α} {b : β} :
    x <*> y = .ok b ↔ ∃ f a, x = .ok f ∧ y = .ok a ∧ f a = b := by
  cases x <;> cases y <;> simp [Seq.seq, Checked.seq]

/-- A sequence of two checks succeeds exactly if both do. -/
@[simp]
theorem andThen_eq_ok {x : Checked α} {f : α → Checked β} {b : β} :
    x.andThen f = .ok b ↔ ∃ a, x = .ok a ∧ f a = .ok b := by
  cases x <;> simp [andThen]

@[simp]
theorem refuse_ne_ok {c : Complaint} {a : α} : refuse c ≠ .ok a := by
  simp [refuse]

/-- Where a value stands does not matter for its success. -/
@[simp]
theorem under_eq_ok {place : Place} {x : Checked α} {a : α} :
    x.under place = .ok a ↔ x = .ok a := by
  cases x <;> simp [under]

@[simp]
theorem toExcept_eq_ok {record : String} {x : Checked α} {a : α} :
    x.toExcept record = .ok a ↔ x = .ok a := by
  cases x <;> simp [toExcept]

end Checked

namespace Reader

variable {α β : Type}

@[simp]
theorem text_eq_ok {v : Value} {s : String} : text v = .ok s ↔ v = .text s := by
  cases v <;> simp [text]

/-- A record is read from an object only. -/
@[simp]
theorem record_eq_ok {name : String} {read : Fields → Checked α} {v : Value} {a : α} :
    record name read v = .ok a ↔ ∃ fs, v = .object fs ∧ read fs = .ok a := by
  cases v <;> simp [record]

/-- A checked reader succeeds where both the reader and the check do. -/
@[simp]
theorem checking_eq_ok {read : Reader α} {check : α → Except Rule β} {v : Value} {b : β} :
    read.checking check v = .ok b ↔ ∃ a, read v = .ok a ∧ check a = .ok b := by
  simp only [checking, Checked.andThen_eq_ok]
  refine exists_congr fun a => and_congr_right fun _ => ?_
  cases check a <;> simp

/-- Items are in order when each of them is, whatever index counting starts from. -/
private theorem items_eq_ok {read : Reader α} {i : Nat} {vs : List Value} {xs : List α} :
    items read i vs = .ok xs ↔ List.Forall₂ (fun v x => read v = .ok x) vs xs := by
  induction vs generalizing i xs with
  | nil => simp [items, eq_comm]
  | cons v vs ih =>
    simp only [items, Checked.seq_eq_ok, Checked.map_eq_ok, Checked.under_eq_ok, ih,
      List.forall₂_cons_left_iff]
    constructor
    · rintro ⟨_, ys, ⟨x, hx, rfl⟩, hys, rfl⟩
      exact ⟨x, ys, hx, hys, rfl⟩
    · rintro ⟨x, ys, hx, hys, rfl⟩
      exact ⟨_, ys, ⟨x, hx, rfl⟩, hys, rfl⟩

/-- A list is read item by item. -/
theorem list_eq_ok {read : Reader α} {v : Value} {xs : List α} :
    list read v = .ok xs ↔
      ∃ vs, v = .list vs ∧ List.Forall₂ (fun v x => read v = .ok x) vs xs := by
  cases v <;> simp [list, items_eq_ok]

/-- A list of written items is read item by item. -/
theorem list_map_eq_ok {read : Reader β} {write : α → Value} {xs : List α} {ys : List β} :
    list read (.list (xs.map write)) = .ok ys ↔
      List.Forall₂ (fun x y => read (write x) = .ok y) xs ys := by
  rw [list_eq_ok]
  constructor
  · rintro ⟨vs, hvs, hread⟩
    rw [← Value.list.inj hvs] at hread
    exact List.forall₂_map_left_iff.mp hread
  · exact fun hread => ⟨_, rfl, List.forall₂_map_left_iff.mpr hread⟩

/-- Every item of a list that was read comes from a value of its own. -/
theorem exists_of_mem_list {read : Reader α} {v : Value} {xs : List α}
    (h : list read v = .ok xs) {x : α} (hx : x ∈ xs) : ∃ w, read w = .ok x := by
  obtain ⟨vs, -, hvs⟩ := list_eq_ok.mp h
  obtain ⟨w, -, hw⟩ := exists_of_forall₂ hvs.flip hx
  exact ⟨w, hw⟩

end Reader

namespace Fields

variable {α : Type} {fs : Fields} {name : String} {read : Reader α}

/-- A required field is read exactly if it is there and can be read. -/
@[simp]
theorem require_eq_ok {a : α} :
    fs.require name read = .ok a ↔ ∃ v, fs.get? name = some v ∧ read v = .ok a := by
  unfold require
  cases fs.get? name <;> simp

/-- A field that may be absent is read, or has its default. -/
theorem optional_eq_ok {default a : α} :
    fs.optional name read default = .ok a ↔
      (∃ v, fs.get? name = some v ∧ read v = .ok a) ∨ (fs.get? name = none ∧ a = default) := by
  unfold optional
  cases fs.get? name with
  | none => simp [eq_comm]
  | some v => simp

end Fields

end CaseFlow
