import CaseFlow.Value.Basic
import Mathlib.Data.List.Nodup

/-!
# Fields of objects

The fields of an object are a list of names with values, in which a name is looked up from the
front. Fields are set one by one, and merged by setting one after the other; the lemmas say what is
found and in which order the names stand.

* `Fields.get?_set`: a set field is found with its new value, and every other field is as it was.
* `Fields.get?_merge`: merged fields hide those that they share a name with.
* `Fields.names_set`, `Fields.names_merge`: the names keep their order, and a new one is added at
  the end, once. So distinct names stay distinct (`Fields.nodup_names_merge`).
-/

namespace CaseFlow.Fields

variable {fs new : Fields} {name : String} {v : Value}

@[simp]
theorem get?_nil : get? [] name = none := rfl

theorem get?_cons (p : String × Value) :
    get? (p :: fs) name = if p.1 = name then some p.2 else fs.get? name := by
  by_cases h : p.1 = name <;> simp [get?, h]

/-- A name is looked up among the first fields, and then among the others. -/
theorem get?_append : get? (fs ++ new) name = (fs.get? name).or (new.get? name) := by
  simp [get?, Option.map_or]

/-- A name has a field exactly when something is found under it. -/
theorem has_iff_isSome : fs.has name = true ↔ (fs.get? name).isSome := by
  simp [has, get?]

/-- Nothing is found exactly under the names that no field has. -/
theorem get?_eq_none_iff : fs.get? name = none ↔ name ∉ fs.names := by
  simp only [get?, Option.map_eq_none_iff, List.find?_eq_none, names, List.mem_map, beq_iff_eq]
  constructor
  · rintro h ⟨p, hp, rfl⟩
    exact h p hp rfl
  · rintro h p hp rfl
    exact h ⟨p, hp, rfl⟩

/-- A name has a field exactly when it is one of the names. -/
theorem has_iff_mem_names : fs.has name = true ↔ name ∈ fs.names := by
  rw [has_iff_isSome, ← not_iff_not, ← get?_eq_none_iff]
  simp

/-- Where names are distinct, a field is found under its name. -/
theorem get?_of_mem (hfs : fs.names.Nodup) (h : (name, v) ∈ fs) : fs.get? name = some v := by
  induction fs with
  | nil => cases h
  | cons p rest ih =>
    simp only [names, List.map_cons, List.nodup_cons] at hfs
    rw [get?_cons]
    rcases List.mem_cons.mp h with rfl | hrest
    · simp
    · have hne : p.1 ≠ name := by
        rintro rfl
        exact hfs.1 (List.mem_map_of_mem (f := (·.1)) hrest)
      simpa [hne] using ih hfs.2 hrest

theorem mem_of_get? (h : fs.get? name = some v) : (name, v) ∈ fs := by
  obtain ⟨p, hp, rfl⟩ := Option.map_eq_some_iff.mp h
  have hname := List.find?_some hp
  rw [beq_iff_eq] at hname
  exact hname ▸ List.mem_of_find?_eq_some hp

/-- A name among the fields has a value. -/
theorem exists_get? (h : name ∈ fs.names) : ∃ v, fs.get? name = some v := by
  rwa [← has_iff_mem_names, has_iff_isSome, Option.isSome_iff_exists] at h

/-- Replacing a field in its place changes what is found under its name, if it is there. -/
private theorem get?_replace (other : String) :
    get? (fs.map fun f => if f.1 == name then (name, v) else f) other =
      if other = name then (fs.get? name).map fun _ => v else fs.get? other := by
  induction fs with
  | nil => simp
  | cons p rest ih =>
    rw [List.map_cons, get?_cons, ih, get?_cons, get?_cons]
    by_cases hp : p.1 = name <;> by_cases ho : other = name
    · simp [hp, ho]
    · simp [hp, ho, Ne.symm ho]
    · simp [hp, ho]
    · simp [hp, ho]

/-- Setting a field leaves its value under its name and every other field as it was. -/
theorem get?_set (other : String) :
    (fs.set name v).get? other = if other = name then some v else fs.get? other := by
  unfold set
  -- The field is replaced in its place, or added at the end.
  by_cases hhas : fs.has name
  · obtain ⟨w, hw⟩ := Option.isSome_iff_exists.mp (has_iff_isSome.mp hhas)
    rw [if_pos hhas, get?_replace, hw, Option.map_some]
  · have hnone : fs.get? name = none := by simpa [has_iff_isSome] using hhas
    simp only [hhas, Bool.false_eq_true, ↓reduceIte, get?_append, get?_cons, get?_nil]
    by_cases ho : other = name
    · simp [ho, hnone]
    · simp [ho, Ne.symm ho]

/-- A field of a new name is set at the end. -/
theorem set_of_notMem (h : name ∉ fs.names) : fs.set name v = fs ++ [(name, v)] := by
  simp [set, ← has_iff_mem_names] at h ⊢
  simp [h]

/-- After a field is set there is nothing new but that field. -/
private theorem mem_set {p : String × Value} (h : p ∈ fs.set name v) : p ∈ fs ∨ p = (name, v) := by
  unfold set at h
  split at h
  · obtain ⟨q, hq, rfl⟩ := List.mem_map.mp h
    split
    · exact .inr rfl
    · exact .inl hq
  · simpa using h

/-- Setting a value adds its name at the end, if it is new. -/
theorem names_set : (fs.set name v).names =
    if name ∈ fs.names then fs.names else fs.names ++ [name] := by
  by_cases h : name ∈ fs.names
  · rw [if_pos h, set, if_pos (has_iff_mem_names.mpr h), names, List.map_map]
    refine List.map_congr_left fun p _ => ?_
    by_cases hp : p.1 = name <;> simp [hp]
  · rw [if_neg h, set_of_notMem h, names, List.map_append]
    rfl

private theorem nodup_names_set (h : fs.names.Nodup) : (fs.set name v).names.Nodup := by
  rw [names_set]
  split
  · exact h
  · next hname =>
    exact h.append (List.nodup_singleton name) (by simpa using hname)

/-- Merging no fields changes nothing. -/
@[simp]
theorem merge_nil : fs.merge [] = fs := by
  rw [merge, List.foldl_nil]

theorem merge_cons (p : String × Value) : fs.merge (p :: new) = (fs.set p.1 p.2).merge new := rfl

/-- Merged fields come from one side or the other. -/
theorem mem_merge {p : String × Value} (h : p ∈ fs.merge new) : p ∈ fs ∨ p ∈ new := by
  induction new generalizing fs with
  | nil => exact .inl h
  | cons q rest ih =>
    rw [merge_cons] at h
    rcases ih h with h | h
    · rcases mem_set h with h | rfl
      · exact .inl h
      · exact .inr List.mem_cons_self
    · exact .inr (List.mem_cons_of_mem q h)

/-- Merged fields hide those that they share a name with. -/
theorem get?_merge (hnew : new.names.Nodup) :
    (fs.merge new).get? name = (new.get? name).or (fs.get? name) := by
  induction new generalizing fs with
  | nil => simp
  | cons p rest ih =>
    simp only [names, List.map_cons, List.nodup_cons] at hnew
    rw [merge_cons, ih hnew.2, get?_set, get?_cons]
    by_cases h : p.1 = name
    · -- No later field has the name, so the value set first is the one that stays.
      have hrest : get? rest name = none := get?_eq_none_iff.mpr (h ▸ hnew.1)
      simp [h, hrest]
    · simp [h, Ne.symm h]

/-- Fields of new and distinct names are merged in at the end. -/
theorem merge_eq_append (hnew : new.names.Nodup) (h : ∀ name ∈ new.names, name ∉ fs.names) :
    fs.merge new = fs ++ new := by
  induction new generalizing fs with
  | nil => simp
  | cons p rest ih =>
    simp only [names, List.map_cons, List.nodup_cons, List.mem_cons, forall_eq_or_imp] at hnew h
    -- The first name is new, so that it is added at the end, behind which the others are as new as
    -- before.
    rw [merge_cons, set_of_notMem h.1, ih hnew.2, List.append_assoc, List.singleton_append]
    intro name hname
    simp only [names, List.map_append, List.mem_append, not_or]
    refine ⟨h.2 name hname, ?_⟩
    rintro hp
    simp only [List.map_cons, List.map_nil, List.mem_singleton] at hp
    exact hnew.1 (hp ▸ hname)

/-- The names of merged fields: those that were there, then the new ones in their order. -/
theorem names_merge :
    (fs.merge new).names = fs.names ++ (new.names.removeAll fs.names).eraseDups := by
  induction new generalizing fs with
  | nil => simp [names]
  | cons p rest ih =>
    have hcons : names (p :: rest) = p.1 :: names rest := rfl
    rw [merge_cons, ih, names_set, hcons, List.cons_removeAll]
    by_cases h : p.1 ∈ fs.names
    · simp [h]
    · -- The new name is not among the later ones any more.
      have hrest : (names rest).removeAll (fs.names ++ [p.1]) =
          ((names rest).removeAll fs.names).filter fun name => !name == p.1 := by
        simp only [List.removeAll, List.filter_filter]
        refine List.filter_congr fun name _ => ?_
        by_cases hname : name = p.1 <;> simp [hname]
      simp [h, List.eraseDups_cons, hrest]

/-- Merging keeps the names distinct. -/
theorem nodup_names_merge (h : fs.names.Nodup) : (fs.merge new).names.Nodup := by
  induction new generalizing fs with
  | nil => exact h
  | cons p rest ih => exact ih (nodup_names_set h)

/-- The names of merged fields stand in the order of their first mention. -/
theorem names_merge_nil : (merge [] new).names = new.names.eraseDups := by
  rw [names_merge]
  simp [names]

/-- Of merged fields that share a name the last one is found. -/
theorem get?_merge_reverse :
    (fs.merge new).get? name = (get? new.reverse name).or (fs.get? name) := by
  induction new generalizing fs with
  | nil => simp
  | cons p rest ih =>
    rw [merge_cons, ih, get?_set, List.reverse_cons, get?_append, get?_cons, get?_nil]
    by_cases h : p.1 = name
    · simp [h]
    · simp [h, Ne.symm h]

end CaseFlow.Fields
