import CaseFlow.Proofs.Case.Reading
import CaseFlow.Proofs.Form.Recorded
import CaseFlow.Proofs.Workflow.Canonical
import CaseFlow.Store.Basic

/-!
# Rows of the store

What is found under an id after rows were put, kept or removed, in which order cases are listed, and
what a row reads as. Rows have keys, and the lemmas about them are stated for any list of items with
keys first.

A case whose title and tags are trimmed and whose history shows times can be read from its row
(`Case.Legible.read_ofCase`). If it was opened in universal time as well and its form values have no
parts, it comes back as it went in, but for what JSON and documents cannot hold
(`CaseRow.read_ofCase`): numbers that are not finite, and seconds in the offsets of the history.
`Case.kept` is what is left of a case, and `Case.kept_eq_self_iff` says when that is all of it. The
history comes back in the same way from every row that can be read (`CaseRow.of_read_ofCase`).
-/

namespace CaseFlow

open CaseFlow.Text

/-! ## Lists with keys -/

section Keyed

variable {α : Type} {xs : List α} {id : String}

/-- Putting a row in the place of those with its key changes what is found under that key only. -/
theorem find?_map_replace (key : α → String) (new : α) :
    (xs.map fun x => if key x == key new then new else x).find? (key · == id) =
      if id = key new then (xs.find? (key · == id)).map fun _ => new
      else xs.find? (key · == id) := by
  induction xs with
  | nil => simp
  | cons x xs ih =>
    rw [List.map_cons]
    -- Under the key of the new row it is the new row that is found, under any other what was found
    -- before.
    by_cases hid : id = key new
    · subst hid
      by_cases hx : key x = key new <;> simp_all
    · by_cases hx : key x = key new
      · have hne : ¬ key new = id := fun h => hid h.symm
        simp_all
      · by_cases hxid : key x = id <;> simp_all

/-- Where keys are distinct, removing rows removes what is found, or leaves it. -/
theorem find?_filter {key : α → String} (hxs : (xs.map key).Nodup) (p : α → Bool) :
    (xs.filter p).find? (key · == id) = (xs.find? (key · == id)).filter p := by
  induction xs with
  | nil => rfl
  | cons x xs ih =>
    simp only [List.map_cons, List.nodup_cons] at hxs
    by_cases hx : key x = id
    · -- No other row has the key of this one.
      have hnone : (xs.filter p).find? (key · == id) = none := by
        rw [List.find?_eq_none]
        intro y hy hyid
        refine hxs.1 (List.mem_map.mpr ⟨y, (List.mem_filter.mp hy).1, ?_⟩)
        rw [hx]
        exact beq_iff_eq.mp hyid
      by_cases hp : p x <;> simp [hx, hp, hnone, Option.filter]
    · by_cases hp : p x <;> simp [hx, hp, ih hxs.2]

/-- Where keys are distinct, the rows around a row have others than it. -/
theorem exists_split_of_nodup {key : α → String} (hxs : (xs.map key).Nodup) {x : α} (hx : x ∈ xs) :
    ∃ before after, xs = before ++ x :: after ∧ ∀ y ∈ before ++ after, key y ≠ key x := by
  obtain ⟨before, after, rfl⟩ := List.append_of_mem hx
  refine ⟨before, after, rfl, fun y hy heq => ?_⟩
  rw [List.map_append, List.map_cons, List.nodup_middle, List.nodup_cons, ← List.map_append] at hxs
  exact hxs.1 (List.mem_map.mpr ⟨y, hy, heq⟩)

end Keyed

/-! ## The table of cases -/

/-- The row of a case has the id of the case. -/
@[simp]
theorem CaseRow.id_ofCase (c : Case) : (ofCase c).id = c.id := by
  rw [ofCase]

namespace Store

variable {s : Store} {id : String}

/-- A user is found exactly under the ids of users. -/
theorem isSome_user? : (s.user? id).isSome = true ↔ ∃ u ∈ s.users, u.id = id := by
  simp [user?, List.find?_isSome]

/-- A user who is found is one of the store. -/
theorem mem_of_user? {id : Option String} {u : User} (h : id.bind s.user? = some u) :
    u ∈ s.users := by
  obtain ⟨userId, -, hfound⟩ := Option.bind_eq_some_iff.mp h
  exact List.mem_of_find?_eq_some hfound

/-- The row of an app is replaced under its own id only. -/
theorem app?_replaceApp (q : AppRow) : (s.replaceApp q).app? id =
    if id = q.id then (s.app? id).map fun _ => q else s.app? id :=
  find?_map_replace AppRow.id q

/-- The row of an app that is found has the id that was asked for. -/
theorem eq_id_of_app? {id : Option String} {r : AppRow} (h : id.bind s.app? = some r) :
    id = some r.id := by
  obtain ⟨appId, rfl, hfound⟩ := Option.bind_eq_some_iff.mp h
  have hid : r.id = appId := by simpa using List.find?_some hfound
  rw [hid]

/-- The ids of all apps. -/
def appIds (s : Store) : List String := s.apps.map (·.id)

/-- An app is replaced under its own id, so the ids of all apps stay. -/
@[simp]
theorem appIds_replaceApp (q : AppRow) : (s.replaceApp q).appIds = s.appIds := by
  rw [appIds, replaceApp, List.map_map]
  refine List.map_congr_left fun r _ => ?_
  by_cases hr : r.id = q.id
  · simp [hr]
  · simp [hr]

/-- The ids of all cases. -/
def caseIds (s : Store) : List String := s.cases.map (·.id)

@[simp]
theorem apps_keepCase (s : Store) (c : Case) : (s.keepCase c).apps = s.apps := by
  unfold keepCase
  split <;> rfl

/-- The row of a case is kept under its own id only, whether there was one or not. -/
theorem case?_keepCase (c : Case) : (s.keepCase c).case? id =
    if id = c.id then some (.ofCase c) else s.case? id := by
  unfold keepCase
  split
  · next hany =>
    obtain ⟨r, hr⟩ : ∃ r, s.case? c.id = some r := by
      simpa [case?, List.find?_isSome, Option.isSome_iff_exists.symm] using hany
    -- A row with the id of the case is there, and each such row is replaced.
    have hreplace : (s.cases.map fun r => if r.id == c.id then CaseRow.ofCase c else r).find?
        (·.id == id) = if id = c.id then (s.case? id).map fun _ => .ofCase c else s.case? id :=
      find?_map_replace CaseRow.id (.ofCase c)
    refine hreplace.trans ?_
    by_cases hid : id = c.id
    · subst hid
      simp [hr]
    · simp [hid]
  · next hnone =>
    simp only [List.any_eq_true, beq_iff_eq, not_exists, not_and] at hnone
    simp only [case?, List.find?_append]
    by_cases hid : id = c.id
    · subst hid
      -- No row has the id of the case, so that it is found in the row that is added.
      have hfind : s.cases.find? (·.id == c.id) = none := by
        simpa [List.find?_eq_none] using hnone
      simp [hfind]
    · simp [hid, Ne.symm hid]

/-- A row that is found has the id that was asked for. -/
theorem eq_id_of_case? {id : Option String} {r : CaseRow} (h : id.bind s.case? = some r) :
    id = some r.id := by
  obtain ⟨caseId, rfl, hfound⟩ := Option.bind_eq_some_iff.mp h
  have hid : r.id = caseId := by simpa using List.find?_some hfound
  rw [hid]

/-- Keeping a case keeps the ids of all cases distinct. -/
theorem caseIds_keepCase (h : s.caseIds.Nodup) (c : Case) : (s.keepCase c).caseIds.Nodup := by
  unfold keepCase
  split
  · -- Replacing a row by one with the same id leaves the list of ids.
    have hids : (s.cases.map fun r => if r.id == c.id then CaseRow.ofCase c else r).map (·.id)
        = s.caseIds := by
      rw [List.map_map]
      refine List.map_congr_left fun r _ => ?_
      by_cases hr : r.id = c.id
      · simp [hr]
      · simp [hr]
    rw [caseIds, hids]
    exact h
  · next hnone =>
    simp only [List.any_eq_true, beq_iff_eq, not_exists, not_and] at hnone
    rw [caseIds, List.map_append, List.nodup_append]
    refine ⟨h, by simp, ?_⟩
    rintro x hx y hy rfl
    obtain ⟨r, hr, rfl⟩ := List.mem_map.mp hx
    exact hnone r hr (List.mem_singleton.mp hy)

/-- Store `s'` has a row for case `c` in the place of the one row under its id, and is otherwise
the same as store `s`. -/
def ReplacesCase (s : Store) (c : Case) (s' : Store) : Prop :=
  ∃ before row after, s.cases = before ++ row :: after ∧ row.id = c.id ∧
    (∀ r ∈ before ++ after, r.id ≠ c.id) ∧ s' = { s with cases := before ++ .ofCase c :: after }

/-- A case that is stored already is kept in its place; no other row changes. -/
theorem replacesCase_keepCase (h : s.caseIds.Nodup) {c : Case} {row : CaseRow}
    (hrow : s.case? c.id = some row) : s.ReplacesCase c (s.keepCase c) := by
  have hid : row.id = c.id := by simpa using List.find?_some hrow
  obtain ⟨before, after, hcases, hothers⟩ :=
    exists_split_of_nodup h (List.mem_of_find?_eq_some hrow)
  rw [hid] at hothers
  refine ⟨before, row, after, hcases, hid, hothers, ?_⟩
  -- Before and behind the row of the case no other row has its id.
  have hsame (rows : List CaseRow) (hrows : ∀ r ∈ rows, r.id ≠ c.id) :
      rows.map (fun r => if r.id == c.id then CaseRow.ofCase c else r) = rows := by
    refine (List.map_congr_left fun r hr => ?_).trans (List.map_id rows)
    simp [hrows r hr]
  have hany : s.cases.any (·.id == c.id) = true := by simp [hcases, hid]
  rw [keepCase, if_pos hany, hcases, List.map_append, List.map_cons,
    hsame before fun r hr => hothers r (List.mem_append_left _ hr),
    hsame after fun r hr => hothers r (List.mem_append_right _ hr), hid,
    if_pos (beq_self_eq_true _)]

end Store

/-- What happens to the table of cases. -/
inductive CaseChange where
  /-- Nothing. -/
  | nothing
  /-- A case is kept. -/
  | keep (c : Case)
  /-- The cases of an app are removed. -/
  | dropApp (appId : String)

namespace Store

variable {s : Store} {id : String}

/-- The rows of cases after a change. -/
def casesAfter (s : Store) : CaseChange → List CaseRow
  | .nothing => s.cases
  | .keep c => (s.keepCase c).cases
  | .dropApp appId => s.cases.filter (·.appId != appId)

/-- No change makes two cases of one id. -/
theorem nodup_casesAfter (h : s.caseIds.Nodup) (change : CaseChange) :
    ((s.casesAfter change).map (·.id)).Nodup := by
  cases change with
  | nothing => exact h
  | keep c => exact caseIds_keepCase h c
  | dropApp appId => exact h.sublist (List.filter_sublist.map _)

/-- The rows after a change are rows from before it, but for that of a case that is kept. -/
theorem mem_casesAfter {r : CaseRow} {change : CaseChange} (hr : r ∈ s.casesAfter change) :
    r ∈ s.cases ∨ ∃ c, change = .keep c ∧ r = .ofCase c := by
  cases change with
  | nothing => exact .inl hr
  | dropApp appId => exact .inl (List.mem_filter.mp hr).1
  | keep c =>
    have hkept : r ∈ (s.keepCase c).cases := hr
    -- The case takes the place of its row, or comes in behind all others.
    unfold keepCase at hkept
    split at hkept
    · obtain ⟨q, hq, rfl⟩ := List.mem_map.mp hkept
      split
      · exact .inr ⟨c, rfl, rfl⟩
      · exact .inl hq
    · rcases List.mem_append.mp hkept with hold | hnew
      · exact .inl hold
      · exact .inr ⟨c, rfl, List.mem_singleton.mp hnew⟩

/-- What is found under an id after a change to the cases. -/
theorem find?_casesAfter (h : s.caseIds.Nodup) (change : CaseChange) :
    (s.casesAfter change).find? (·.id == id) =
      match change with
      | .nothing => s.case? id
      | .keep c => if id = c.id then some (.ofCase c) else s.case? id
      | .dropApp appId => (s.case? id).filter (·.appId != appId) := by
  cases change with
  | nothing => rfl
  | keep c => exact case?_keepCase c
  | dropApp appId => exact find?_filter h _

/-- Where ids are distinct, every row is found under its id. -/
theorem case?_of_mem (h : s.caseIds.Nodup) {r : CaseRow} (hr : r ∈ s.cases) :
    s.case? r.id = some r := by
  have hsome : (s.case? r.id).isSome := List.find?_isSome.mpr ⟨r, hr, beq_self_eq_true r.id⟩
  obtain ⟨r', hr'⟩ := Option.isSome_iff_exists.mp hsome
  have hid : r'.id = r.id := by simpa using List.find?_some hr'
  rw [hr', List.inj_on_of_nodup_map h (List.mem_of_find?_eq_some hr') hr hid]

/-! ### Lists of cases -/

/-- Cases are listed with the newest first, and by id among those of one time. -/
theorem listedBefore_iff {a b : CaseRow} : a.listedBefore b = true ↔
    b.createdAt.wall < a.createdAt.wall ∨ (a.createdAt.wall = b.createdAt.wall ∧ a.id ≤ b.id) := by
  simp [CaseRow.listedBefore]

/-- The rows of cases are listed in order. -/
theorem pairwise_listCases (appId : Option String) :
    (s.listCases appId).Pairwise fun a b => a.listedBefore b = true := by
  refine List.pairwise_mergeSort ?_ ?_ _
  · intro a b c hab hbc
    rw [listedBefore_iff] at hab hbc ⊢
    -- Time decides first and the id where times are equal, so that the order is transitive and
    -- total.
    rcases hab with hab | ⟨hab, hid⟩ <;> rcases hbc with hbc | ⟨hbc, hid'⟩
    · exact .inl (hbc.trans hab)
    · exact .inl (hbc.symm.trans_lt hab)
    · exact .inl (hbc.trans_eq hab.symm)
    · exact .inr ⟨hab.trans hbc, hid.trans hid'⟩
  · intro a b
    rw [Bool.or_eq_true, listedBefore_iff, listedBefore_iff]
    rcases lt_trichotomy a.createdAt.wall b.createdAt.wall with h | h | h
    · exact .inr (.inl h)
    · rcases le_total a.id b.id with hid | hid
      · exact .inl (.inr ⟨h, hid⟩)
      · exact .inr (.inr ⟨h.symm, hid⟩)
    · exact .inl (.inl h)

/-- Listing the cases of every app loses none and repeats none. -/
theorem listCases_perm : (s.listCases none).Perm s.cases := by
  have hall : s.cases.filter (fun r => (none : Option String).all (r.appId == ·)) = s.cases := by
    simp
  rw [listCases, hall]
  exact List.mergeSort_perm _ _

/-- The rows of one app are listed as they are among all rows. -/
theorem listCases_some (h : s.caseIds.Nodup) (appId : String) :
    s.listCases (some appId) = (s.listCases none).filter (·.appId == appId) := by
  have hperm : (s.listCases (some appId)).Perm ((s.listCases none).filter (·.appId == appId)) :=
    (List.mergeSort_perm _ _).trans (listCases_perm.symm.filter _)
  refine hperm.eq_of_pairwise ?_ (pairwise_listCases _) ((pairwise_listCases none).filter _)
  -- Rows that are listed before each other have one id.
  intro a b ha hb hab hba
  have hmem : a ∈ s.cases ∧ b ∈ s.cases := by
    have ha' := hperm.mem_iff.mp ha
    exact ⟨listCases_perm.mem_iff.mp (List.mem_filter.mp ha').1,
      listCases_perm.mem_iff.mp (List.mem_filter.mp hb).1⟩
  rw [listedBefore_iff] at hab hba
  have hid : a.id = b.id := by
    rcases hab with hab | ⟨hab, hid⟩ <;> rcases hba with hba | ⟨hba, hid'⟩
    · exact absurd hab hba.asymm
    · exact absurd hba hab.ne
    · exact absurd hab hba.ne
    · exact le_antisymm hid hid'
  exact List.inj_on_of_nodup_map h hmem.1 hmem.2 hid

end Store

/-! ## Rows of apps -/

/-- A note is dumped as itself. -/
theorem Value.IsNote.portable_eq {v : Value} (h : v.IsNote) : v.portable = v := by
  obtain ⟨s, rfl⟩ := h
  cases s <;> rfl

/-- A value that counts as given after it was kept did so before. -/
theorem Value.truthy_of_portable {v : Value} (h : v.portable.truthy = true) : v.truthy = true := by
  cases v with
  | float x =>
    -- A number that is not finite is lost, and does not count then.
    unfold portable at h
    split at h
    · exact h
    · cases h
  | date d => rfl
  | timestamp t => rfl
  | list vs => cases vs <;> exact h
  | object fs => cases fs <;> exact h
  | _ => exact h

/-- A plain document is kept as it is. -/
theorem Document.Plain.kept_eq {d : Document} (h : d.Plain) : d.kept = d := by
  have hnodes : d.nodes.map Node.kept = d.nodes := by
    refine (List.map_congr_left fun n hn => ?_).trans (List.map_id _)
    rw [Node.kept, (h n hn).description_isNote.portable_eq, (h n hn).assignee_isNote.portable_eq]
    rfl
  rw [Document.kept, hnodes]

/-- A canonical document comes back as it was kept exactly when it is plain. -/
theorem Document.Canonical.read_kept_iff {d : Document} (h : d.Canonical) :
    read d.kept.toValue = .ok d ↔ d.Plain := by
  constructor
  · exact fun hread => (Accepted.canonical_plain ⟨_, hread⟩).2
  · intro hplain
    rw [hplain.kept_eq]
    exact h.read_toValue hplain

/-! ## Rows of cases -/

/-- A case as it is kept: a number that is not finite is lost, and so are the seconds of an offset
in the history. -/
def Case.kept (c : Case) : Case :=
  { c with
    history := c.history.map Event.documented
    formData := c.formData.finite }

/-- The steps of a case were left at times. -/
def Case.Timed (c : Case) : Prop := ∀ e ∈ c.history, e.completedAt.Valid

/-- A case whose row can be read. -/
structure Case.Legible (c : Case) : Prop where
  /-- The title is trimmed and not blank. -/
  title_isName : IsName c.title
  /-- No tag is blank or has blanks around it. -/
  tags_eq : dropBlank c.tags = c.tags
  /-- The steps were left at times. -/
  timed : c.Timed

/-- A case that comes back from its row as it is kept, with all of its history. -/
structure Case.Storable (c : Case) : Prop extends c.Legible where
  /-- The case was opened in universal time. -/
  createdAt_offset : c.createdAt.offset = some 0
  /-- The offsets in the history have whole minutes. -/
  history_proper : ∀ e ∈ c.history, e.completedAt.Proper
  /-- The values recorded have no parts. -/
  formData_scalar : c.formData.Scalar

/-- A case as it is kept can be kept again. -/
theorem Case.Storable.kept {c : Case} (h : c.Storable) : c.kept.Storable where
  title_isName := h.title_isName
  tags_eq := h.tags_eq
  timed e he := (Event.documented_proper h.timed e he).valid
  createdAt_offset := h.createdAt_offset
  history_proper := Event.documented_proper h.timed
  formData_scalar := h.formData_scalar.finite

/-- A case loses nothing exactly if the offsets in its history have whole minutes and all its
numbers are finite. -/
theorem Case.kept_eq_self_iff {c : Case} :
    c.kept = c ↔ (∀ e ∈ c.history, ∀ o, e.completedAt.offset = some o → 60 ∣ o) ∧
      ∀ p ∈ c.formData, ∀ x, p.2 = .float x → Decimal.isFinite x = true := by
  rw [← Fields.finite_eq_self_iff, ← Event.map_documented_eq_self_iff]
  constructor
  · exact fun h => ⟨congrArg Case.history h, congrArg Case.formData h⟩
  · rintro ⟨hhistory, hdata⟩
    rw [kept, hhistory, hdata]

/-- A case that can be stored loses nothing but numbers that are not finite. -/
theorem Case.Storable.kept_eq_self_iff {c : Case} (h : c.Storable) :
    c.kept = c ↔ ∀ p ∈ c.formData, ∀ x, p.2 = .float x → Decimal.isFinite x = true := by
  have hminutes : ∀ e ∈ c.history, ∀ o, e.completedAt.offset = some o → 60 ∣ o :=
    fun e he o ho => ((h.history_proper e he).offset_minutes o ho).1
  rw [Case.kept_eq_self_iff, and_iff_right hminutes]

/-- A case that was read from a row has the id of the row. -/
theorem CaseRow.id_of_read {r : CaseRow} {c : Case} (h : r.read = .ok c) : c.id = r.id := by
  rw [read, Checked.toExcept_eq_ok] at h
  have hid : some (Value.text r.id) = some (.text c.id) := (Case.readFields_eq_ok.mp h).get?_id
  rw [Option.some.injEq, Value.text.injEq] at hid
  exact hid.symm

/-- A case that was read from a row was opened in universal time, when the wall clock read as the
row says. -/
theorem CaseRow.createdAt_of_read {r : CaseRow} {c : Case} (h : r.read = .ok c) :
    c.createdAt = r.createdAt.asUniversal := by
  rw [read, Checked.toExcept_eq_ok] at h
  exact (Checked.ok.inj (Case.readFields_eq_ok.mp h).createdAt).symm

/-- A legible case is read from its row: as one opened in universal time, with what documents keep
of its history and the values that JSON holds. -/
theorem Case.Legible.read_ofCase {c : Case} (h : c.Legible) : (CaseRow.ofCase c).read = .ok
    { c with
      createdAt := c.createdAt.asUniversal
      history := c.history.map Event.documented
      formData := Value.portableFields c.formData } := by
  rw [CaseRow.read, Checked.toExcept_eq_ok, Case.readFields_eq_ok]
  -- Field by field, what the row has of a legible case passes the check under which it is read.
  exact {
    id := Fields.require_of_get? rfl rfl
    appId := Fields.require_of_get? rfl rfl
    title := Fields.require_of_get? rfl
      (Reader.checking_eq_ok.mpr ⟨c.title, rfl, h.title_isName.checkNotBlank⟩)
    description := Fields.optional_of_get? rfl rfl
    status := Fields.optional_of_get? rfl (Reader.choice_word c.status)
    priority := Fields.optional_of_get? rfl (Reader.choice_word c.priority)
    assigneeId := Fields.optional_of_get? rfl (Reader.nullable_text_eq_ok.mpr rfl)
    client := Fields.optional_of_get? rfl rfl
    tags := Fields.optional_of_get? rfl
      (Checked.map_eq_ok'.mpr ⟨c.tags, Reader.list_ofTexts c.tags, h.tags_eq⟩)
    createdAt := Fields.require_of_get? rfl rfl
    currentStep := Fields.optional_of_get? rfl (Reader.nullable_text_eq_ok.mpr rfl)
    history := Fields.optional_of_get? rfl (Event.list_toValue h.timed)
    formData := Fields.optional_of_get? rfl rfl }

/-- A case comes back from its row as it is kept. -/
theorem CaseRow.read_ofCase {c : Case} (h : c.Storable) : (ofCase c).read = .ok c.kept := by
  have hopened : c.createdAt.asUniversal = c.createdAt := by
    rw [Timestamp.asUniversal, ← h.createdAt_offset]
  rw [h.toLegible.read_ofCase, hopened, h.formData_scalar.portableFields_eq, Case.kept]

/-- What is read from the row of a case whose steps were left at times has what documents keep of
the history, and the step of the case, and its row can be read in turn. -/
theorem CaseRow.of_read_ofCase {c c' : Case} (h : c.Timed) (hread : (ofCase c).read = .ok c') :
    c'.history = c.history.map Event.documented ∧ c'.currentStep = c.currentStep ∧
      c'.Legible := by
  rw [read, Checked.toExcept_eq_ok, Case.readFields_eq_ok] at hread
  -- The row has the entries as they were written, so that what was read are their readings.
  have hentries : Reader.list Event.read (.list (c.history.map Event.toValue)) = .ok c'.history :=
    Fields.read_of_optional rfl hread.history
  have hstep : Reader.nullable Reader.text (.ofText? c.currentStep) = .ok c'.currentStep :=
    Fields.read_of_optional rfl hread.currentStep
  have hkept : c'.history = c.history.map Event.documented :=
    Checked.ok.inj (hentries.symm.trans (Event.list_toValue h))
  refine ⟨hkept, ?_, hread.title_isName, hread.dropBlank_tags, fun e he => ?_⟩
  · exact Checked.ok.inj (hstep.symm.trans (Reader.nullable_text_eq_ok.mpr rfl))
  · exact (Event.documented_proper h e (hkept ▸ he)).valid

/-- What is read from the row of a case was opened in universal time, and its values are durable. -/
theorem CaseRow.durable_of_read_ofCase {c c' : Case} (h : (ofCase c).read = .ok c') :
    c'.createdAt.asUniversal = c'.createdAt ∧ c'.formData.Durable := by
  constructor
  · rw [createdAt_of_read h]
    rfl
  · rw [read, Checked.toExcept_eq_ok, Case.readFields_eq_ok] at h
    have hvalues : Reader.fields (.object (Value.portableFields c.formData)) = .ok c'.formData :=
      Fields.read_of_optional rfl h.formData
    rw [← Checked.ok.inj hvalues]
    exact Fields.durable_portableFields _

end CaseFlow
