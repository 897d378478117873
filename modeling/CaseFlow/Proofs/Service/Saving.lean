import CaseFlow.Proofs.Service.Ownership
import CaseFlow.Proofs.Service.Seeding

/-!
# Saving a case

A case that is saved is found again under its id, with all its fields as they were but one: the row
keeps what the wall clock read when the case was opened, and drops how far that clock was off
universal time; whoever reads the row takes the reading for universal time. So the case that is
found was opened later than the one that was saved by the whole offset, earlier if that is negative,
and at the same instant only if there is none (`Cases.save_shifts_instant`). The times of the
history take another way, as texts that show the hours and minutes of their offsets, and come back
as they were if the offsets have no more than these.
-/

namespace CaseFlow

open Service

variable {w : World} {c : Case}

/-- A time that is taken for universal time is moved by its offset. -/
theorem Timestamp.instant_asUniversal_of_offset {t : Timestamp} {o : Int}
    (h : t.offset = some o) : t.asUniversal.instant = t.instant + o * 1000000 := by
  rw [instant_asUniversal, instant, h, Option.getD_some]
  omega

/-- A case that can be read again is found after it is saved, as it is read from its row. -/
theorem Cases.find_save (hready : w.store.condition = .ready)
    (happ : (w.store.app? c.appId).isSome = true) (hc : c.Legible) :
    ∃ w', (save c).perform w = (.ok (), w') ∧ ((find (some c.id)).perform w').1 = .ok
      { c with
        createdAt := c.createdAt.asUniversal
        history := c.history.map Event.documented
        formData := Value.portableFields c.formData } := by
  obtain ⟨w', hsave, hstore⟩ := save_comesTo hready happ w rfl
  refine ⟨w', hsave, ?_⟩
  have hready' : w'.store.condition = .ready := by
    rw [hstore, Store.condition_keepCase, hready]
  -- The row of the case is under its id, whatever was there before.
  have hrow : requireRow w'.store (some c.id) = .ok (.ofCase c) := by
    rw [requireRow_eq_ok, Option.bind_some, hstore, Store.case?_keepCase, if_pos rfl]
  have hread : readRow (.ofCase c) = .ok _ := mapError_eq_ok.mpr hc.read_ofCase
  rw [perform_find hready', hrow]
  exact bind_eq_ok.mpr ⟨.ofCase c, rfl, hread⟩

/-- A case that is accepted, with times in its history whose offsets have whole minutes and with
JSON as its form values, as all that are read from JSON have (`Case.history_proper_of_read`,
`Case.portable_of_read`), can be saved in a store that is ready and has its app, whatever was stored
under its id. Then it is found as it was, but for the offset of the time at which it was opened: its
wall clock reading comes back as one of universal time. That is later by the offset, and the same
instant exactly if the case was opened in universal time. -/
theorem Cases.save_shifts_instant {v : Value} {o : Int} (hready : w.store.condition = .ready)
    (happ : (w.store.app? c.appId).isSome = true) (hread : Case.read v = .ok c)
    (hhistory : ∀ e ∈ c.history, e.completedAt.Proper)
    (hdata : Value.portableFields c.formData = c.formData)
    (hoffset : c.createdAt.offset = some o) :
    ∃ w' c', (save c).perform w = (.ok (), w') ∧ ((find (some c.id)).perform w').1 = .ok c' ∧
      c' = { c with createdAt := c.createdAt.asUniversal } ∧
      c'.createdAt.instant = c.createdAt.instant + o * 1000000 ∧
      (c'.createdAt.instant = c.createdAt.instant ↔ o = 0) := by
  have hlegible := Case.legible_of_accepted hread fun e he => (hhistory e he).valid
  obtain ⟨w', hsave, hfind⟩ := find_save hready happ hlegible
  have hinstant := Timestamp.instant_asUniversal_of_offset hoffset
  refine ⟨w', _, hsave, hfind, ?_, hinstant, ?_⟩
  · -- Documents keep whole minutes of an offset and finite numbers, and there is nothing else to
    -- lose.
    rw [hdata, Event.map_documented_eq hhistory]
  · show c.createdAt.asUniversal.instant = c.createdAt.instant ↔ o = 0
    omega

/-! ## A case from further east -/

namespace Sample

/-- What is known about a case that was opened at ten, five and a half hours ahead of universal
time. -/
def easternValue : Value :=
  .object [("id", .text "c1"), ("app_id", .text "app-1"), ("title", .text "Visa"),
    ("created_at", .text "2024-01-01T10:00:00+05:30"),
    ("workflow_history", .list [.object [("step_id", .text "start"), ("user_id", .text "user-1"),
      ("completed_at", .text "2024-01-01T10:00:00+05:30")]]),
    ("form_data", .object [("amount", .int 5)])]

/-- The time that it gives. -/
def easternTen : Timestamp := { noon with second := 36000, offset := some 19800 }

/-- The case. -/
def easternCase : Case :=
  { id := "c1", appId := "app-1", title := "Visa", createdAt := easternTen,
    history := [⟨"start", "user-1", easternTen⟩], formData := [("amount", .int 5)] }

theorem read_easternValue : Case.read easternValue = .ok easternCase := rfl

theorem portable_easternValue : easternValue.portable = easternValue := rfl

theorem isSome_app?_openedWorld : (openedWorld.store.app? "app-1").isSome = true := by
  decide +kernel

end Sample

/-- The case from further east comes back with its history, opened five and a half hours later. -/
theorem Cases.save_shifts_instant_sample :
    ∃ w' c', (save Sample.easternCase).perform Sample.openedWorld = (.ok (), w') ∧
      ((find (some "c1")).perform w').1 = .ok c' ∧ c'.history = Sample.easternCase.history ∧
      c'.createdAt.instant = Sample.easternTen.instant + 19800 * 1000000 := by
  have hread := Sample.read_easternValue
  have hproper := Case.history_proper_of_read Sample.portable_easternValue hread
  have hdata := Case.portable_of_read Sample.portable_easternValue hread
  have hoffset : Sample.easternCase.createdAt.offset = some 19800 := rfl
  obtain ⟨w', c', hsave, hfind, hsame, hlater, -⟩ := save_shifts_instant
    Sample.reachable_openedWorld.ready Sample.isSome_app?_openedWorld hread
    hproper hdata hoffset
  have hhistory : c'.history = Sample.easternCase.history := by rw [hsame]
  exact ⟨w', c', hsave, hfind, hhistory, hlater⟩

/-- So it is not so that every case which is read from JSON is found, after it is saved, as one that
was opened at the same instant. -/
theorem Cases.save_loses_instant :
    ¬ ∀ (w : World) (v : Value) (c : Case), w.store.condition = .ready →
      (w.store.app? c.appId).isSome = true → v.portable = v → Case.read v = .ok c →
      c.createdAt.isAware = true → ∃ w' c', (save c).perform w = (.ok (), w') ∧
        ((find (some c.id)).perform w').1 = .ok c' ∧
        c'.createdAt.instant = c.createdAt.instant := by
  intro hkeeps
  have hready := Sample.reachable_openedWorld.ready
  have happ := Sample.isSome_app?_openedWorld
  obtain ⟨w', c', hsave, hfind, hsame⟩ := hkeeps _ _ Sample.easternCase hready happ
    Sample.portable_easternValue Sample.read_easternValue rfl
  have hproper :=
    Case.history_proper_of_read Sample.portable_easternValue Sample.read_easternValue
  have hlegible :=
    Case.legible_of_accepted Sample.read_easternValue fun e he => (hproper e he).valid
  obtain ⟨w₁, hsave₁, hfind₁⟩ := find_save hready happ hlegible
  -- Saving and finding have one outcome each, so that it is the case known from the theorem.
  obtain rfl : w' = w₁ := congrArg Prod.snd (hsave.symm.trans hsave₁)
  obtain rfl := Except.ok.inj (hfind.symm.trans hfind₁)
  -- The case was opened five and a half hours ahead, so its instant moves by as much.
  have hoffset : Sample.easternCase.createdAt.offset = some 19800 := rfl
  have hlater := Timestamp.instant_asUniversal_of_offset hoffset
  simp only [hlater] at hsame
  omega

end CaseFlow
