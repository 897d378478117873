import CaseFlow.Proofs.Service.History

/-!
# The apps that cases belong to

A case names its app by an id, and the tables of the store do not enforce that there is such an app.
Three things do: a case is kept only where its app is stored, no app loses or changes its id while
it is stored, and an app that is removed takes its cases along. So no case is ever orphaned, also
not one that was saved under another app than before, and removing an app removes exactly the cases
that belong to it at that moment (`World.Reachable.owned`).
-/

namespace CaseFlow

open Service

variable {w w₁ w' : World} {id : Option String}

/-- Every app has an id of its own, and every case belongs to an app that is stored. -/
structure Store.Owned (s : Store) : Prop where
  /-- The ids of the apps are distinct. -/
  appIds_nodup : s.appIds.Nodup
  /-- The app of a case is among them. -/
  appId_mem : ∀ r ∈ s.cases, r.appId ∈ s.appIds

/-- Store `s'` is store `s` without the row `r` of an app, the only one under its id, and without
the cases of that app; the users, the other apps and the other cases stay, in their order. -/
def Store.RemovesApp (s : Store) (r : AppRow) (s' : Store) : Prop :=
  ∃ before after, s.apps = before ++ r :: after ∧ (∀ q ∈ before ++ after, q.id ≠ r.id) ∧
    s' = { s with apps := before ++ after, cases := s.cases.filter (·.appId != r.id) }

/-! ## Changes to the tables -/

namespace Store

variable {s s' : Store} {r : AppRow} {appId : String}

/-- The app ids of a store are the ids under which it finds an app. -/
theorem mem_appIds : appId ∈ s.appIds ↔ (s.app? appId).isSome = true := by
  rw [appIds, List.mem_map, app?, List.find?_isSome]
  simp only [beq_iff_eq]

namespace Owned

theorem of_eq (h : s.Owned) (happs : s'.appIds = s.appIds) (hcases : s'.cases = s.cases) :
    s'.Owned := by
  constructor
  · rw [happs]
    exact h.appIds_nodup
  · rw [happs, hcases]
    exact h.appId_mem

/-- Whatever app a case belonged to before, it belongs to a stored one after it is kept. -/
theorem keepCase (h : s.Owned) {c : Case} (happ : (s.app? c.appId).isSome = true) :
    (s.keepCase c).Owned := by
  have hids : (s.keepCase c).appIds = s.appIds := congrArg (List.map _) (s.apps_keepCase c)
  constructor
  · rw [hids]
    exact h.appIds_nodup
  · intro q hq
    rw [hids]
    have hkept : q ∈ s.casesAfter (.keep c) := hq
    -- The case that is kept belongs to an app that is there; the others are as they were.
    rcases mem_casesAfter hkept with hold | ⟨_, hsame, rfl⟩
    · exact h.appId_mem q hold
    · obtain rfl := CaseChange.keep.inj hsame
      exact mem_appIds.mpr happ

/-- A new app takes no case from its owner. -/
theorem addApp (h : s.Owned) (hfree : s.app? r.id = none) : (s.addApp r).Owned := by
  have hids : (s.addApp r).appIds = s.appIds ++ [r.id] := List.map_append
  constructor
  · -- The new id is none of the old ones.
    rw [hids, List.nodup_append]
    refine ⟨h.appIds_nodup, List.nodup_singleton _, fun x hx y hy hxy => ?_⟩
    rw [hxy, List.mem_singleton.mp hy, mem_appIds, hfree] at hx
    cases hx
  · intro q hq
    rw [hids]
    exact List.mem_append_left _ (h.appId_mem q hq)

theorem replaceApp (h : s.Owned) (r : AppRow) : (s.replaceApp r).Owned :=
  h.of_eq (appIds_replaceApp r) rfl

/-- With an app its cases go, so no case is left without an owner. -/
theorem removeApp (h : s.Owned) (appId : String) : (s.removeApp appId).Owned := by
  have hids : (s.removeApp appId).appIds = s.appIds.filter (· != appId) := by
    rw [appIds, appIds, List.filter_map]
    rfl
  constructor
  · rw [hids]
    exact h.appIds_nodup.filter _
  · -- A case that stays belongs to another app, which stays as well.
    intro q hq
    obtain ⟨hq, hother⟩ := List.mem_filter.mp hq
    rw [hids, List.mem_filter]
    exact ⟨h.appId_mem q hq, hother⟩

/-- The row that is found under an id is the one that is removed, and no other row of an app is. -/
private theorem removesApp (h : s.Owned) (hr : s.app? appId = some r) :
    s.RemovesApp r (s.removeApp r.id) := by
  obtain ⟨before, after, happs, hothers⟩ :=
    exists_split_of_nodup h.appIds_nodup (List.mem_of_find?_eq_some hr)
  refine ⟨before, after, happs, hothers, ?_⟩
  have hkept (rows : List AppRow) (hrows : ∀ q ∈ rows, q.id ≠ r.id) :
      rows.filter (·.id != r.id) = rows :=
    List.filter_eq_self.mpr fun q hq => bne_iff_ne.mpr (hrows q hq)
  -- Before and behind the row there is none with its id.
  have hself : (r.id != r.id) = false := bne_self_eq_false r.id
  rw [Store.removeApp, happs, List.filter_append, List.filter_cons, hself,
    hkept before fun q hq => hothers q (List.mem_append_left _ hq),
    hkept after fun q hq => hothers q (List.mem_append_right _ hq)]
  rfl

end Owned

end Store

/-! ## What services do to them -/

/-- Every case has its app in world `w'`, if every one has in world `w`. -/
def World.KeepsOwned (w w' : World) : Prop := w.store.Owned → w'.store.Owned

namespace World

private theorem sequential_keepsOwned : Sequential KeepsOwned where
  becomes h hw := by rwa [h.store_eq]
  trans h h₁ := h₁ ∘ h

theorem ChangesUsers.keepsOwned (h : w.ChangesUsers w') : w.KeepsOwned w' :=
  fun hw => hw.of_eq (congrArg (List.map _) h.apps_eq) h.sparesCases.cases_eq

/-- A case is kept under an app that is there. -/
theorem Keeps.keepsOwned {c : Case} (h : w.Keeps c w') : w.KeepsOwned w' := by
  intro hw
  rw [h.store_eq]
  exact hw.keepCase h.app_stored

end World

namespace Apps

/-- In a store that is ready, removing an app tells whether there was one, and removes it. -/
private theorem perform_remove (hready : w.store.condition = .ready) (id : Option String) :
    ∃ w', (remove id).perform w = (.ok (id.bind w.store.app?).isSome, w') ∧
      w'.store = (id.bind w.store.app?).elim w.store fun r => w.store.removeApp r.id := by
  obtain ⟨w₁, hnote, hstore⟩ : ∃ w₁, (note .apps .info
      s!"Deleting app with ID: {Error.idText id}").perform w = (.ok (), w₁) ∧
      w₁.store = w.store := ⟨_, rfl, rfl⟩
  rw [← hstore] at hready ⊢
  rw [remove, perform_bind_of_ok hnote,
    perform_bind_of_ok (perform_query_eq_ok.mpr ⟨hready, rfl, rfl⟩)]
  cases id.bind w₁.store.app? with
  | none => exact ⟨_, rfl, rfl⟩
  | some r => exact ⟨_, rfl, rfl⟩

end Apps

/-- No operation orphans a case, and none adds an app under an id that is taken. -/
theorem Operation.keepsOwned (op : Operation) : op.service.Leads World.KeepsOwned := by
  refine leads_of_writes World.sequential_keepsOwned fun {w w'} h => ?_
  -- An app is added under a free id only, and goes with its cases.
  cases h with
  | enrols _ henrols => exact henrols.changesUsers.keepsOwned
  | addApp _ hstore hfree =>
    intro hw
    rw [hstore]
    exact hw.addApp hfree
  | replaceApp _ _ hstore =>
    intro hw
    rw [hstore]
    exact hw.replaceApp _
  | removeApp _ hstore =>
    intro hw
    rw [hstore]
    exact hw.removeApp _
  | keeps _ hkeeps => exact hkeeps.keepsOwned

/-! ## Worlds that operations lead to -/

/-- A store that operations lead to can be used. -/
theorem World.Reachable.ready (h : w.Reachable) : w.store.condition = .ready := by
  induction h with
  | empty h => rw [h]
  | after _ hstore op ih => rw [op.condition_after, hstore, ih]

/-- In every store that operations lead to, every case belongs to an app that is stored. An app is
removed exactly if it is stored; then its row goes and exactly the cases that belong to it, and the
users, the other apps and the other cases stay. -/
theorem World.Reachable.owned (h : w.Reachable) :
    w.store.Owned ∧ ∀ w₁ : World, w₁.store = w.store → ∀ id : Option String,
      ∃ w', (Apps.remove id).perform w₁ = (.ok (id.bind w.store.app?).isSome, w') ∧
        (id.bind w.store.app? = none → w'.store = w.store) ∧
        ∀ r, id.bind w.store.app? = some r → w.store.RemovesApp r w'.store := by
  have howned : w.store.Owned := by
    induction h with
    | empty h =>
      rw [h]
      exact ⟨List.nodup_nil, fun r hr => by cases hr⟩
    | after _ hstore op ih =>
      -- Whatever became of the world in between, the operation starts from the same store.
      refine op.keepsOwned _ ?_
      rwa [hstore]
  refine ⟨howned, fun w₁ hstore id => ?_⟩
  -- The store is ready, so that the removal succeeds, whether there is an app or not.
  have hready : w₁.store.condition = .ready := by rw [hstore, h.ready]
  obtain ⟨w', hperform, hw'⟩ := Apps.perform_remove hready id
  rw [hstore] at hperform hw'
  refine ⟨w', hperform, fun hnone => ?_, fun r hr => ?_⟩
  · rw [hw', hnone]
    rfl
  · obtain ⟨appId, -, hfound⟩ := Option.bind_eq_some_iff.mp hr
    rw [hw', hr]
    exact howned.removesApp hfound

/-! ## A case that moves between apps -/

namespace Sample

/-- The opened world with a second app. The case of the first one is saved under the second, and
another case is opened in the first. -/
def movedWorld : World :=
  (((openedWorld.after (.createApp { founding with id := some "app-2" })).after
    (.saveCase { id := "case-1", appId := "app-2", title := "Report", createdAt := noon })).after
      (.createCase (some "app-1") { opening with caseId := .text "case-2" }))

private theorem reachable_movedWorld : movedWorld.Reachable :=
  .after (.after (.after reachable_openedWorld rfl _) rfl _) rfl _

end Sample

/-- Removing the first app takes the case that was opened in it last, and spares the one that was
saved under the second app. -/
theorem World.Reachable.owned_sample :
    ∃ r w', (Apps.remove (some "app-1")).perform Sample.movedWorld = (.ok true, w') ∧
      Sample.movedWorld.store.RemovesApp r w'.store ∧
      Sample.movedWorld.store.caseIds = ["case-1", "case-2"] ∧ w'.store.caseIds = ["case-1"] := by
  obtain ⟨-, hremove⟩ := Sample.reachable_movedWorld.owned
  obtain ⟨w', hperform, -, hremoves⟩ := hremove Sample.movedWorld rfl (some "app-1")
  obtain ⟨r, hr⟩ : ∃ r, Sample.movedWorld.store.app? "app-1" = some r :=
    Option.isSome_iff_exists.mp (by decide +kernel)
  have hfound : (some "app-1").bind Sample.movedWorld.store.app? = some r := hr
  -- Which case is left is computed; that it is spared for its app is the theorem.
  have hids : w'.store.caseIds = ["case-1"] := by
    have hstore : ((Apps.remove (some "app-1")).perform Sample.movedWorld).2.store.caseIds
        = ["case-1"] := by decide +kernel
    rwa [hperform] at hstore
  rw [hfound] at hperform
  exact ⟨r, w', hperform, hremoves r hfound, by decide +kernel, hids⟩

end CaseFlow
