import CaseFlow.Proofs.Editor.Gating
import CaseFlow.Proofs.Service.Lasting
import CaseFlow.Proofs.Service.Users

/-!
# Operations that gate steps

A step of a stored workflow is gated after an operation only if it was gated to the same user
before, or if the operation hands over a workflow in which it is (`Operation.keepsGates`), or if it
is an edit that patches the step and names the user (`Apps.edit_keepsGates`).

Editing goes by what is read of a workflow and not by what is stored of it. So the ids of stored
nodes must not be changed by reading: they are trimmed, and this lasts
(`Document.lasting_trimmed`).
-/

namespace CaseFlow

open CaseFlow.Text Service

variable {w w₁ : World} {s : Store} {id : Option String} {d d' : Document}
  {appId nodeId : String} {v : Value} {new : String → String → Value → Prop}

/-! ## Ids that reading leaves alone -/

namespace Document

/-- The ids of nodes have no blanks around them. -/
def Trimmed (d : Document) : Prop := ∀ n ∈ d.nodes, trim n.id = n.id

instance (d : Document) : Decidable d.Trimmed :=
  inferInstanceAs (Decidable (∀ n ∈ d.nodes, trim n.id = n.id))

/-- That ids are trimmed is not lost. -/
theorem lasting_trimmed : Lasting Trimmed where
  kept {d} hd m hm := by
    obtain ⟨n, hn, rfl⟩ := List.mem_map.mp hm
    exact hd n hn
  of_read {d d'} _ hread := by
    have haccepted : d'.Accepted := ⟨_, hread⟩
    exact haccepted.sound.id_trimmed
  revised hsound _ hrevises := (hrevises.sound hsound).id_trimmed

/-- Where ids are trimmed, whoever reads a workflow gets its gates. -/
private theorem Trimmed.gates_of_read (hd : d.Trimmed) (h : read d.toValue = .ok d')
    (hgates : d'.Gates nodeId v) : d.Gates nodeId v := by
  obtain ⟨m, hm, rfl, rfl⟩ := hgates
  obtain ⟨n, hn, hread⟩ := exists_of_forall₂ (forall₂_of_read h).1.flip hm
  refine ⟨n, hn, ?_, (type_assignee_of_readNode hread).2.symm⟩
  rw [id_of_readNode hread]
  exact (hd n hn).symm

end Document

theorem Seed.trimmed_defaultWorkflow : Seed.defaultWorkflow.Trimmed := by decide +kernel

/-! ## Gates in a store -/

/-- The node with a given id has a given assignee, in the workflow that is stored of an app. -/
def Store.Gates (s : Store) (appId nodeId : String) (v : Value) : Prop :=
  ∃ r, s.app? appId = some r ∧ r.workflow.Gates nodeId v

instance (s : Store) (appId nodeId userId : String) :
    Decidable (s.Gates appId nodeId (.text userId)) :=
  decidable_of_iff ((s.app? appId).any fun r => r.workflow.nodes.any fun n =>
    n.id == nodeId && n.assignee.text? == some userId) (by
    simp [Store.Gates, Document.Gates, Option.any_eq_true, Value.text?_eq_some])

namespace Store

variable {r : AppRow}

/-- A new app brings the gates of its own workflow only. -/
private theorem gates_addApp (h : (s.addApp r).Gates appId nodeId v) :
    s.Gates appId nodeId v ∨ r.workflow.Gates nodeId v := by
  obtain ⟨q, hq, hgates⟩ := h
  rw [app?, addApp, List.find?_append, Option.or_eq_some_iff] at hq
  rcases hq with hq | ⟨-, hq⟩
  · exact .inl ⟨q, hq, hgates⟩
  · obtain rfl := List.mem_singleton.mp (List.mem_of_find?_eq_some hq)
    exact .inr hgates

/-- An app that is replaced brings the gates of its new workflow only. -/
private theorem gates_replaceApp (h : (s.replaceApp r).Gates appId nodeId v) :
    s.Gates appId nodeId v ∨ appId = r.id ∧ r.workflow.Gates nodeId v := by
  obtain ⟨q, hq, hgates⟩ := h
  rw [app?_replaceApp] at hq
  split at hq
  · next hid =>
    obtain ⟨_, -, rfl⟩ := Option.map_eq_some_iff.mp hq
    exact .inr ⟨hid, hgates⟩
  · exact .inl ⟨q, hq, hgates⟩

/-- Removing an app brings no gate. -/
private theorem gates_removeApp {removed : String}
    (h : (s.removeApp removed).Gates appId nodeId v) :
    s.Gates appId nodeId v := by
  obtain ⟨q, hq, hgates⟩ := h
  have hstays : ((q.id != removed) && (q.id == appId)) = true := by
    rw [app?, removeApp, List.find?_filter] at hq
    simpa using List.find?_some hq
  refine ⟨q, ?_, hgates⟩
  rw [app?, removeApp, List.find?_filter] at hq
  rw [← hq, app?]
  -- The row that was removed has another id than the one that is looked for.
  rw [Bool.and_eq_true, bne_iff_ne, beq_iff_eq] at hstays
  obtain ⟨hne, rfl⟩ := hstays
  congr 1
  funext x
  by_cases hx : x.id = q.id
  · simp [hx, hne]
  · simp [hx]

end Store

/-- Every step that is gated in world `w'` is gated so in world `w`, or `new` allows it. -/
def World.KeepsGates (new : String → String → Value → Prop) (w w' : World) : Prop :=
  ∀ appId nodeId v, v.truthy = true → w'.store.Gates appId nodeId v →
    w.store.Gates appId nodeId v ∨ new appId nodeId v

namespace World

theorem sequential_keepsGates (new : String → String → Value → Prop) :
    Sequential (KeepsGates new) where
  becomes h _ _ _ _ hgates := .inl (h.store_eq ▸ hgates)
  trans h h₁ appId nodeId v hv hgates :=
    (h₁ appId nodeId v hv hgates).elim (h appId nodeId v hv) .inr

/-- Whatever leaves the apps alone leaves the gates of their workflows alone. -/
theorem SparesApps.keepsGates (h : w.SparesApps w₁) : w.KeepsGates new w₁ := by
  rintro appId nodeId v - ⟨r, hr, hgates⟩
  rw [Store.app?, h] at hr
  exact .inl ⟨r, hr, hgates⟩

/-- A row that is put in the place of another adds its own gates, at most. -/
theorem KeepsGates.of_replaceApp {r : AppRow} (hstore : w₁.store = w.store.replaceApp r)
    (h : ∀ nodeId v, v.truthy = true → r.workflow.Gates nodeId v →
      w.store.Gates r.id nodeId v ∨ new r.id nodeId v) : w.KeepsGates new w₁ := by
  intro appId nodeId v hv hgates
  rw [hstore] at hgates
  rcases Store.gates_replaceApp hgates with hold | ⟨rfl, hown⟩
  · exact .inl hold
  · exact h nodeId v hv hown

end World

/-! ## Operations that hand workflows over -/

/-- An operation hands a workflow over to an app, to be taken over as it is. -/
inductive Operation.HandsOver : Operation → String → Document → Prop where
  /-- An app is created with the workflow, under whatever id. -/
  | create {o : Apps.Founding} {appId : String} {d : Document} (h : o.workflow = some d) :
      HandsOver (.createApp o) appId d
  /-- The workflow replaces the one of an app. -/
  | replace {appId : String} {d : Document} : HandsOver (.replaceWorkflow (some appId) d) appId d

/-- A workflow that is handed over is one that the operation gives. -/
theorem Operation.HandsOver.mem_givenWorkflows {op : Operation} (h : op.HandsOver appId d) :
    d ∈ op.givenWorkflows := by
  cases h with
  | create h => exact Option.mem_toList.mpr h
  | replace => exact List.mem_singleton_self d

/-- An accepted document is kept as it is. -/
theorem Document.Accepted.kept_eq (hd : d.Accepted) : d.kept = d := hd.canonical_plain.2.kept_eq

/-- Nobody owns a step of the default workflow. -/
private theorem Seed.not_gates_defaultWorkflow (hv : v.truthy = true) :
    ¬Seed.defaultWorkflow.kept.Gates nodeId v := by
  have hfree : ∀ n ∈ Seed.defaultWorkflow.kept.nodes, n.assignee.truthy = false := by
    decide +kernel
  rintro ⟨n, hn, -, rfl⟩
  rw [hfree n hn] at hv
  cases hv

namespace Apps

/-- An app that is created adds the gates of its workflow, and the default one has none. -/
theorem create_keepsGates (o : Founding) (hgiven : ∀ d, o.workflow = some d →
    d.Accepted ∧ ∀ appId nodeId v, d.Gates nodeId v → new appId nodeId v) :
    (create o).Leads (World.KeepsGates new) := by
  refine .of_yields (World.sequential_keepsGates new) fun w => (create_yields o).mono ?_
  rintro a w' ⟨-, -, hworkflow, -, hstore⟩ appId nodeId v hv hgates
  rw [hstore] at hgates
  rcases Store.gates_addApp hgates with hold | hgates
  · exact .inl hold
  · have hkept : a.workflow.kept.Gates nodeId v := hgates
    rw [hworkflow] at hkept
    -- Without a workflow the app gets the default one, which gates nothing.
    cases ho : o.workflow with
    | none =>
      rw [ho, Option.getD_none] at hkept
      exact absurd hkept (Seed.not_gates_defaultWorkflow hv)
    | some d =>
      obtain ⟨haccepted, hnew⟩ := hgiven d ho
      rw [ho, Option.getD_some, haccepted.kept_eq] at hkept
      exact .inr (hnew appId nodeId v hkept)

/-- An app that takes a workflow over gets the gates of that, and no other app does. -/
private theorem replaceWorkflow_keepsGates (hgiven : ∀ appId, id = some appId →
    d.Accepted ∧ ∀ nodeId v, d.Gates nodeId v → new appId nodeId v) :
    (replaceWorkflow id d).Leads (World.KeepsGates new) := by
  refine .of_yields (World.sequential_keepsGates new) fun w => replaceWorkflow_yields.mono ?_
  rintro f w' ⟨-, -, r, hr, hstore⟩
  obtain ⟨haccepted, hnew⟩ := hgiven r.id (Store.eq_id_of_app? hr)
  refine .of_replaceApp hstore fun nodeId v _ hgates => .inr (hnew nodeId v ?_)
  rw [← haccepted.kept_eq]
  exact hgates

/-- The workflow of a row that is replaced is one of the store. -/
private theorem update_keepsGates (id name icon themeColor : Option String) :
    (update id name icon themeColor).Leads (World.KeepsGates new) := by
  refine update_leads (World.sequential_keepsGates new) ?_ name icon themeColor
  intro w r r' hr hid hworkflow
  refine .of_replaceApp rfl fun nodeId v _ hgates => .inl ⟨r, ?_, ?_⟩
  · rw [hid, ← Option.bind_some (f := w.store.app?), ← Store.eq_id_of_app? hr]
    exact hr
  · rwa [← hworkflow]

private theorem remove_keepsGates (id : Option String) :
    (remove id).Leads (World.KeepsGates new) := by
  refine remove_leads (World.sequential_keepsGates new) fun hstore appId nodeId v _ hgates => ?_
  rw [hstore] at hgates
  exact .inl (Store.gates_removeApp hgates)

/-- An edit gates nothing that was not gated so before but the node that it patches, where the patch
may name those whom `new` allows. -/
theorem edit_keepsGates (hw : w.store.EachWorkflow Document.Trimmed) (id : Option String)
    (c : Command) (hnew : ∀ appId nodeId v, c.Gates nodeId v → v.truthy = true →
      new appId nodeId v.portable) : w.KeepsGates new ((edit id c).perform w).2 := by
  rcases edit_spec id c w with h | ⟨row, d, d', loops, made, ids, ids', hrow, hread, happly, hstore⟩
  · exact (World.sequential_keepsGates new).becomes h
  have haccepted : d.Accepted := ⟨_, hread⟩
  refine .of_replaceApp hstore ?_
  rintro _ _ hv ⟨kept, hkept, rfl, rfl⟩
  -- A gate in the new row comes from a node of the edited document, where it counts already.
  obtain ⟨m, hm, rfl⟩ : ∃ m ∈ d'.nodes, m.kept = kept := List.mem_map.mp hkept
  have hgated : m.isGated = true := Value.truthy_of_portable hv
  rcases Command.apply_gates happly hm hgated with hold | hpatch
  · -- The gate was read from the row, where it is a text and is kept as it is.
    have hnote : m.assignee.IsNote := by
      obtain ⟨n, hn, -, hassignee⟩ := hold
      rw [← hassignee]
      exact (haccepted.canonical_plain.2 n hn).assignee_isNote
    refine .inl ⟨row, ?_, ?_⟩
    · rw [Store.eq_id_of_app? hrow, Option.bind_some] at hrow
      exact hrow
    · show row.workflow.Gates m.id m.assignee.portable
      rw [hnote.portable_eq]
      exact (hw row (Store.app?_eq_some hrow)).gates_of_read hread hold
  · exact .inr (hnew row.id m.id m.assignee hpatch hgated)

end Apps

namespace Operation

/-- No operation but an edit gates a step that was not gated so before, unless it hands over a
workflow. -/
theorem keepsGates (op : Operation) (hop : op.checksWorkflows = true)
    (hedit : ∀ id c, op ≠ .edit id c) (hgiven : ∀ appId d, op.HandsOver appId d →
      d.Accepted ∧ ∀ nodeId v, d.Gates nodeId v → new appId nodeId v) :
    op.service.Leads (World.KeepsGates new) := by
  by_cases happs : op.onApps = false
  · exact fun w => (op.sparesApps happs w).keepsGates
  unfold service
  -- Apps are given workflows in three ways; all others leave the gates or are excluded.
  cases op with
  | seedApps as =>
    -- Apps that are seeded bring no workflow of their own.
    refine (Apps.seed_leads (World.sequential_keepsGates new)
      (fun o ho => Apps.create_keepsGates o ?_) as).map _
    intro d hd
    rw [ho] at hd
    cases hd
  | createApp o =>
    refine (Apps.create_keepsGates o fun d hd => ?_).map _
    exact ⟨(hgiven "" d (.create hd)).1, fun appId => (hgiven appId d (.create hd)).2⟩
  | updateApp id name icon themeColor =>
    exact (Apps.update_keepsGates id name icon themeColor).map _
  | deleteApp id => exact (Apps.remove_keepsGates id).map _
  | saveWorkflow id d => cases hop
  | replaceWorkflow id d =>
    refine (Apps.replaceWorkflow_keepsGates ?_).map _
    rintro appId rfl
    exact hgiven appId d .replace
  | command id ed c => cases hop
  | edit id c => exact absurd rfl (hedit id c)
  | _ => exact absurd rfl happs

end Operation

end CaseFlow
