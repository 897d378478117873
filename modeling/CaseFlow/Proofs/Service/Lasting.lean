import CaseFlow.Proofs.Editor.Structure
import CaseFlow.Proofs.Service.Operation

/-!
# Properties that workflows do not lose

A workflow comes into an installation as a whole, when an app is created with it or takes it over,
or it is saved by an editor. It is stored as it is given, and whoever reads it, or opens an editor
on it, gets what its row reads as. So a property that lasts when a workflow is stored, read and
revised (`Document.Lasting`), and that holds of every workflow which is taken over, holds of all
stored workflows and of all documents of editors (`World.Sustains`).

Editors fall behind: a document that an editor holds need not be the stored one, and saving it
undoes what others have saved. This is why the documents of editors are part of the invariant. A
command revises the editor's document, not the stored one, and what it saves is that revision.
-/

namespace CaseFlow

open Service

variable {w w₁ w₂ : World} {id : Option String} {d : Document} {P : Document → Prop}

/-- A property of workflows that is not lost when one is stored, read or revised. -/
structure Document.Lasting (P : Document → Prop) : Prop where
  /-- It is not lost when the workflow is stored, -/
  kept {d : Document} : P d → P d.kept
  /-- when it is read from what is stored, -/
  of_read {d d' : Document} : P d → Document.read d.toValue = .ok d' → P d'
  /-- or when a command revises it. -/
  revised {loops : Bool} {d d' : Document} : d.Sound → P d → d.RevisesTo loops d' → P d'

/-! ## Operations that leave the apps alone -/

/-- World `w'` has the apps of world `w`, with their workflows. -/
def World.SparesApps (w w' : World) : Prop := w'.store.apps = w.store.apps

private theorem World.sequential_sparesApps : World.Sequential World.SparesApps where
  becomes h := congrArg Store.apps h.store_eq
  trans h h₁ := Eq.trans h₁ h

theorem World.Keeps.sparesApps {c : Case} (h : w.Keeps c w₁) : w.SparesApps w₁ := by
  rw [World.SparesApps, h.store_eq, Store.apps_keepCase]

namespace Operation

/-- An operation on users or cases spares the apps. -/
theorem sparesApps (op : Operation) (hop : op.onApps = false) :
    op.service.Leads World.SparesApps := by
  refine leads_of_writes World.sequential_sparesApps fun {w w'} h => ?_
  cases h with
  | enrols _ henrols => exact henrols.changesUsers.apps_eq
  | addApp happs => rw [hop] at happs; cases happs
  | replaceApp happs => rw [hop] at happs; cases happs
  | removeApp happs => rw [hop] at happs; cases happs
  | keeps _ hkeeps => exact hkeeps.sparesApps

end Operation

/-! ## Stored workflows -/

/-- Every stored workflow has property `P`. -/
def Store.EachWorkflow (P : Document → Prop) (s : Store) : Prop := ∀ r ∈ s.apps, P r.workflow

/-- Every workflow stored in world `w'` has property `P`, if every one stored in world `w` has. -/
def World.KeepsEach (P : Document → Prop) (w w' : World) : Prop :=
  w.store.EachWorkflow P → w'.store.EachWorkflow P

namespace Store

variable {s : Store} {r : AppRow}

/-- An app that is found is one of the store. -/
theorem app?_eq_some (h : id.bind s.app? = some r) : r ∈ s.apps := by
  obtain ⟨appId, -, hfound⟩ := Option.bind_eq_some_iff.mp h
  exact List.mem_of_find?_eq_some hfound

theorem EachWorkflow.addApp (h : s.EachWorkflow P) (hr : P r.workflow) :
    (s.addApp r).EachWorkflow P := by
  intro q hq
  rcases List.mem_append.mp hq with hq | hq
  · exact h q hq
  · rw [List.mem_singleton.mp hq]
    exact hr

theorem EachWorkflow.replaceApp (h : s.EachWorkflow P) (hr : P r.workflow) :
    (s.replaceApp r).EachWorkflow P := by
  intro q hq
  obtain ⟨p, hp, rfl⟩ := List.mem_map.mp hq
  split
  · exact hr
  · exact h p hp

theorem EachWorkflow.removeApp (h : s.EachWorkflow P) (appId : String) :
    (s.removeApp appId).EachWorkflow P :=
  fun q hq => h q (List.mem_filter.mp hq).1

end Store

namespace World

theorem sequential_keepsEach (P : Document → Prop) : Sequential (KeepsEach P) where
  becomes h hw := by rwa [h.store_eq]
  trans h h₁ := h₁ ∘ h

/-- Whatever leaves the apps alone leaves their workflows alone. -/
theorem SparesApps.keepsEach (h : w.SparesApps w₁) : w.KeepsEach P w₁ := by
  intro hw r hr
  rw [h] at hr
  exact hw r hr

end World

/-! ## What services do to them -/

namespace Apps

variable (hP : Document.Lasting P)
include hP

/-- The workflow of an app has the property of all that are stored, and is sound. -/
theorem lasting_of_workflow (hw : w.store.EachWorkflow P)
    (h : ((workflow id).perform w).1 = .ok d) : d.Sound ∧ P d := by
  obtain ⟨-, r, hr, hread⟩ := workflow_eq_ok.mp h
  have haccepted : d.Accepted := ⟨_, hread⟩
  exact ⟨haccepted.sound, hP.of_read (hw r (Store.app?_eq_some hr)) hread⟩

/-- Creating an app keeps a property of the workflows, if its own workflow has it. -/
theorem create_keepsEach {o : Founding}
    (ho : (o.workflow.getD Seed.defaultWorkflow).Linked →
      P (o.workflow.getD Seed.defaultWorkflow)) : (create o).Leads (World.KeepsEach P) := by
  refine .of_yields (World.sequential_keepsEach P) fun w => (create_yields o).mono ?_
  rintro a w' ⟨-, hlinked, hworkflow, -, hstore⟩ hw
  -- The workflow was checked as it was given, and it is kept in its row.
  rw [hworkflow] at hlinked
  rw [hstore]
  refine hw.addApp (hP.kept ?_)
  rw [hworkflow]
  exact ho hlinked

/-- Replacing a workflow keeps a property of the workflows, if the new one has it. -/
private theorem replaceWorkflow_keepsEach (hd : d.Linked → P d) :
    (replaceWorkflow id d).Leads (World.KeepsEach P) := by
  refine .of_yields (World.sequential_keepsEach P) fun w => replaceWorkflow_yields.mono ?_
  rintro f w' ⟨-, hlinked, r, -, hstore⟩ hw
  rw [hstore]
  exact hw.replaceApp (hP.kept (hd hlinked))

omit hP in
private theorem update_keepsEach (id name icon themeColor : Option String) :
    (update id name icon themeColor).Leads (World.KeepsEach P) := by
  refine update_leads (World.sequential_keepsEach P) ?_ name icon themeColor
  intro w r r' hr _ hworkflow hw
  refine hw.replaceApp ?_
  rw [hworkflow]
  exact hw r (Store.app?_eq_some hr)

omit hP in
private theorem remove_keepsEach (id : Option String) : (remove id).Leads (World.KeepsEach P) := by
  refine remove_leads (World.sequential_keepsEach P) fun {w w' appId} hstore hw => ?_
  rw [hstore]
  exact hw.removeApp appId

/-- An editor starts with a sound document that has the property of all stored workflows. -/
private theorem lasting_of_editorFor {ed : Editor} (hw : w.store.EachWorkflow P)
    (h : (editorFor id).perform w = (.ok ed, w₁)) :
    (ed.document.Sound ∧ P ed.document) ∧ w₁.store.EachWorkflow P := by
  have hbecomes : w.Becomes ((editorFor id).perform w).2 := editorFor_reads w
  rw [h] at hbecomes
  exact ⟨lasting_of_workflow hP hw (editorFor_eq_ok h), hbecomes.store_eq ▸ hw⟩

/-- A command leaves an editor with a sound document that has the property still, and saves no
other one. -/
private theorem command_keepsEach {ed ed' : Editor} {c : Command}
    {r : Except Failure (Document × Made)}
    (hed : ed.document.Sound ∧ P ed.document)
    (h : (command id ed c).perform w = (.ok (r, ed'), w₁)) :
    (ed'.document.Sound ∧ P ed'.document) ∧ w.KeepsEach P w₁ := by
  obtain ⟨r', ed₁, w', hperform, -, hcases⟩ := command_spec id ed c w
  rw [h] at hperform
  cases hperform
  rcases hcases with ⟨rfl, hbecomes⟩ | ⟨d, made, ids, ids', row, happly, -, rfl, -, hstore⟩
  · exact ⟨hed, (World.sequential_keepsEach P).becomes hbecomes⟩
  · -- The new document revises the editor's own, whatever the row holds that it is saved in.
    have hrevises := Command.apply_revisesTo hed.1 happly
    have hd : P d := hP.revised hed.1 hed.2 hrevises
    refine ⟨⟨hrevises.sound hed.1, hd⟩, fun hw => ?_⟩
    rw [hstore]
    exact hw.replaceApp (hP.kept hd)

/-- An edit keeps a lasting property of the workflows, since each command revises the document that
the editor read. -/
private theorem edit_keepsEach (id : Option String) (c : Command) :
    (edit id c).Leads (World.KeepsEach P) := by
  intro w
  rcases edit_spec id c w with h | ⟨row, d, d', loops, made, ids, ids', hrow, hread, happly, hstore⟩
  · exact (World.sequential_keepsEach P).becomes h
  · intro hw
    have haccepted : d.Accepted := ⟨_, hread⟩
    have hd : P d := hP.of_read (hw row (Store.app?_eq_some hrow)) hread
    have hrevises := Command.apply_revisesTo haccepted.sound happly
    rw [hstore]
    exact hw.replaceApp (hP.kept (hP.revised haccepted.sound hd hrevises))

end Apps

namespace Operation

/-- Whether an operation takes no workflow over unchecked: a workflow is saved without a check only
by an editor, of which it depends what is saved. -/
def checksWorkflows : Operation → Bool
  | saveWorkflow .. | command .. => false
  | _ => true

/-- The workflows that an operation is given to take over. -/
def givenWorkflows : Operation → List Document
  | createApp o => o.workflow.toList
  | saveWorkflow _ d | replaceWorkflow _ d => [d]
  | _ => []

/-- An operation that takes no workflow over unchecked leaves all of them with a lasting property,
if the default workflow and the one that it is given have the property where they pass the
check. -/
theorem keepsEach (hP : Document.Lasting P)
    (hdefault : Seed.defaultWorkflow.Linked → P Seed.defaultWorkflow) (op : Operation)
    (hop : op.checksWorkflows = true) (hgiven : ∀ d ∈ op.givenWorkflows, d.Linked → P d) :
    op.service.Leads (World.KeepsEach P) := by
  by_cases happs : op.onApps = false
  · exact fun w => (op.sparesApps happs w).keepsEach
  unfold service
  -- New workflows are the default one and the given one; an edit revises one that is stored.
  cases op with
  | seedApps as =>
    refine (Apps.seed_leads (World.sequential_keepsEach P)
      (fun o ho => Apps.create_keepsEach hP ?_) as).map _
    rw [ho]
    exact hdefault
  -- An app may be created with a workflow, or gets the default one.
  | createApp o =>
    refine (Apps.create_keepsEach hP ?_).map _
    cases ho : o.workflow with
    | none => exact hdefault
    | some d => exact hgiven d (by simp [givenWorkflows, ho])
  | updateApp id name icon themeColor => exact (Apps.update_keepsEach id name icon themeColor).map _
  | deleteApp id => exact (Apps.remove_keepsEach id).map _
  | saveWorkflow id d => cases hop
  | replaceWorkflow id d =>
    exact (Apps.replaceWorkflow_keepsEach hP (hgiven d (List.mem_singleton_self d))).map _
  | command id ed c => cases hop
  | edit id c => exact (Apps.edit_keepsEach hP id c).map _
  | _ => exact absurd rfl happs

end Operation

/-! ## Stored workflows and editors together -/

/-- Every stored workflow, and every document of the editors that are held, has property `P`. -/
structure World.Sustains (P : Document → Prop) (w : World)
    (held : List (Option String × Editor)) : Prop where
  /-- The stored workflows have it, -/
  stored : w.store.EachWorkflow P
  /-- and so have the documents that editors hold, which are sound. -/
  held : ∀ p ∈ held, p.2.document.Sound ∧ P p.2.document

namespace World.Sustains

variable {held : List (Option String × Editor)}

theorem empty (P : Document → Prop) (h : w.store = {}) : w.Sustains P [] where
  stored := by
    rw [h]
    exact fun r hr => by cases hr
  held p hp := by cases hp

/-- An operation does not reach into the editors, and keeps the property of what is stored. -/
theorem after (h : w.Sustains P held) (hP : Document.Lasting P)
    (hdefault : Seed.defaultWorkflow.Linked → P Seed.defaultWorkflow) {op : Operation}
    (hop : op.checksWorkflows = true) (hgiven : ∀ d ∈ op.givenWorkflows, d.Linked → P d)
    (hstore : w₁.store = w.store) : (w₁.after op).Sustains P held where
  stored := op.keepsEach hP hdefault hop hgiven _ (hstore ▸ h.stored)
  held := h.held

/-- An editor that is opened joins those that are held. -/
theorem opened (h : w.Sustains P held) (hP : Document.Lasting P) {ed : Editor}
    (hstore : w₁.store = w.store) (hopen : (Apps.editorFor id).perform w₁ = (.ok ed, w₂)) :
    w₂.Sustains P ((id, ed) :: held) := by
  obtain ⟨hed, hw₂⟩ := Apps.lasting_of_editorFor hP (hstore ▸ h.stored) hopen
  exact ⟨hw₂, List.forall_mem_cons.mpr ⟨hed, h.held⟩⟩

/-- An editor that is given a command goes on with a document that has the property, whatever was
stored in the meantime. -/
theorem commanded (h : w.Sustains P held) (hP : Document.Lasting P) {ed ed' : Editor}
    {c : Command} {r : Except Failure (Document × Made)} (hstore : w₁.store = w.store)
    (hheld : (id, ed) ∈ held) (hcommand : (Apps.command id ed c).perform w₁ = (.ok (r, ed'), w₂)) :
    w₂.Sustains P ((id, ed') :: held) := by
  obtain ⟨hed', hkeeps⟩ := Apps.command_keepsEach hP (h.held _ hheld) hcommand
  exact ⟨hkeeps (hstore ▸ h.stored), List.forall_mem_cons.mpr ⟨hed', h.held⟩⟩

end World.Sustains

/-! ## Supplied installations -/

/-- A world that operations lead to from an empty store, with the editors that were opened on the
way, where every workflow that is taken over as a whole has property `P`. An editor may be given
commands at any time. Between two steps the source of ids, the clock, the rules chosen and the log
may become anything. -/
inductive World.Supplied (P : Document → Prop) : World → List (Option String × Editor) → Prop where
  /-- Nothing is stored. -/
  | empty {w : World} (h : w.store = {}) : Supplied P w []
  /-- An operation is performed, whether it fails or not. -/
  | after {w w₁ : World} {held : List (Option String × Editor)} (h : Supplied P w held)
      (hstore : w₁.store = w.store) (op : Operation) (hop : op.checksWorkflows = true)
      (hgiven : ∀ d ∈ op.givenWorkflows, P d) : Supplied P (w₁.after op) held
  /-- An editor is opened. -/
  | opened {w w₁ w₂ : World} {held : List (Option String × Editor)} {id : Option String}
      {ed : Editor} (h : Supplied P w held) (hstore : w₁.store = w.store)
      (hopen : (Apps.editorFor id).perform w₁ = (.ok ed, w₂)) : Supplied P w₂ ((id, ed) :: held)
  /-- An editor is given a command, which may fail. -/
  | commanded {w w₁ w₂ : World} {held : List (Option String × Editor)} {id : Option String}
      {ed ed' : Editor} {c : Command} {r : Except Failure (Document × Made)}
      (h : Supplied P w held) (hstore : w₁.store = w.store) (hheld : (id, ed) ∈ held)
      (hcommand : (Apps.command id ed c).perform w₁ = (.ok (r, ed'), w₂)) :
      Supplied P w₂ ((id, ed') :: held)

/-- A lasting property of all workflows that are taken over is one of all that are stored. -/
theorem World.Supplied.sustains {held : List (Option String × Editor)} (h : w.Supplied P held)
    (hP : Document.Lasting P) (hdefault : P Seed.defaultWorkflow) : w.Sustains P held := by
  induction h with
  | empty h => exact .empty _ h
  | after _ hstore op hop hgiven ih =>
    exact ih.after hP (fun _ => hdefault) hop (fun d hd _ => hgiven d hd) hstore
  | opened _ hstore hopen ih => exact ih.opened hP hstore hopen
  | commanded _ hstore hheld hcommand ih => exact ih.commanded hP hstore hheld hcommand

end CaseFlow
