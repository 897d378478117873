import CaseFlow.Proofs.Service.Authoring

/-!
# Maintained installations

A workflow is intact if every edge leads from one of its nodes to another and no two nodes, edges or
fields share an id. A document with a repeated id cannot be built, and one with an edge that leads
nowhere is not taken over. So in an installation that is maintained with built workflows only, every
stored workflow is intact (`World.Maintained.intact`), although the editors that work on an app at
the same time do not know of each other and each saves its own document over the others'.
-/

namespace CaseFlow

variable {w : World} {d : Document}

/-! ## Intact workflows -/

namespace Document

/-- Every edge leads from one node to another, and all ids are distinct. -/
structure Intact (d : Document) : Prop where
  /-- Both ends of every edge are among the ids of the nodes. -/
  ends_mem : ∀ e ∈ d.edges, e.source ∈ d.nodeIds ∧ e.target ∈ d.nodeIds
  /-- No two nodes share an id. -/
  nodeIds_nodup : d.nodeIds.Nodup
  /-- No two edges share an id. -/
  edgeIds_nodup : d.edgeIds.Nodup
  /-- No two fields share an id, whether they are on one node or on two. -/
  fieldIds_nodup : d.fieldIds.Nodup

/-- A workflow is intact exactly if it passes the check for its links and can be built. -/
theorem intact_iff : d.Intact ↔ d.Linked ∧ d.brokenRule? = none := by
  rw [brokenRule?_eq_none_iff]
  constructor
  · rintro ⟨hlinked, hnodes, hedges, hfields⟩
    exact ⟨hlinked, hnodes, hedges, hfields⟩
  · rintro ⟨hlinked, hnodes, hedges, hfields⟩
    exact ⟨hlinked, hnodes, hedges, hfields⟩

/-- What is kept of a document has the same ids of fields. -/
@[simp]
theorem fieldIds_kept : d.kept.fieldIds = d.fieldIds := by
  simp only [fieldIds_eq_flatMap, kept, List.flatMap_map]
  rfl

/-- That a workflow is intact is not lost. -/
private theorem lasting_intact : Lasting Intact where
  kept {d} hd :=
    { ends_mem := lasting_linked.kept hd.ends_mem
      nodeIds_nodup := by
        rw [nodeIds_kept]
        exact hd.nodeIds_nodup
      edgeIds_nodup := hd.edgeIds_nodup
      fieldIds_nodup := by
        rw [fieldIds_kept]
        exact hd.fieldIds_nodup }
  of_read {d d'} hd hread := by
    -- What is read was checked while it was read.
    have haccepted : d'.Accepted := ⟨_, hread⟩
    exact intact_iff.mpr
      ⟨lasting_linked.of_read hd.ends_mem hread, haccepted.sound.brokenRule?_eq_none⟩
  revised _ hd h := intact_iff.mpr ⟨h.1.linked hd.ends_mem, h.2⟩

end Document

/-! ## Maintained installations -/

/-- Every workflow that an operation is given was built, which succeeds only where no id is
repeated. -/
def Operation.GivesBuilt (op : Operation) : Prop := ∀ d ∈ op.givenWorkflows, d.brokenRule? = none

instance (op : Operation) : Decidable op.GivesBuilt := inferInstanceAs (Decidable (∀ _ ∈ _, _))

/-- An authored world whose workflows were built before they were taken over. -/
inductive World.Maintained : World → List (Option String × Editor) → Prop where
  /-- Nothing is stored. -/
  | empty {w : World} (h : w.store = {}) : Maintained w []
  /-- An operation is performed, whether it fails or not. -/
  | after {w w₁ : World} {held : List (Option String × Editor)} (h : Maintained w held)
      (hstore : w₁.store = w.store) (op : Operation) (hop : op.checksWorkflows = true)
      (hbuilt : op.GivesBuilt) : Maintained (w₁.after op) held
  /-- An editor is opened. -/
  | opened {w w₁ w₂ : World} {held : List (Option String × Editor)} {id : Option String}
      {ed : Editor} (h : Maintained w held) (hstore : w₁.store = w.store)
      (hopen : (Apps.editorFor id).perform w₁ = (.ok ed, w₂)) : Maintained w₂ ((id, ed) :: held)
  /-- An editor is given a command, which may fail. -/
  | commanded {w w₁ w₂ : World} {held : List (Option String × Editor)} {id : Option String}
      {ed ed' : Editor} {c : Command} {r : Except Failure (Document × Made)}
      (h : Maintained w held) (hstore : w₁.store = w.store) (hheld : (id, ed) ∈ held)
      (hcommand : (Apps.command id ed c).perform w₁ = (.ok (r, ed'), w₂)) :
      Maintained w₂ ((id, ed') :: held)

/-- New apps start with an intact workflow. -/
theorem Seed.intact_defaultWorkflow : Seed.defaultWorkflow.Intact :=
  Document.intact_iff.mpr ⟨by unfold Document.Linked; decide +kernel, by decide +kernel⟩

/-- In every maintained world all stored workflows are intact, and so are the documents of all
editors that were opened, as far behind as they may be. -/
theorem World.Maintained.intact {held : List (Option String × Editor)} (h : w.Maintained held) :
    (∀ r ∈ w.store.apps, r.workflow.Intact) ∧ ∀ p ∈ held, p.2.document.Intact := by
  have key : w.Sustains Document.Intact held := by
    have hlasting := Document.lasting_intact
    induction h with
    | empty h => exact .empty _ h
    | after _ hstore op hop hbuilt ih =>
      -- A given workflow was built, and passes the check for its links where it is taken over.
      refine ih.after hlasting (fun _ => Seed.intact_defaultWorkflow) hop ?_ hstore
      exact fun d hd hlinked => Document.intact_iff.mpr ⟨hlinked, hbuilt d hd⟩
    | opened _ hstore hopen ih => exact ih.opened hlasting hstore hopen
    | commanded _ hstore hheld hcommand ih => exact ih.commanded hlasting hstore hheld hcommand
  exact ⟨key.stored, fun p hp => (key.held p hp).2⟩

/-! ## Two editors of one app -/

namespace Sample

/-- The app of the sample installation, before there is any case. -/
def foundedWorld : World := emptyWorld.after (.createApp founding)

/-- Two editors are opened on the app. The first removes a step; the second, which still has it,
connects two others. -/
def overwriting : Service (Editor × Editor) := do
  let first ← Apps.editorFor (some "app-1")
  let second ← Apps.editorFor (some "app-1")
  let (_, first) ← Apps.command (some "app-1") first (.deleteNode "approval")
  let (_, second) ← Apps.command (some "app-1") second (.connect "triage" "investigate" .null)
  return (first, second)

private theorem maintained_foundedWorld : foundedWorld.Maintained [] :=
  .after (.empty rfl) rfl _ rfl (by decide)

/-- The two editors are among those that are held in the world that they lead to. -/
private theorem maintained_overwriting {first second : Editor}
    (h : overwriting.perform foundedWorld = (.ok (first, second), w)) :
    ∃ held, w.Maintained held ∧ (some "app-1", first) ∈ held ∧ (some "app-1", second) ∈ held := by
  obtain ⟨ed₁, w₁, hopen₁, h⟩ := Service.perform_bind_eq_ok.mp h
  obtain ⟨ed₂, w₂, hopen₂, h⟩ := Service.perform_bind_eq_ok.mp h
  obtain ⟨⟨r₁, ed₁'⟩, w₃, hcommand₁, h⟩ := Service.perform_bind_eq_ok.mp h
  obtain ⟨⟨r₂, ed₂'⟩, w₄, hcommand₂, h⟩ := Service.perform_bind_eq_ok.mp h
  cases h
  have hopened : w₂.Maintained [(some "app-1", ed₂), (some "app-1", ed₁)] :=
    .opened (.opened maintained_foundedWorld rfl hopen₁) rfl hopen₂
  exact ⟨_, .commanded (.commanded hopened rfl (by simp) hcommand₁) rfl (by simp) hcommand₂,
    by simp, by simp⟩

/-- The second editor brings back the step that the first one has removed. -/
private theorem overwriting_eq_ok : ∃ first second w r,
    overwriting.perform foundedWorld = (.ok (first, second), w) ∧
      w.store.app? "app-1" = some r ∧ "approval" ∉ first.document.nodeIds ∧
      "approval" ∈ r.workflow.nodeIds ∧ "edge-triage-investigate" ∈ r.workflow.edgeIds := by
  -- Both editors are run to their end, and the row that they leave is looked at.
  have heval : (match overwriting.perform foundedWorld with
      | (.ok (first, _), w) => (w.store.app? "app-1").any fun r =>
        !first.document.nodeIds.contains "approval" && r.workflow.nodeIds.contains "approval" &&
          r.workflow.edgeIds.contains "edge-triage-investigate"
      | (.error _, _) => false) = true := by
    decide +kernel
  rcases h : overwriting.perform foundedWorld with ⟨e | ⟨first, second⟩, w⟩
  · rw [h] at heval
    cases heval
  · simp only [h, Option.any_eq_true, Bool.and_eq_true, Bool.not_eq_true', List.contains_eq_mem,
      decide_eq_true_eq, decide_eq_false_iff_not] at heval
    obtain ⟨r, hr, ⟨hremoved, hback⟩, hconnected⟩ := heval
    exact ⟨first, second, w, r, rfl, hr, hremoved, hback, hconnected⟩

end Sample

/-- Although the second editor of the sample brings back the step that the first one has removed,
together with its edges, the workflow that is stored is intact, and so are both editors' own. -/
theorem World.Maintained.intact_sample : ∃ first second w r,
    Sample.overwriting.perform Sample.foundedWorld = (.ok (first, second), w) ∧
      w.store.app? "app-1" = some r ∧ "approval" ∉ first.document.nodeIds ∧
      "approval" ∈ r.workflow.nodeIds ∧ "edge-triage-investigate" ∈ r.workflow.edgeIds ∧
      r.workflow.Intact ∧ first.document.Intact ∧ second.document.Intact := by
  obtain ⟨first, second, w, r, hperform, hr, hremoved, hback, hconnected⟩ :=
    Sample.overwriting_eq_ok
  obtain ⟨held, hmaintained, hfirst, hsecond⟩ := Sample.maintained_overwriting hperform
  obtain ⟨hstored, hheld⟩ := intact hmaintained
  exact ⟨first, second, w, r, hperform, hr, hremoved, hback, hconnected,
    hstored r (List.mem_of_find?_eq_some hr), hheld _ hfirst, hheld _ hsecond⟩

end CaseFlow
