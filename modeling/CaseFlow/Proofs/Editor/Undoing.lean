import CaseFlow.Proofs.Editor.Effect

/-!
# Taking additions back

What a command has added is taken back by deleting it: the document is what it was before, not just
one with the same content (`Document.Accepted.additions_undone`). An addition is put last, under an
id that was not in use, so that deleting by its id drops it and nothing else. An edge that leads to
a missing node is the exception: when that node is added, deleting it again deletes the edge, too.
So nodes are taken back where every edge has its nodes.

Additions that were made one after the other are taken back by deleting the last one first
(`Document.Grows.undone`).
-/

namespace CaseFlow

variable {d d' : Document} {c u : Command} {made : Made} {loops : Bool} {ids : IdSource}

namespace Document

/-- A node that was added under a new id is removed alone, if every edge had its nodes before. -/
private theorem Sound.deleteNode_added (hd : d.Sound) (hlinked : d.Linked) {n : Node}
    (hnew : n.id ∉ d.nodeIds) :
    deleteNode { d with nodes := d.nodes ++ [n] } n.id = .ok d := by
  refine deleteNode_eq_ok.mpr ⟨⟨n, find?_key_append hnew⟩, ?_, hd.brokenRule?_eq_none⟩
  have hedges : d.edges.filter (fun e => !e.touches n.id) = d.edges := by
    rw [List.filter_eq_self]
    intro e he
    -- Both ends of the edge are ids of the document, and the id of the node is none.
    obtain ⟨hsource, htarget⟩ := hlinked e he
    simp only [Edge.touches, Bool.not_eq_true', Bool.or_eq_false_iff, beq_eq_false_iff_ne]
    exact ⟨fun h => hnew (h ▸ hsource), fun h => hnew (h ▸ htarget)⟩
  rw [filter_key_append hnew, hedges]

/-- An edge that was added under a new id is removed alone. -/
private theorem Sound.deleteEdge_added (hd : d.Sound) {e : Edge} (hnew : e.id ∉ d.edgeIds) :
    deleteEdge { d with edges := d.edges ++ [e] } e.id = .ok d := by
  refine deleteEdge_eq_ok.mpr ⟨⟨e, find?_key_append hnew⟩, ?_, hd.brokenRule?_eq_none⟩
  rw [filter_key_append hnew]

/-- Replacing a node by itself changes nothing. -/
private theorem Sound.replaced_self (hd : d.Sound) {n : Node} (hn : n ∈ d.nodes) :
    d.replaced n = d.nodes := by
  obtain ⟨i, hi, rfl⟩ := List.mem_iff_getElem.mp hn
  rw [replaced, map_key_eq_set hd.nodeIds_nodup (List.getElem?_eq_getElem hi),
    List.set_getElem_self]

/-- A node that replaces another is found under its id. -/
private theorem Sound.node?_replaced (hd : d.Sound) {n m : Node} (hn : n ∈ d.nodes)
    (hid : m.id = n.id) :
    ({ d with nodes := d.replaced m } : Document).node? n.id = some m := by
  have hmem : m.id ∈ d.nodeIds := hid ▸ List.mem_map_of_mem hn
  have hnodup : ({ d with nodes := d.replaced m } : Document).nodeIds.Nodup := by
    simpa using hd.nodeIds_nodup
  exact (node?_eq_some_iff hnodup).mpr ⟨mem_replaced_iff.mpr (.inl ⟨rfl, hmem⟩), hid⟩

/-- A node that was replaced is put back. -/
private theorem Sound.replaceNode_back (hd : d.Sound) {n m : Node} (hn : n ∈ d.nodes)
    (hid : m.id = n.id) :
    ({ d with nodes := d.replaced m } : Document).replaceNode n = .ok d := by
  refine replaceNode_eq_ok.mpr ⟨?_, hd.brokenRule?_eq_none⟩
  rw [replaced_replaced hid.symm, hd.replaced_self hn]

/-- A field that was added to a form is removed alone. -/
private theorem Sound.deleteFormField_added (hd : d.Sound) {nodeId : String} {n : Node}
    {form : Form}
    {f : FormField} (hn : d.node? nodeId = some n) (hform : n.form = some form)
    (hgiven : d.FormGiven n { form with fields := form.fields ++ [f] } d') :
    d'.deleteFormField nodeId f.id = .ok d := by
  obtain ⟨hmem, rfl⟩ := mem_of_node? hn
  obtain ⟨-, hadmits, rfl⟩ := hgiven
  have hnew : f.id ∉ form.fields.map (·.id) := (nodup_map_append_singleton.mp hadmits.ids_nodup).1
  have hfound := hd.node?_replaced hmem
    (m := { n with form := some { form with fields := form.fields ++ [f] } }) rfl
  refine deleteFormField_eq_ok.mpr ⟨_, _, f, hfound, rfl, find?_key_append hnew, ?_⟩
  -- Without the field the form, and with it the node, is the one that was there before.
  have hnode : { n with form := some { form with
      fields := (form.fields ++ [f]).filter (·.id != f.id) } } = n := by
    rw [filter_key_append hnew, ← hform]
  rw [hnode]
  exact hd.replaceNode_back hmem rfl

end Document

/-! ## Commands that take back commands -/

/-- The command that takes back what a command added: a node, an edge or a field. -/
def Command.undo? : Command → Made → Option Command
  | .addNode .., .node n => some (.deleteNode n.id)
  | .connect .., .edge e => some (.deleteEdge e.id)
  | .addFormField nodeId v, .document =>
    (FormField.read v).toOption.map fun f => .deleteFormField nodeId f.id
  | _, _ => none

/-- What a command added to a sound document is taken back. A new node is so if every edge had its
nodes before. -/
theorem Command.Effect.undone (hd : d.Sound) (h : c.Effect d made d')
    (hlinked : (∃ n, made = .node n) → d.Linked) (hu : c.undo? made = some u) :
    u.apply loops d' ids = (.ok (d, .document), ids) := by
  cases h with
  | @nodeAdded _ _ _ _ n _ hnew =>
    cases hu
    simp only [apply, hd.deleteNode_added (hlinked ⟨n, rfl⟩) hnew]
    rfl
  | edgeAdded _ _ hnew =>
    cases hu
    simp only [apply, hd.deleteEdge_added hnew]
    rfl
  | fieldAdded hn hform hf hgiven =>
    rw [undo?, hf] at hu
    cases hu
    simp only [apply, hd.deleteFormField_added hn hform hgiven]
    rfl
  -- All others add nothing, so that there is nothing to take back.
  | nodeMoved => cases hu
  | nodePatched => cases hu
  | nodeRemoved => cases hu
  | edgeSpared => cases hu
  | edgeRemoved => cases hu
  | modeSet => cases hu
  | fieldPatched => cases hu
  | fieldRemoved => cases hu

/-- Every addition to a document that was read is taken back exactly: an edge by deleting it, a node
by deleting it if every edge had its nodes before, and a field by deleting it from its form. -/
theorem Document.Accepted.additions_undone (hd : d.Accepted) (loops loops' : Bool)
    (ids ids' : IdSource) :
    (∀ source target label d' e,
      ((Command.connect source target label).apply loops d ids).1 = .ok (d', .edge e) →
        (Command.deleteEdge e.id).apply loops' d' ids' = (.ok (d, .document), ids')) ∧
    (d.Linked → ∀ type position id label d' n,
      ((Command.addNode type position id label).apply loops d ids).1 = .ok (d', .node n) →
        (Command.deleteNode n.id).apply loops' d' ids' = (.ok (d, .document), ids')) ∧
    (∀ nodeId v d' made,
      ((Command.addFormField nodeId v).apply loops d ids).1 = .ok (d', made) →
        ∃ f, FormField.read v = .ok f ∧
          (Command.deleteFormField nodeId f.id).apply loops' d' ids' =
            (.ok (d, .document), ids')) := by
  refine ⟨fun source target label d' e h => ?_, fun hlinked type position id label d' n h => ?_,
    fun nodeId v d' made h => ?_⟩
  · exact (Command.apply_effect hd.sound h).undone hd.sound (fun ⟨_, hn⟩ => nomatch hn) rfl
  · exact (Command.apply_effect hd.sound h).undone hd.sound (fun _ => hlinked) rfl
  · -- A field is taken back under the id that its reading gives, so the effect has to name the
    -- field.
    have heffect := Command.apply_effect hd.sound h
    cases heffect with
    | @fieldAdded _ _ _ _ f _ hn hform hf hgiven =>
      refine ⟨f, hf, ?_⟩
      refine (Command.Effect.fieldAdded hn hform hf hgiven).undone hd.sound
        (fun ⟨_, hn⟩ => nomatch hn) ?_
      -- The command to undo it is found by reading the field that was given once more.
      simp [Command.undo?, hf, Checked.toOption]

/-- A field for the draft of the sample workflow, with blanks around its id. -/
def Sample.remark : Value := .object [("id", .text " remark "), ("label", .text "Remark")]

/-- An edge past the draft, a timer and a remark on the draft are added to the sample workflow and
taken back; the ids of the timer and of the remark are trimmed. -/
theorem Document.additions_undone_sample :
    (∃ d' e, ((Command.connect "start" "end" .null).apply false Sample.workflow .counter).1 =
        .ok (d', .edge e) ∧ e.id = "edge-start-end" ∧
      (Command.deleteEdge e.id).apply true d' .counter =
        (.ok (Sample.workflow, .document), .counter)) ∧
    (∃ d' n, ((Command.addNode (.text "Timer") (.list [.int 1, .int 2]) (.text " wait ")
        .null).apply false Sample.workflow .counter).1 = .ok (d', .node n) ∧ n.id = "wait" ∧
      (Command.deleteNode n.id).apply true d' .counter =
        (.ok (Sample.workflow, .document), .counter)) ∧
    (∃ d' made, ((Command.addFormField "draft" Sample.remark).apply false Sample.workflow
        .counter).1 = .ok (d', made) ∧
      (Command.deleteFormField "draft" "remark").apply true d' .counter =
        (.ok (Sample.workflow, .document), .counter)) := by
  obtain ⟨hedge, hnode, hfield⟩ :=
    Sample.accepted_workflow.additions_undone false true .counter .counter
  have hlinked : Sample.workflow.Linked := Sample.tidy_workflow.ends_mem
  refine ⟨⟨_, _, rfl, rfl, hedge "start" "end" .null _ _ rfl⟩, ⟨_, _, rfl, rfl, ?_⟩, _, _, rfl, ?_⟩
  · exact hnode hlinked (.text "Timer") (.list [.int 1, .int 2]) (.text " wait ") .null _ _ rfl
  · obtain ⟨f, hf, hundo⟩ := hfield "draft" Sample.remark _ _ rfl
    -- The field is read with its id trimmed.
    cases hf
    exact hundo

/-! ## Additions one after the other -/

/-- Applies commands one after the other, up to the first that is refused. -/
def Command.applyAll (loops : Bool) (d : Document) (ids : IdSource) :
    List Command → Edit Document × IdSource
  | [] => (.ok d, ids)
  | c :: cs =>
    match c.apply loops d ids with
    | (.ok (d', _), ids') => applyAll loops d' ids' cs
    | (.error f, ids') => (.error f, ids')

namespace Document

/-- Additions lead from document `d` to another, and commands take them back, the last one
first. -/
inductive Grows (loops : Bool) (d : Document) : List Command → Document → Prop
  /-- Nothing is added. -/
  | refl : Grows loops d [] d
  /-- One more addition. -/
  | add {undos : List Command} {d₁ d₂ : Document} {c u : Command} {made : Made}
      {ids ids' : IdSource} (h : Grows loops d undos d₁)
      (hc : c.apply loops d₁ ids = (.ok (d₂, made), ids')) (hu : c.undo? made = some u) :
      Grows loops d (u :: undos) d₂

variable {undos : List Command}

/-- Additions keep the keys distinct and the ends of edges in the document. -/
private theorem Grows.sound_linked (hd : d.Sound) (hlinked : d.Linked)
    (h : Grows loops d undos d') :
    d'.Sound ∧ d'.Linked := by
  induction h with
  | refl => exact ⟨hd, hlinked⟩
  | add _ hc _ ih =>
    have hrevises := Command.apply_revisesTo ih.1 hc
    exact ⟨hrevises.sound ih.1, hrevises.1.linked ih.2⟩

/-- Additions to a document in which every edge has its nodes are taken back one by one. -/
theorem Grows.undone (hd : d.Sound) (hlinked : d.Linked) (h : Grows loops d undos d') :
    Command.applyAll loops d' ids undos = (.ok d, ids) := by
  induction h with
  | refl => rfl
  | add h hc hu ih =>
    obtain ⟨hsound, hl⟩ := h.sound_linked hd hlinked
    have heffect := Command.apply_effect hsound (congrArg Prod.fst hc)
    rw [Command.applyAll, heffect.undone hsound (fun _ => hl) hu]
    exact ih

end Document

end CaseFlow
