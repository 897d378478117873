import CaseFlow.Proofs.Editor.Revision
import CaseFlow.Proofs.Workflow.Canonical

/-!
# Commands on canonical documents

Whatever a command makes of a canonical document is canonical again (`Command.apply_fit`): labels,
ids, forms and positions are read or trimmed before they enter the document. The description and the
assignee that a patch gives to a node are not, so a plain document stays plain as long as the
patches are plain themselves (`Command.Plain`).

The two facts go together through every command, so they are proved as one: `Document.Fit plain`
says that a document is canonical, and plain if `plain` holds. Most commands replace one node, and
there is one lemma for that (`Document.Fit.replaceNode`); what is left to each of them is that its
node is fit.
-/

namespace CaseFlow

open CaseFlow.Text

variable {plain : Prop} {loops : Bool} {d d' : Document} {m n : Node}

/-- A node that is canonical, and plain if `plain` holds. -/
structure Node.Fit (plain : Prop) (n : Node) : Prop where
  /-- The node is canonical. -/
  canonical : n.Canonical
  /-- The node is plain if that is asked for. -/
  isPlain : plain → n.Plain

/-- A document that is canonical, and plain if `plain` holds. -/
structure Document.Fit (plain : Prop) (d : Document) : Prop where
  /-- The document is canonical. -/
  canonical : d.Canonical
  /-- The document is plain if that is asked for. -/
  isPlain : plain → d.Plain

/-- A patch that gives a node no description and no assignee but texts. -/
structure Fields.PlainPatch (patch : Fields) : Prop where
  /-- A description is a text or absent. -/
  description : ∀ v, patch.get? "description" = some v → v.IsNote
  /-- An assignee is a text, or is taken away. -/
  assignee : ∀ v, patch.get? "assignee_id" = some v → v.truthy = true → v.IsNote

/-- A command whose patch is plain, if it has one. -/
def Command.Plain : Command → Prop
  | .updateNode _ patch => patch.PlainPatch
  | _ => True

namespace Node

/-- A node that differs from a fit one in its label and its place only is fit. -/
theorem Fit.congr (hn : n.Fit plain) (hid : m.id = n.id) (htype : m.type = n.type)
    (hform : m.form = n.form) (hdescription : m.description = n.description)
    (hassignee : m.assignee = n.assignee) : m.Fit plain := by
  refine ⟨⟨hid ▸ hn.canonical.id_isId, ?_, ?_⟩, fun hplain => ⟨?_, ?_⟩⟩
  · rw [hform, htype]
    exact hn.canonical.form_task
  · rw [hform]
    exact hn.canonical.form_canonical
  · exact hdescription ▸ (hn.isPlain hplain).description_isNote
  · exact hassignee ▸ (hn.isPlain hplain).assignee_isNote

/-- A fit node stays fit with a canonical form, which only a task is given, or with none. -/
theorem Fit.withForm (hn : n.Fit plain) {form : Option Form} (htask : form.isSome → n.type = .task)
    (hform : ∀ f, form = some f → f.Canonical) : Node.Fit plain { n with form } :=
  ⟨⟨hn.canonical.id_isId, htask, hform⟩, fun hplain =>
    ⟨(hn.isPlain hplain).description_isNote, (hn.isPlain hplain).assignee_isNote⟩⟩

end Node

namespace Document

variable {nodeId : String} {ids ids' : IdSource}

/-- A document that was accepted is fit. -/
theorem Accepted.fit (hd : d.Accepted) : d.Fit plain :=
  ⟨hd.canonical_plain.1, fun _ => hd.canonical_plain.2⟩

/-- Each node of a fit document is fit. -/
theorem Fit.node (hd : d.Fit plain) (hn : n ∈ d.nodes) : n.Fit plain :=
  ⟨hd.canonical.nodes_canonical n hn, fun hplain => hd.isPlain hplain n hn⟩

/-- A document is fit when all its nodes are, its edges are canonical and its ids distinct. -/
theorem fit_of (hnodes : ∀ n ∈ d.nodes, n.Fit plain) (hedges : ∀ e ∈ d.edges, e.Canonical)
    (hids : d.brokenRule? = none) : d.Fit plain :=
  ⟨⟨fun n hn => (hnodes n hn).canonical, hedges, hids⟩,
    fun hplain n hn => (hnodes n hn).isPlain hplain⟩

/-! ## Replacing a node -/

/-- Putting a fit node in the place of one keeps a document fit. -/
theorem Fit.replaceNode (hd : d.Fit plain) (hm : m.Fit plain) (h : d.replaceNode m = .ok d') :
    d'.Fit plain := by
  obtain ⟨rfl, hids⟩ := replaceNode_eq_ok.mp h
  refine fit_of (fun x hx => ?_) hd.canonical.edges_canonical hids
  obtain ⟨n, hn, rfl⟩ := List.mem_map.mp hx
  split
  · exact hm
  · exact hd.node hn

/-- A node that was found is fit. -/
theorem Fit.found (hd : d.Fit plain) (hn : d.node? nodeId = some n) : n.Fit plain :=
  hd.node (List.mem_of_find?_eq_some hn)

/-- The id under which a node is found is a name. -/
theorem Fit.isName (hd : d.Fit plain) (hn : d.node? nodeId = some n) : IsName nodeId :=
  (mem_of_node? hn).2 ▸ (hd.found hn).canonical.id_isId.1

/-- A form that is given to a node has to be canonical already. -/
theorem Fit.withForm (hd : d.Fit plain) (hn : n.Fit plain) {form : Form} (hform : form.Canonical)
    (h : d.withForm n form = .ok d') : d'.Fit plain := by
  obtain ⟨htask, -, hd'⟩ := withForm_eq_ok h
  refine hd.replaceNode (hn.withForm (fun _ => htask) ?_) hd'
  rintro f hf
  exact Option.some.inj hf ▸ hform

/-! ## The commands -/

/-- A new node is read, and then gets a place and, as a task, an empty form. -/
private theorem fit_newNode {type : NodeType} {position id label : Value}
    (h : d.newNode type position id label ids = (.ok n, ids')) : n.Fit plain := by
  unfold newNode at h
  simp only [Prod.mk.injEq, bind_eq_ok] at h
  obtain ⟨⟨p, -, h⟩, -⟩ := h
  split at h
  · next read hread =>
    rw [Checked.toExcept_eq_ok] at hread
    -- The type that was asked for goes through its word, from which it is read again.
    have htype : read.type = type := by
      have hkind := (Node.readFields_sound hread).2.1
      cases type <;> exact (Checked.ok.inj hkind).symm
    obtain ⟨hcanonical, hplain⟩ := Node.canonical_of_readFields hread
    cases h
    refine ⟨⟨hcanonical.id_isId, ?_, ?_⟩, fun _ => ⟨hplain.1, hplain.2⟩⟩
    · intro hform
      by_contra htask
      simp [← htype, htask] at hform
    · rintro form hform
      -- Only a task gets a form, and that has no fields yet.
      by_cases htask : type = .task
      · simp only [htask, beq_self_eq_true, ↓reduceIte, Option.some.injEq] at hform
        subst hform
        exact fun f hf => by cases hf
      · simp [htask] at hform
  · simp at h

/-- Adding a node keeps a document fit, since labels and ids are trimmed first. -/
theorem Fit.addNode (hd : d.Fit plain) {type position id label : Value}
    (h : d.addNode type position id label ids = (.ok (d', n), ids')) : d'.Fit plain := by
  obtain ⟨⟨t, hn⟩, rfl, hids⟩ := addNode_eq_ok h
  refine fit_of (fun x hx => ?_) hd.canonical.edges_canonical hids
  rcases List.mem_append.mp hx with hx | hx
  · exact hd.node hx
  · obtain rfl := List.mem_singleton.mp hx
    exact fit_newNode (Prod.ext hn rfl)

theorem Fit.moveNode (hd : d.Fit plain) {position : Value}
    (h : d.moveNode nodeId position = .ok d') : d'.Fit plain := by
  obtain ⟨n, p, hn, -, hd'⟩ := moveNode_eq_ok.mp h
  refine hd.replaceNode ?_ hd'
  exact (hd.found hn).congr rfl rfl rfl rfl rfl

/-- A patch leaves a node canonical, and plain if the patch is. -/
private theorem fit_patchNode (hn : n.Fit plain) {patch : Fields}
    (hpatch : plain → patch.PlainPatch)
    (h : patchNode n patch = .ok m) : m.Fit plain := by
  obtain ⟨-, rfl⟩ := patchNode_eq_ok.mp h
  refine ⟨⟨hn.canonical.id_isId, hn.canonical.form_task, hn.canonical.form_canonical⟩,
    fun hplain => ⟨?_, ?_⟩⟩
  · show ((patch.get? "description").getD n.description).IsNote
    cases hv : patch.get? "description" with
    | none => exact (hn.isPlain hplain).description_isNote
    | some v => exact (hpatch hplain).description v hv
  · show (((patch.get? "assignee_id").map Value.orNull).getD n.assignee).IsNote
    cases hv : patch.get? "assignee_id" with
    | none => exact (hn.isPlain hplain).assignee_isNote
    | some v =>
      -- A falsy assignee leaves none.
      show v.orNull.IsNote
      by_cases htruthy : v.truthy = true
      · rw [Value.orNull, if_pos htruthy]
        exact (hpatch hplain).assignee v hv htruthy
      · rw [Value.orNull, if_neg htruthy]
        exact ⟨none, rfl⟩

/-- A patch keeps a document fit, if it puts texts only where texts belong. -/
theorem Fit.updateNode (hd : d.Fit plain) {patch : Fields} (hpatch : plain → patch.PlainPatch)
    (h : d.updateNode nodeId patch = .ok d') : d'.Fit plain := by
  obtain ⟨n, m, form, hn, hm, hform, hd'⟩ := updateNode_eq_ok h
  have hfit : m.Fit plain := fit_patchNode (hd.found hn) hpatch hm
  refine hd.replaceNode ?_ hd'
  -- The patch may leave the form, take it away, or give another one.
  obtain rfl | hgiven := hform
  · exact hfit
  · refine hfit.withForm (fun hsome => ?_) fun f hf => ?_
    · obtain ⟨f, hf⟩ := Option.isSome_iff_exists.mp hsome
      exact (hgiven f hf).2.1
    · obtain ⟨⟨v, hread⟩, -⟩ := hgiven f hf
      exact Form.canonical_of_read hread

theorem Fit.deleteNode (hd : d.Fit plain) (h : d.deleteNode nodeId = .ok d') : d'.Fit plain := by
  obtain ⟨-, rfl, hids⟩ := deleteNode_eq_ok.mp h
  refine fit_of (fun n hn => ?_) (fun e he => ?_) hids
  · exact hd.node (List.mem_filter.mp hn).1
  · exact hd.canonical.edges_canonical e (List.mem_filter.mp he).1

/-- A new edge has its ends from nodes of the document, whose ids are names. -/
theorem Fit.connect (hd : d.Fit plain) {source target : String} {label : Value} {e : Edge}
    (h : d.connect loops source target label ids = (.ok (some (d', e)), ids')) :
    d'.Fit plain := by
  obtain ⟨⟨a, ha⟩, ⟨b, hb⟩, -, -, ⟨hsource, htarget⟩, rfl, hids⟩ := connect_eq_ok h
  -- The ends are ids of nodes, which were trimmed and are not empty.
  have hnew : e.Canonical := by
    refine ⟨?_, ?_⟩
    · rw [hsource, (hd.isName ha).1]
      exact hd.isName ha
    · rw [htarget, (hd.isName hb).1]
      exact hd.isName hb
  refine fit_of (fun n hn => hd.node hn) (fun x hx => ?_) hids
  rcases List.mem_append.mp hx with hx | hx
  · exact hd.canonical.edges_canonical x hx
  · exact List.mem_singleton.mp hx ▸ hnew

theorem Fit.deleteEdge (hd : d.Fit plain) {edgeId : String} (h : d.deleteEdge edgeId = .ok d') :
    d'.Fit plain := by
  obtain ⟨-, rfl, hids⟩ := deleteEdge_eq_ok.mp h
  refine fit_of (fun n hn => hd.node hn) (fun e he => ?_) hids
  exact hd.canonical.edges_canonical e (List.mem_filter.mp he).1

/-- The fields of a node that was found are canonical. -/
theorem Fit.form_canonical (hd : d.Fit plain) (hn : d.node? nodeId = some n) {form : Form}
    (hform : n.form = some form) : form.Canonical :=
  (hd.found hn).canonical.form_canonical form hform

theorem Fit.setFormMode (hd : d.Fit plain) {mode : Value}
    (h : d.setFormMode nodeId mode = .ok d') : d'.Fit plain := by
  obtain ⟨n, mode, hn, -, hd'⟩ := setFormMode_eq_ok.mp h
  refine hd.withForm (hd.found hn) (fun f hf => ?_) hd'
  obtain ⟨form, hform, hmem⟩ := Node.mem_fields.mp hf
  exact hd.form_canonical hn hform f hmem

theorem Fit.addFormField (hd : d.Fit plain) {field : Value}
    (h : d.addFormField nodeId field = .ok d') : d'.Fit plain := by
  obtain ⟨n, form, f, hn, hform, hf, hd'⟩ := addFormField_eq_ok.mp h
  refine hd.withForm (hd.found hn) (fun g hg => ?_) hd'
  rcases List.mem_append.mp hg with hg | hg
  · exact hd.form_canonical hn hform g hg
  · exact List.mem_singleton.mp hg ▸ FormField.canonical_of_read hf

theorem Fit.updateFormField (hd : d.Fit plain) {fieldId : String} {patch : Fields}
    (h : d.updateFormField nodeId fieldId patch = .ok d') : d'.Fit plain := by
  obtain ⟨n, form, old, f, hn, hform, -, hf, hd'⟩ := updateFormField_eq_ok.mp h
  refine hd.withForm (hd.found hn) (fun g hg => ?_) hd'
  obtain ⟨x, hx, rfl⟩ := List.mem_map.mp hg
  split
  · exact FormField.canonical_of_read hf
  · exact hd.form_canonical hn hform x hx

theorem Fit.deleteFormField (hd : d.Fit plain) {fieldId : String}
    (h : d.deleteFormField nodeId fieldId = .ok d') : d'.Fit plain := by
  obtain ⟨n, form, f, hn, hform, -, hd'⟩ := deleteFormField_eq_ok.mp h
  refine hd.replaceNode ?_ hd'
  refine (hd.found hn).withForm (fun _ => ?_) ?_
  · exact (hd.found hn).canonical.form_task (by simp [hform])
  · rintro g hg
    obtain rfl := Option.some.inj hg
    exact fun x hx => hd.form_canonical hn hform x (List.mem_filter.mp hx).1

end Document

/-- A command that succeeds on a fit document gives a fit one, provided that its patch is plain
where the document is to be plain. -/
theorem Command.apply_fit {c : Command} {ids ids' : IdSource} {made : Made} (hd : d.Fit plain)
    (hc : plain → c.Plain) (h : c.apply loops d ids = (.ok (d', made), ids')) : d'.Fit plain := by
  cases c with
  | addNode type position id label =>
    obtain ⟨n, -, hadd⟩ := apply_addNode_eq_ok (congrArg Prod.fst h)
    exact hd.addNode (Prod.ext hadd rfl)
  | connect source target label =>
    obtain ⟨rfl, -⟩ | ⟨e, -, hconnect⟩ := apply_connect_eq_ok (congrArg Prod.fst h)
    · exact hd
    · exact hd.connect (Prod.ext hconnect rfl)
  | moveNode id position => exact hd.moveNode (Edit.eq_ok_of_map_document h)
  | updateNode id patch => exact hd.updateNode hc (Edit.eq_ok_of_map_document h)
  | deleteNode id => exact hd.deleteNode (Edit.eq_ok_of_map_document h)
  | deleteEdge id => exact hd.deleteEdge (Edit.eq_ok_of_map_document h)
  | setFormMode id mode => exact hd.setFormMode (Edit.eq_ok_of_map_document h)
  | addFormField id field => exact hd.addFormField (Edit.eq_ok_of_map_document h)
  | updateFormField id fieldId patch => exact hd.updateFormField (Edit.eq_ok_of_map_document h)
  | deleteFormField id fieldId => exact hd.deleteFormField (Edit.eq_ok_of_map_document h)

end CaseFlow
