import CaseFlow.Editor.Command
import CaseFlow.Proofs.Workflow.Sound

/-!
# Revisions of a document

The ten commands change a document in few ways: a node is added, replaced or removed with its edges,
an edge is added or removed, or nothing happens. `Document.Revision` has one case for each, with all
that the checks of the commands guarantee in that case, and every command that succeeds makes such a
revision (`Command.apply_revisesTo`). Invariants of editing are proved by cases on revisions and
never look into a command.

On the way each function of the editor is characterized: `Document.addNode_eq_ok`,
`Document.updateNode_eq_ok`, `Document.connect_eq_ok` and the lemmas beside them say exactly when it
succeeds and what it makes of the document. All commands but two that hand back a node or an edge
make nothing but a document (`Edit.eq_ok_of_map_document`).
-/

namespace CaseFlow

open CaseFlow.Text

variable {d d' : Document} {n m : Node}

/-- A value that is dropped where it is not given counts as given where it did. -/
@[simp]
theorem Value.truthy_orNull {v : Value} : v.orNull.truthy = v.truthy := by
  unfold orNull
  split
  · rfl
  · next h => simpa [truthy] using h

/-- A select field has something to select. -/
def FormField.HasOptions (f : FormField) : Prop := f.type = .select → f.options.getD [] ≠ []

instance (f : FormField) : Decidable f.HasOptions := inferInstanceAs (Decidable (_ → _))

/-- A node as it is added: with a trimmed id, for nobody in particular, and with no field. -/
structure Node.Fresh (n : Node) : Prop where
  /-- The id has no blanks around it. -/
  id_trimmed : trim n.id = n.id
  /-- Only a task carries a form. -/
  form_task : n.form.isSome → n.type = .task
  /-- Nobody is assigned. -/
  unassigned : n.isGated = false
  /-- There are no fields. -/
  no_fields : n.fields = []

/-- Node `m` is what an edit may make of node `n`. -/
structure Node.EditedTo (n m : Node) : Prop where
  /-- The id stays. -/
  id_eq : m.id = n.id
  /-- The kind stays. -/
  type_eq : m.type = n.type
  /-- Only a task is given a form. -/
  form_task : m.form.isSome → n.form.isSome ∨ n.type = .task
  /-- Only a task is assigned. -/
  assigned_task : m.isGated = true → n.isGated = true ∨ n.type = .task
  /-- A field that was not there has its options. -/
  options : ∀ f ∈ m.fields, f ∈ n.fields ∨ f.HasOptions

namespace Node.EditedTo

/-- A node with another form, or none, is an edit as far as the form may be given to it. -/
theorem withForm (h : n.EditedTo m) {form : Option Form}
    (htask : form.isSome → n.form.isSome ∨ n.type = .task)
    (hoptions : ∀ f ∈ (form.map (·.fields)).getD [], f ∈ n.fields ∨ f.HasOptions) :
    n.EditedTo { m with form } :=
  ⟨h.id_eq, h.type_eq, htask, h.assigned_task, hoptions⟩

/-- A node with the same form and for the same user is an edit. -/
theorem of_eq (hid : m.id = n.id) (htype : m.type = n.type) (hform : m.form = n.form)
    (hassignee : m.isGated = true → n.isGated = true ∨ n.type = .task) : n.EditedTo m := by
  refine ⟨hid, htype, fun h => .inl (hform ▸ h), hassignee, fun f hf => .inl ?_⟩
  simpa [fields, hform] using hf

end Node.EditedTo

/-- A patch whose label and assignee a node takes. -/
structure Node.Takes (n : Node) (patch : Fields) : Prop where
  /-- A label is a text that is not blank. -/
  label : ∀ v, patch.get? "label" = some v → ∃ s, v = .text s ∧ blank s = false
  /-- Only a task is assigned to a user. -/
  assignee : ∀ v, patch.get? "assignee_id" = some v → v.truthy = true → n.type = .task

/-- A node with the label, the description and the assignee that a patch names. -/
def Node.patched (n : Node) (patch : Fields) : Node :=
  { n with
    label := ((patch.get? "label").bind Value.text?).elim n.label trim
    description := (patch.get? "description").getD n.description
    assignee := ((patch.get? "assignee_id").map Value.orNull).getD n.assignee }

namespace Document

/-- What a command can make of a document, where `loops` tells whether loops are wanted. -/
inductive Revision (loops : Bool) (d : Document) : Document → Prop
  /-- Nothing happens. -/
  | unchanged : Revision loops d d
  /-- A node is added. -/
  | nodeAdded {n : Node} (h : n.Fresh) : Revision loops d { d with nodes := d.nodes ++ [n] }
  /-- A node is replaced. -/
  | nodeReplaced {n m : Node} (hn : n ∈ d.nodes) (h : n.EditedTo m) :
      Revision loops d { d with nodes := d.replaced m }
  /-- A node is removed with the edges that touch it. -/
  | nodeRemoved (id : String) :
      Revision loops d
        { nodes := d.nodes.filter (·.id != id), edges := d.edges.filter fun e => !e.touches id }
  /-- An edge is added between two nodes that were not connected. -/
  | edgeAdded {e : Edge} (hsource : e.source ∈ d.nodeIds) (htarget : e.target ∈ d.nodeIds)
      (hnew : d.isConnected e.source e.target = false)
      (hloop : e.source = e.target → loops = true) :
      Revision loops d { d with edges := d.edges ++ [e] }
  /-- An edge is removed. -/
  | edgeRemoved (id : String) : Revision loops d { d with edges := d.edges.filter (·.id != id) }

/-! ## Building and replacing -/

/-- A refusal is no success. -/
@[simp]
theorem refuse_ne_ok {α : Type} {e : Error} {a : α} : Edit.refuse e ≠ .ok a := by
  simp [Edit.refuse]

/-- Rebuilding succeeds exactly when no rule is broken. -/
@[simp]
theorem rebuild_eq_ok {nodes : List Node} {edges : List Edge} :
    rebuild nodes edges = .ok d ↔ { nodes, edges } = d ∧ d.brokenRule? = none := by
  unfold rebuild
  by_cases h : brokenRule? { nodes, edges } = none
  · simp only [h, Except.ok.injEq]
    exact ⟨fun heq => ⟨heq, heq ▸ h⟩, And.left⟩
  · obtain ⟨r, hr⟩ := Option.ne_none_iff_exists'.mp h
    simp only [hr, refuse_ne_ok, false_iff, not_and]
    rintro rfl
    exact h

/-- A node is replaced exactly if the document then breaks no rule. -/
@[simp]
theorem replaceNode_eq_ok :
    d.replaceNode n = .ok d' ↔ { d with nodes := d.replaced n } = d' ∧ d'.brokenRule? = none :=
  rebuild_eq_ok

/-- A node is given exactly if it is found. -/
@[simp]
theorem requireNode_eq_ok {id : String} : d.requireNode id = .ok n ↔ d.node? id = some n := by
  unfold requireNode
  cases d.node? id <;> simp

/-- A form is given exactly if the node has it. -/
theorem requireForm_eq_ok {form : Form} : requireForm n = .ok form ↔ n.form = some form := by
  unfold requireForm
  cases n.form <;> simp

/-- A field is given exactly if the form has it under the id. -/
theorem requireField_eq_ok {form : Form} {nodeId fieldId : String} {f : FormField} :
    requireField form nodeId fieldId = .ok f ↔ form.field? fieldId = some f := by
  unfold requireField
  cases form.field? fieldId <;> simp

/-- Fields are taken from objects only. -/
theorem objectOf_eq_ok {v : Value} {fs : Fields} : objectOf v = .ok fs ↔ v = .object fs := by
  cases v <;> simp [objectOf]

/-- A field is taken exactly if it is read. -/
theorem fieldOf_eq_ok {fs : Fields} {f : FormField} :
    fieldOf fs = .ok f ↔ FormField.read (.object fs) = .ok f := by
  show _ ↔ FormField.readFields fs = .ok f
  unfold fieldOf
  cases FormField.readFields fs <;> simp [Checked.toExcept]

/-- A form is taken exactly if it is read from an object. -/
theorem formOf_eq_ok {nodeId : String} {v : Value} {form : Form} :
    formOf nodeId v = .ok form ↔ Form.read v = .ok form := by
  unfold formOf
  cases v with
  | object fs =>
    show _ ↔ Form.readFields fs = .ok form
    simp only [objectOf, ok_bind]
    cases Form.readFields fs <;> simp [Checked.toExcept]
  | _ => simp [objectOf, Form.read, Reader.record, error_bind]

/-- A position is taken exactly if it is one. -/
theorem positionOf_eq_ok {v : Value} {p : Position} :
    positionOf v = .ok p ↔ Position.given v = .ok p := by
  unfold positionOf
  cases Position.given v <;> simp

/-- Of two replacements of one node the second counts. -/
theorem replaced_replaced (h : m.id = n.id) :
    ({ d with nodes := d.replaced n } : Document).replaced m = d.replaced m := by
  simp only [replaced, List.map_map]
  refine List.map_congr_left fun x _ => ?_
  by_cases hx : x.id = n.id <;> simp [hx, h]

/-! ## Giving a form to a node -/

/-- A field that passes its check has its options. -/
private theorem hasOptions_of_fieldError? {nodeId : String} {known : List String} {f : FormField}
    (h : fieldError? nodeId known f = none) : f.HasOptions := by
  intro htype hnone
  simp [fieldError?, htype, hnone] at h

/-- A form that is given to a node was checked: the node is a task, and select fields have their
options. -/
theorem withForm_eq_ok {form : Form} (h : d.withForm n form = .ok d') :
    n.type = .task ∧ (∀ f ∈ form.fields, f.HasOptions) ∧
      d.replaceNode { n with form := some form } = .ok d' := by
  unfold withForm at h
  split at h
  · simp at h
  · next htype =>
    split at h
    · cases h
    · next hcheck =>
      refine ⟨by simpa using htype, fun f hf => ?_, h⟩
      -- The check looks for repeated ids first, and then for a field without its options.
      unfold checkFields at hcheck
      simp only at hcheck
      split at hcheck
      · simp at hcheck
      · split at hcheck
        · simp at hcheck
        · next hfields =>
          exact hasOptions_of_fieldError? (List.findSome?_eq_none_iff.mp hfields f hf)

/-! ## What each command does

Each command that succeeds makes a revision. The commands on nodes and forms replace a node that
they have found, so it is enough to know how they edit it.
-/

/-- Document `d'` is a revision of `d` in which ids are distinct. -/
def RevisesTo (loops : Bool) (d d' : Document) : Prop := Revision loops d d' ∧ d'.brokenRule? = none

section Commands

variable {ids ids' : IdSource} {loops : Bool} {nodeId : String}

/-- Replacing a node that was found by an edited one is a revision. -/
private theorem revisesTo_of_replaceNode (hn : d.node? nodeId = some n) (hm : n.EditedTo m)
    (h : d.replaceNode m = .ok d') : RevisesTo loops d d' := by
  obtain ⟨rfl, hrule⟩ := replaceNode_eq_ok.mp h
  exact ⟨.nodeReplaced (mem_of_node? hn).1 hm, hrule⟩

/-- Giving a form to a node that was found is a revision. -/
private theorem revisesTo_of_withForm {form : Form} (hn : d.node? nodeId = some n)
    (h : d.withForm n form = .ok d') : RevisesTo loops d d' := by
  obtain ⟨htask, hoptions, hd'⟩ := withForm_eq_ok h
  refine revisesTo_of_replaceNode hn (Node.EditedTo.withForm (.of_eq rfl rfl rfl .inl) ?_ ?_) hd'
  · exact fun _ => .inr htask
  · exact fun f hf => .inr (hoptions f hf)

/-- A new node is fresh. -/
theorem newNode_fresh {type : NodeType} {position id label : Value}
    (h : d.newNode type position id label ids = (.ok n, ids')) : n.Fresh := by
  unfold newNode at h
  simp only [Prod.mk.injEq, bind_eq_ok] at h
  obtain ⟨⟨p, -, h⟩, -⟩ := h
  split at h
  · next read hread =>
    cases h
    -- The kind is read back from its own word, and no assignee is given.
    rw [Checked.toExcept_eq_ok] at hread
    obtain ⟨⟨s, -, hid⟩, htype, hassignee, -⟩ := Node.readFields_sound hread
    have hkind : read.type = type := by
      cases type <;> exact (Checked.ok.inj htype).symm
    have hnobody : read.assignee = .null := (Checked.ok.inj hassignee).symm
    refine ⟨by simp [hid], ?_, ?_, ?_⟩
    · by_cases h : type = .task <;> simp [h, hkind]
    · simp [Node.isGated, hnobody, Value.truthy]
    · by_cases h : type = .task <;> simp [h, Node.fields]
  · simp at h

/-- A node that is added is a new node, at the end. -/
theorem addNode_eq_ok {type position id label : Value}
    (h : d.addNode type position id label ids = (.ok (d', n), ids')) :
    (∃ t, (d.newNode t position id label ids).1 = .ok n) ∧
      { d with nodes := d.nodes ++ [n] } = d' ∧ d'.brokenRule? = none := by
  unfold addNode at h
  split at h
  · simp at h
  · next t _ =>
    split at h
    · simp at h
    · simp only [Prod.mk.injEq, bind_eq_ok, rebuild_eq_ok, pure_eq_ok] at h
      -- The node is made, put at the end, and the document rebuilt with it.
      obtain ⟨⟨m, hm, _, ⟨rfl, hrule⟩, rfl, rfl⟩, -⟩ := h
      exact ⟨⟨t, hm⟩, rfl, hrule⟩

/-- Adding a node revises a document. -/
private theorem addNode_revisesTo {type position id label : Value}
    (h : d.addNode type position id label ids = (.ok (d', n), ids')) : RevisesTo loops d d' := by
  obtain ⟨⟨t, hn⟩, rfl, hrule⟩ := addNode_eq_ok h
  exact ⟨.nodeAdded (newNode_fresh (Prod.ext hn rfl)), hrule⟩

/-- A node that is moved is replaced by itself in another place. -/
theorem moveNode_eq_ok {position : Value} :
    d.moveNode nodeId position = .ok d' ↔ ∃ n p, d.node? nodeId = some n ∧
      Position.given position = .ok p ∧ d.replaceNode { n with position := p } = .ok d' := by
  simp only [moveNode, bind_eq_ok, requireNode_eq_ok, positionOf_eq_ok, ← exists_and_left]

private theorem moveNode_revisesTo {position : Value} (h : d.moveNode nodeId position = .ok d') :
    RevisesTo loops d d' := by
  obtain ⟨n, p, hn, -, hd'⟩ := moveNode_eq_ok.mp h
  refine revisesTo_of_replaceNode hn ?_ hd'
  exact .of_eq rfl rfl rfl .inl

/-- A label is patched with a text that is not blank, which is trimmed. -/
private theorem patchLabel_eq_ok {v : Value} :
    patchLabel n v = .ok m ↔
      ∃ s, v = .text s ∧ blank s = false ∧ { n with label := trim s } = m := by
  unfold patchLabel
  cases v with
  | text s =>
    -- The empty text counts as not given, and is blank anyway.
    by_cases hempty : s.isEmpty = true
    · have hblank : blank s = true := by
        rw [String.isEmpty_iff.mp hempty]
        rfl
      simp [Value.truthy, hempty, hblank]
    · cases hblank : blank s <;> simp_all [Value.truthy, blank]
  | _ => split <;> simp

/-- An assignee is patched on tasks only, unless it is taken away. -/
private theorem patchAssignee_eq_ok {v : Value} :
    patchAssignee n v = .ok m ↔
      (v.truthy = true → n.type = .task) ∧ { n with assignee := v.orNull } = m := by
  unfold patchAssignee
  by_cases hgiven : v.truthy = true
  · by_cases htask : n.type = .task <;> simp [hgiven, htask]
  · simp [hgiven]

/-- A patch goes through label, description and assignee in turn. -/
theorem patchNode_eq {patch : Fields} : patchNode n patch =
    ((patch.get? "label").elim (.ok n) (patchLabel n) >>= fun a =>
      let b := { a with description := (patch.get? "description").getD a.description }
      (patch.get? "assignee_id").elim (.ok b) (patchAssignee b)) := by
  unfold patchNode
  cases patch.get? "label" <;> cases patch.get? "description" <;>
    cases patch.get? "assignee_id" <;> rfl

/-- A patch succeeds exactly on the nodes that take it, and does what it says. -/
theorem patchNode_eq_ok {patch : Fields} :
    patchNode n patch = .ok m ↔ n.Takes patch ∧ n.patched patch = m := by
  -- Label and assignee are patched independently, each if it is named.
  have hlabel (a : Node) : (patch.get? "label").elim (.ok n) (patchLabel n) = .ok a ↔
      (∀ v, patch.get? "label" = some v → ∃ s, v = .text s ∧ blank s = false) ∧
        { n with label := ((patch.get? "label").bind Value.text?).elim n.label trim } = a := by
    cases patch.get? "label" with
    | none => simp
    | some v =>
      simp only [Option.elim_some, patchLabel_eq_ok, Option.some.injEq, forall_eq']
      constructor
      · rintro ⟨s, rfl, hblank, rfl⟩
        exact ⟨⟨s, rfl, hblank⟩, rfl⟩
      · rintro ⟨⟨s, rfl, hblank⟩, rfl⟩
        exact ⟨s, rfl, hblank, rfl⟩
  -- The check of the assignee looks at the kind of the node, which the label does not change.
  have hassignee (b : Node) : (patch.get? "assignee_id").elim (.ok b) (patchAssignee b) = .ok m ↔
      (∀ v, patch.get? "assignee_id" = some v → v.truthy = true → b.type = .task) ∧
        { b with
          assignee := ((patch.get? "assignee_id").map Value.orNull).getD b.assignee } = m := by
    cases patch.get? "assignee_id" with
    | none => simp
    | some v => simp [patchAssignee_eq_ok]
  simp only [patchNode_eq, bind_eq_ok, hlabel, hassignee]
  constructor
  · rintro ⟨_, ⟨hgiven, rfl⟩, htask, rfl⟩
    exact ⟨⟨hgiven, htask⟩, rfl⟩
  · rintro ⟨htakes, rfl⟩
    exact ⟨_, ⟨htakes.label, rfl⟩, htakes.assignee, rfl⟩

/-- A patch edits a node, and gives it to a user only if it is a task. -/
theorem patchNode_editedTo {patch : Fields} (h : patchNode n patch = .ok m) : n.EditedTo m := by
  obtain ⟨htakes, rfl⟩ := patchNode_eq_ok.mp h
  refine .of_eq rfl rfl rfl fun hgated => ?_
  cases hv : patch.get? "assignee_id" with
  | none => exact .inl (by simpa [Node.patched, Node.isGated, hv] using hgated)
  | some v =>
    have htruthy : v.truthy = true := by simpa [Node.patched, Node.isGated, hv] using hgated
    exact .inr (htakes.assignee v hv htruthy)

/-- A patch may name attributes that can be patched only. -/
theorem lockedNames_eq_nil_iff {patch : Fields} :
    lockedNames patch = [] ↔ ∀ name ∈ patch.names, name ∈ patchable := by
  rw [lockedNames, ← List.length_eq_zero_iff, List.length_mergeSort, List.length_eq_zero_iff,
    List.filter_eq_nil_iff]
  simp

/-- A patch replaces the node that was found by a patched one, of which the form may be removed or
checked besides. -/
theorem updateNode_eq_ok {patch : Fields} (h : d.updateNode nodeId patch = .ok d') :
    ∃ n m form, d.node? nodeId = some n ∧ patchNode n patch = .ok m ∧
      (form = m.form ∨
        ∀ f, form = some f →
          (∃ v, Form.read v = .ok f) ∧ m.type = .task ∧ ∀ x ∈ f.fields, x.HasOptions) ∧
      d.replaceNode { m with form } = .ok d' := by
  simp only [updateNode, bind_eq_ok, requireNode_eq_ok] at h
  obtain ⟨n, hn, h⟩ := h
  split at h
  · simp [Edit.refuse] at h
  · obtain ⟨m, hm, h⟩ := bind_eq_ok.mp h
    split at h
    · -- No form is named, or no form is given, or one is.
      exact ⟨n, m, m.form, hn, hm, .inl rfl, h⟩
    · exact ⟨n, m, none, hn, hm, .inr fun f hf => (by cases hf), h⟩
    · -- The node is replaced twice; only the second replacement is seen.
      simp only [bind_eq_ok, replaceNode_eq_ok, formOf_eq_ok] at h
      obtain ⟨form, hread, _, ⟨rfl, -⟩, h⟩ := h
      obtain ⟨htask, hoptions, hd'⟩ := withForm_eq_ok h
      have htwice := replaced_replaced (d := d) (n := m) (m := { m with form := some form }) rfl
      rw [replaceNode_eq_ok, htwice] at hd'
      rw [← rebuild_eq_ok] at hd'
      refine ⟨n, m, some form, hn, hm, .inr fun f hf => ?_, hd'⟩
      rw [← Option.some.inj hf]
      exact ⟨⟨_, hread⟩, htask, hoptions⟩

/-- A patch revises a document. -/
private theorem updateNode_revisesTo {patch : Fields} (h : d.updateNode nodeId patch = .ok d') :
    RevisesTo loops d d' := by
  obtain ⟨n, m, form, hn, hm, hform, hd'⟩ := updateNode_eq_ok h
  have hedit := patchNode_editedTo hm
  refine revisesTo_of_replaceNode hn ?_ hd'
  -- The form is the one that the node had, or it was taken away or checked.
  rcases hform with rfl | hchecked
  · exact hedit
  · refine hedit.withForm (fun hsome => .inr ?_) (fun f hf => .inr ?_)
    · obtain ⟨f, rfl⟩ := Option.isSome_iff_exists.mp hsome
      exact hedit.type_eq ▸ (hchecked f rfl).2.1
    · cases form with
      | none => cases hf
      | some form => exact (hchecked form rfl).2.2 f hf

/-- A node that exists is removed with the edges that touch it. -/
theorem deleteNode_eq_ok :
    d.deleteNode nodeId = .ok d' ↔ (∃ n, d.node? nodeId = some n) ∧
      { nodes := d.nodes.filter (·.id != nodeId),
        edges := d.edges.filter fun e => !e.touches nodeId } = d' ∧ d'.brokenRule? = none := by
  simp only [deleteNode, bind_eq_ok, requireNode_eq_ok, rebuild_eq_ok, exists_and_right]

private theorem deleteNode_revisesTo (h : d.deleteNode nodeId = .ok d') : RevisesTo loops d d' := by
  obtain ⟨-, rfl, hrule⟩ := deleteNode_eq_ok.mp h
  exact ⟨.nodeRemoved nodeId, hrule⟩

/-- Connecting two nodes adds an edge between them if both exist, they are not connected already,
and a loop is wanted where it is one. -/
theorem connect_eq_ok {source target : String} {label : Value} {e : Edge}
    (h : d.connect loops source target label ids = (.ok (some (d', e)), ids')) :
    (∃ a, d.node? source = some a) ∧ (∃ b, d.node? target = some b) ∧
      (source = target → loops = true) ∧ d.isConnected source target = false ∧
      (e.source = trim source ∧ e.target = trim target) ∧
      { d with edges := d.edges ++ [e] } = d' ∧ d'.brokenRule? = none := by
  unfold connect at h
  -- Both ends are looked up first; then come the guards against a loop and a second edge.
  split at h
  · simp at h
  · simp at h
  · next a b ha hb =>
    refine ⟨⟨a, requireNode_eq_ok.mp ha⟩, ⟨b, requireNode_eq_ok.mp hb⟩, ?_⟩
    split at h
    · simp at h
    · next hloop =>
      split at h
      · simp at h
      · next hnew =>
        -- Whatever id the edge is given, it is read from its two ends.
        rcases d.newEdgeId source target ids with ⟨id, rest⟩
        simp only [Prod.mk.injEq] at h
        obtain ⟨h, -⟩ := h
        split at h
        · simp at h
        · next made hmade =>
          rw [Checked.toExcept_eq_ok] at hmade
          simp only [bind_eq_ok, rebuild_eq_ok, pure_eq_ok, Option.some.injEq, Prod.mk.injEq] at h
          obtain ⟨_, ⟨rfl, hrule⟩, rfl, rfl⟩ := h
          exact ⟨by simpa using hloop, by simpa using hnew, Edge.readFields_sound hmade, rfl, hrule⟩

private theorem connect_revisesTo {source target : String} {label : Value} {e : Edge} (hd : d.Sound)
    (h : d.connect loops source target label ids = (.ok (some (d', e)), ids')) :
    RevisesTo loops d d' := by
  obtain ⟨⟨a, hfound⟩, ⟨b, hfound'⟩, hloop, hnew, ⟨hsource, htarget⟩, rfl, hrule⟩ :=
    connect_eq_ok h
  obtain ⟨ha, rfl⟩ := mem_of_node? hfound
  obtain ⟨hb, rfl⟩ := mem_of_node? hfound'
  -- Reading trims both ends, which are trimmed already since they are ids of the document.
  rw [hd.id_trimmed a ha] at hsource
  rw [hd.id_trimmed b hb] at htarget
  rw [← hsource, ← htarget] at hloop hnew
  refine ⟨.edgeAdded ?_ ?_ hnew hloop, hrule⟩
  · exact hsource ▸ List.mem_map_of_mem ha
  · exact htarget ▸ List.mem_map_of_mem hb

/-- An edge that exists is removed. -/
theorem deleteEdge_eq_ok {edgeId : String} :
    d.deleteEdge edgeId = .ok d' ↔ (∃ e, d.edge? edgeId = some e) ∧
      { d with edges := d.edges.filter (·.id != edgeId) } = d' ∧ d'.brokenRule? = none := by
  unfold deleteEdge
  cases d.edge? edgeId <;> simp

private theorem deleteEdge_revisesTo {edgeId : String} (h : d.deleteEdge edgeId = .ok d') :
    RevisesTo loops d d' := by
  obtain ⟨-, rfl, hrule⟩ := deleteEdge_eq_ok.mp h
  exact ⟨.edgeRemoved edgeId, hrule⟩

/-- The mode of a form is set as a new form with the same fields is given. -/
theorem setFormMode_eq_ok {v : Value} :
    d.setFormMode nodeId v = .ok d' ↔ ∃ n mode, d.node? nodeId = some n ∧
      Reader.choice v = .ok mode ∧ d.withForm n ⟨mode, n.fields⟩ = .ok d' := by
  have hform (n : Node) (mode : FormMode) :
      { n.form.getD {} with mode } = (⟨mode, n.fields⟩ : Form) := by
    cases hform : n.form <;> simp [Node.fields, hform]
  simp only [setFormMode, bind_eq_ok, requireNode_eq_ok, Reader.choice]
  refine exists_congr fun n => ?_
  cases v.text?.bind (Worded.ofWord? (α := FormMode)) with
  | none => simp
  | some mode => simp [hform]

private theorem setFormMode_revisesTo {mode : Value} (h : d.setFormMode nodeId mode = .ok d') :
    RevisesTo loops d d' := by
  obtain ⟨n, mode, hn, -, hd'⟩ := setFormMode_eq_ok.mp h
  exact revisesTo_of_withForm hn hd'

/-- A field is added as a form with one more field is given. -/
theorem addFormField_eq_ok {v : Value} :
    d.addFormField nodeId v = .ok d' ↔ ∃ n form f, d.node? nodeId = some n ∧
      n.form = some form ∧ FormField.read v = .ok f ∧
      d.withForm n { form with fields := form.fields ++ [f] } = .ok d' := by
  simp only [addFormField, bind_eq_ok, requireNode_eq_ok, requireForm_eq_ok, objectOf_eq_ok,
    fieldOf_eq_ok]
  constructor
  · rintro ⟨n, hn, form, hform, fs, rfl, f, hf, hd'⟩
    exact ⟨n, form, f, hn, hform, hf, hd'⟩
  · rintro ⟨n, form, f, hn, hform, hf, hd'⟩
    obtain ⟨fs, rfl, -⟩ := Reader.record_eq_ok.mp hf
    exact ⟨n, hn, form, hform, fs, rfl, f, hf, hd'⟩

private theorem addFormField_revisesTo {field : Value} (h : d.addFormField nodeId field = .ok d') :
    RevisesTo loops d d' := by
  obtain ⟨n, form, f, hn, -, -, hd'⟩ := addFormField_eq_ok.mp h
  exact revisesTo_of_withForm hn hd'

/-- A field is changed as a form is given in which it is what its patch makes of it. -/
theorem updateFormField_eq_ok {fieldId : String} {patch : Fields} :
    d.updateFormField nodeId fieldId patch = .ok d' ↔ ∃ n form old f, d.node? nodeId = some n ∧
      n.form = some form ∧ form.field? fieldId = some old ∧
      FormField.read (.object (old.toFields.merge patch)) = .ok f ∧
      d.withForm n { form with
        fields := form.fields.map fun g => if g.id == fieldId then f else g } = .ok d' := by
  simp only [updateFormField, bind_eq_ok, requireNode_eq_ok, requireForm_eq_ok, requireField_eq_ok,
    fieldOf_eq_ok, ← exists_and_left]

private theorem updateFormField_revisesTo {fieldId : String} {patch : Fields}
    (h : d.updateFormField nodeId fieldId patch = .ok d') : RevisesTo loops d d' := by
  obtain ⟨n, form, old, f, hn, -, -, -, hd'⟩ := updateFormField_eq_ok.mp h
  exact revisesTo_of_withForm hn hd'

/-- A field that exists is removed from its form. -/
theorem deleteFormField_eq_ok {fieldId : String} :
    d.deleteFormField nodeId fieldId = .ok d' ↔ ∃ n form f, d.node? nodeId = some n ∧
      n.form = some form ∧ form.field? fieldId = some f ∧
      d.replaceNode { n with
        form := some { form with fields := form.fields.filter (·.id != fieldId) } } = .ok d' := by
  simp only [deleteFormField, bind_eq_ok, requireNode_eq_ok, requireForm_eq_ok, requireField_eq_ok,
    ← exists_and_left]

private theorem deleteFormField_revisesTo {fieldId : String}
    (h : d.deleteFormField nodeId fieldId = .ok d') : RevisesTo loops d d' := by
  obtain ⟨n, form, f, hn, hform, -, hd'⟩ := deleteFormField_eq_ok.mp h
  refine revisesTo_of_replaceNode hn (Node.EditedTo.withForm (.of_eq rfl rfl rfl .inl) ?_ ?_) hd'
  · exact fun _ => .inl (by simp [hform])
  · intro f hf
    refine .inl ?_
    simp only [Node.fields, hform, Option.map_some, Option.getD_some] at hf ⊢
    exact (List.mem_filter.mp hf).1

end Commands

end Document

/-- A command that makes nothing but a document succeeds with it. -/
theorem Edit.map_document_eq_ok {r : Edit Document} {made : Made} :
    r.map (fun d => (d, Made.document)) = .ok (d', made) ↔ r = .ok d' ∧ made = .document := by
  cases r <;> simp [Except.map, eq_comm]

/-- What a command that makes nothing but a document comes to is the document. -/
theorem Edit.eq_ok_of_map_document {r : Edit Document} {ids ids' : IdSource} {made : Made}
    (h : (r.map fun d => (d, Made.document), ids) = (.ok (d', made), ids')) : r = .ok d' :=
  (map_document_eq_ok.mp (congrArg Prod.fst h)).1

namespace Command

variable {loops : Bool} {ids ids' : IdSource} {made : Made}

/-- A command that adds a node succeeds with the document and the node. -/
theorem apply_addNode_eq_ok {type position id label : Value}
    (h : ((addNode type position id label).apply loops d ids).1 = .ok (d', made)) :
    ∃ n, made = .node n ∧ (d.addNode type position id label ids).1 = .ok (d', n) := by
  obtain ⟨⟨_, n⟩, hadd, heq⟩ := map_eq_ok.mp h
  obtain ⟨rfl, rfl⟩ := Prod.mk.inj heq
  exact ⟨n, rfl, hadd⟩

/-- A command that connects two nodes succeeds with the document and the edge, or with the document
as it was. -/
theorem apply_connect_eq_ok {source target : String} {label : Value}
    (h : ((connect source target label).apply loops d ids).1 = .ok (d', made)) :
    (d = d' ∧ made = .noEdge) ∨
      ∃ e, made = .edge e ∧ (d.connect loops source target label ids).1 = .ok (some (d', e)) := by
  obtain ⟨_ | ⟨_, e⟩, hconnect, heq⟩ := map_eq_ok.mp h
  · obtain ⟨rfl, rfl⟩ := Prod.mk.inj heq
    exact .inl ⟨rfl, rfl⟩
  · obtain ⟨rfl, rfl⟩ := Prod.mk.inj heq
    exact .inr ⟨e, rfl, hconnect⟩

/-- A command that succeeds on a sound document revises it. -/
theorem apply_revisesTo {c : Command} (hd : d.Sound)
    (h : c.apply loops d ids = (.ok (d', made), ids')) : d.RevisesTo loops d' := by
  cases c with
  | addNode type position id label =>
    obtain ⟨n, -, hadd⟩ := apply_addNode_eq_ok (congrArg Prod.fst h)
    exact Document.addNode_revisesTo (Prod.ext hadd rfl)
  | connect source target label =>
    obtain ⟨rfl, -⟩ | ⟨e, -, hconnect⟩ := apply_connect_eq_ok (congrArg Prod.fst h)
    · exact ⟨.unchanged, hd.brokenRule?_eq_none⟩
    · exact Document.connect_revisesTo hd (Prod.ext hconnect rfl)
  | moveNode id position => exact Document.moveNode_revisesTo (Edit.eq_ok_of_map_document h)
  | updateNode id patch => exact Document.updateNode_revisesTo (Edit.eq_ok_of_map_document h)
  | deleteNode id => exact Document.deleteNode_revisesTo (Edit.eq_ok_of_map_document h)
  | deleteEdge id => exact Document.deleteEdge_revisesTo (Edit.eq_ok_of_map_document h)
  | setFormMode id mode => exact Document.setFormMode_revisesTo (Edit.eq_ok_of_map_document h)
  | addFormField id field => exact Document.addFormField_revisesTo (Edit.eq_ok_of_map_document h)
  | updateFormField id fieldId patch =>
    exact Document.updateFormField_revisesTo (Edit.eq_ok_of_map_document h)
  | deleteFormField id fieldId =>
    exact Document.deleteFormField_revisesTo (Edit.eq_ok_of_map_document h)

end Command

end CaseFlow
