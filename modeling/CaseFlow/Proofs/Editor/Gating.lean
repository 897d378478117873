import CaseFlow.Proofs.Editor.Structure

/-!
# Commands that gate a node

A node is gated to a user after a command only if it was gated to the same one before, or if the
command is a patch of this very node which names the user (`Command.apply_gates`). All other
commands leave the gates as they are: a node that is added is free, and one that is moved or gets
another form keeps its assignee.

The statement is about every command that succeeds, on any document, so it does not matter how the
document came about. `Document.KeepsGates` is what nine of the ten commands do; documents that lose
nodes, and documents in which a node is replaced by one with its assignee, keep the gates
(`Document.keepsGates_of_subset`, `Document.keepsGates_of_replaceNode`).
-/

namespace CaseFlow

variable {d d' : Document} {m n : Node} {nodeId : String} {ids ids' : IdSource} {v : Value}

namespace Document

/-- The node with a given id has a given assignee. -/
def Gates (d : Document) (nodeId : String) (v : Value) : Prop :=
  ∃ n ∈ d.nodes, n.id = nodeId ∧ n.assignee = v

/-- Every node of document `d'` that is gated is gated so in document `d`. -/
def KeepsGates (d d' : Document) : Prop :=
  ∀ m ∈ d'.nodes, m.isGated = true → d.Gates m.id m.assignee

/-! ## Commands that leave the gates as they are -/

/-- A document that loses nodes gains no gate. -/
theorem keepsGates_of_subset (h : d'.nodes ⊆ d.nodes) : d.KeepsGates d' :=
  fun m hm _ => ⟨m, h hm, rfl, rfl⟩

/-- Replacing a node that was found by one with its assignee adds no gate. -/
theorem keepsGates_of_replaceNode (hn : d.node? nodeId = some n) (hid : m.id = n.id)
    (hassignee : m.assignee = n.assignee) (h : d.replaceNode m = .ok d') : d.KeepsGates d' := by
  obtain ⟨rfl, -⟩ := replaceNode_eq_ok.mp h
  intro x hx hgated
  rcases mem_replaced hx with rfl | hx
  · exact ⟨n, (mem_of_node? hn).1, hid.symm, hassignee.symm⟩
  · exact ⟨x, hx, rfl, rfl⟩

/-- A new form leaves the gate of its node. -/
theorem keepsGates_of_withForm {form : Form} (hn : d.node? nodeId = some n)
    (h : d.withForm n form = .ok d') : d.KeepsGates d' := by
  obtain ⟨-, -, hd'⟩ := withForm_eq_ok h
  refine keepsGates_of_replaceNode hn ?_ ?_ hd'
  · rfl
  · rfl

/-- A node is added without a gate. -/
private theorem addNode_keepsGates {type position id label : Value}
    (h : d.addNode type position id label ids = (.ok (d', n), ids')) : d.KeepsGates d' := by
  obtain ⟨⟨t, hn⟩, rfl, -⟩ := addNode_eq_ok h
  intro m hm hgated
  rcases List.mem_append.mp hm with hm | hm
  · exact ⟨m, hm, rfl, rfl⟩
  · obtain rfl := List.mem_singleton.mp hm
    have hfree := (newNode_fresh (Prod.ext hn rfl)).unassigned
    rw [hgated] at hfree
    cases hfree

/-! ## Patches -/

/-- A patched node has the assignee that the patch gives, or else the one that it had. -/
private theorem assignee_of_patchNode {patch : Fields} (h : patchNode n patch = .ok m) :
    m.assignee = ((patch.get? "assignee_id").map Value.orNull).getD n.assignee := by
  obtain ⟨-, rfl⟩ := patchNode_eq_ok.mp h
  rfl

/-- A patch gates its own node only, and as it says. -/
private theorem updateNode_gates {patch : Fields} (h : d.updateNode nodeId patch = .ok d')
    (hm : m ∈ d'.nodes) (hgated : m.isGated = true) :
    d.Gates m.id m.assignee ∨ m.id = nodeId ∧ patch.get? "assignee_id" = some m.assignee := by
  obtain ⟨n, p, form, hfound, hpatch, -, hd'⟩ := updateNode_eq_ok h
  obtain ⟨hn, hid⟩ := mem_of_node? hfound
  obtain ⟨rfl, -⟩ := replaceNode_eq_ok.mp hd'
  have hpid : p.id = n.id := (patchNode_editedTo hpatch).id_eq
  have hassignee := assignee_of_patchNode hpatch
  -- A gate on another node was there; on the patched one it may be that of the patch.
  rcases mem_replaced hm with rfl | hm
  · cases hv : patch.get? "assignee_id" with
    | none =>
      rw [hv] at hassignee
      exact .inl ⟨n, hn, hpid.symm, hassignee.symm⟩
    | some v =>
      -- The assignee is not an empty one, which would lift the gate.
      rw [hv, Option.map_some, Option.getD_some] at hassignee
      have htruthy : v.truthy = true := by
        rw [← Value.truthy_orNull, ← hassignee]
        exact hgated
      refine .inr ⟨hpid.trans hid, ?_⟩
      rw [hassignee, Value.orNull, if_pos htruthy]
  · exact .inl ⟨m, hm, rfl, rfl⟩

end Document

/-- A command is a patch of the node with a given id which gives it a given assignee. -/
def Command.Gates (c : Command) (nodeId : String) (v : Value) : Prop :=
  ∃ patch, c = .updateNode nodeId patch ∧ patch.get? "assignee_id" = some v

/-- A node that is gated after a command was gated so before, or is by the command. -/
theorem Command.apply_gates {c : Command} {loops : Bool} {made : Made}
    (h : c.apply loops d ids = (.ok (d', made), ids')) (hm : m ∈ d'.nodes)
    (hgated : m.isGated = true) : d.Gates m.id m.assignee ∨ c.Gates m.id m.assignee := by
  -- A patch apart, no command adds a gate.
  have hkeeps (hd' : d.KeepsGates d') : d.Gates m.id m.assignee ∨ c.Gates m.id m.assignee :=
    .inl (hd' m hm hgated)
  cases c with
  | addNode type position id label =>
    obtain ⟨n, -, hadd⟩ := apply_addNode_eq_ok (congrArg Prod.fst h)
    exact hkeeps (Document.addNode_keepsGates (Prod.ext hadd rfl))
  | connect source target label =>
    obtain ⟨rfl, -⟩ | ⟨e, -, hconnect⟩ := apply_connect_eq_ok (congrArg Prod.fst h)
    · exact hkeeps (Document.keepsGates_of_subset (List.Subset.refl _))
    · obtain ⟨-, -, -, -, -, rfl, -⟩ := Document.connect_eq_ok (Prod.ext hconnect rfl)
      exact hkeeps (Document.keepsGates_of_subset (List.Subset.refl _))
  | moveNode id position =>
    obtain ⟨n, p, hn, -, hd'⟩ := Document.moveNode_eq_ok.mp (Edit.eq_ok_of_map_document h)
    refine hkeeps (Document.keepsGates_of_replaceNode hn ?_ ?_ hd')
    · rfl
    · rfl
  | updateNode id patch =>
    refine (Document.updateNode_gates (Edit.eq_ok_of_map_document h) hm hgated).imp_right ?_
    rintro ⟨hid, hv⟩
    exact ⟨patch, by rw [hid], hv⟩
  | deleteNode id =>
    obtain ⟨-, rfl, -⟩ := Document.deleteNode_eq_ok.mp (Edit.eq_ok_of_map_document h)
    exact hkeeps (Document.keepsGates_of_subset (List.filter_subset_self _))
  | deleteEdge id =>
    obtain ⟨-, rfl, -⟩ := Document.deleteEdge_eq_ok.mp (Edit.eq_ok_of_map_document h)
    exact hkeeps (Document.keepsGates_of_subset (List.Subset.refl _))
  | setFormMode id mode =>
    -- A form is given to the node that was found, whichever field it is that changes.
    obtain ⟨n, mode, hn, -, hd'⟩ :=
      Document.setFormMode_eq_ok.mp (Edit.eq_ok_of_map_document h)
    exact hkeeps (Document.keepsGates_of_withForm hn hd')
  | addFormField id field =>
    obtain ⟨n, _, _, hn, -, -, hd'⟩ :=
      Document.addFormField_eq_ok.mp (Edit.eq_ok_of_map_document h)
    exact hkeeps (Document.keepsGates_of_withForm hn hd')
  | updateFormField id fieldId patch =>
    obtain ⟨n, _, _, _, hn, -, -, -, hd'⟩ :=
      Document.updateFormField_eq_ok.mp (Edit.eq_ok_of_map_document h)
    exact hkeeps (Document.keepsGates_of_withForm hn hd')
  | deleteFormField id fieldId =>
    obtain ⟨n, _, _, hn, -, -, hd'⟩ :=
      Document.deleteFormField_eq_ok.mp (Edit.eq_ok_of_map_document h)
    refine hkeeps (Document.keepsGates_of_replaceNode hn ?_ ?_ hd')
    · rfl
    · rfl

end CaseFlow
