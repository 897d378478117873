import CaseFlow.Proofs.Editor.Connecting
import CaseFlow.Proofs.Editor.Unreported
import Mathlib.Data.List.Flatten

/-!
# Rebuilding after the checks

A command makes its own checks of ids before it changes anything: whether a node, an edge or a field
is there, and whether a new one has an id of its own. At its end the document is rebuilt, and all
ids are looked at again. In a document that was read, or that commands made of one
(`Document.Drafted`), the checks before cover that at the end, with one exception
(`Command.apply_breaks_iff`): the id of a new node is looked for as it is written and trimmed later,
so it may turn out to be in use after all (`Command.RepeatsId`).

For each function of the editor there is one lemma, which says that rebuilding does not fail in it.
Replacing a node does not fail if the node keeps some of its fields, or if its fields are admitted;
what is removed leaves distinct ids distinct; and a new edge has an id that was searched for.
-/

namespace CaseFlow

open CaseFlow.Text

variable {d d' : Document} {n m : Node} {r : Rejection} {loops : Bool} {ids : IdSource}

/-- A document that was read, or that commands made of one. -/
inductive Document.Drafted : Document → Prop where
  /-- The document was read. -/
  | read {d : Document} (h : d.Accepted) : Drafted d
  /-- A command made it of a drafted one. -/
  | command {d d' : Document} {c : Command} {loops : Bool} {ids : IdSource} {made : Made}
      (h : Drafted d) (happly : (c.apply loops d ids).1 = .ok (d', made)) : Drafted d'

namespace Document

/-- A draft has distinct keys. -/
theorem Drafted.sound (hd : d.Drafted) : d.Sound := by
  induction hd with
  | read h => exact h.sound
  | command _ happly ih => exact (Command.apply_revisesTo ih (Prod.ext happly rfl)).sound ih

/-- The ids in a drafted document are trimmed and made of id characters, whatever commands have
done to its descriptions and assignees. -/
theorem Drafted.fit (hd : d.Drafted) : d.Fit False := by
  induction hd with
  | read h => exact h.fit
  | command _ happly ih => exact Command.apply_fit ih False.elim (Prod.ext happly rfl)

/-- The ids of the nodes of a draft could be given. -/
private theorem Drafted.isId (hd : d.Drafted) {id : String} (hid : id ∈ d.nodeIds) : IsId id := by
  obtain ⟨n, hn, rfl⟩ := List.mem_map.mp hid
  exact (hd.fit.node hn).canonical.id_isId

end Document

/-! ## Ids that are given or drawn -/

/-- The command adds a node under a text that is no id of the document but becomes one when it is
trimmed, and its other arguments are in order. -/
inductive Command.RepeatsId (d : Document) : Command → Prop where
  | addNode {type position label : Value} {s : String} {t : NodeType} {p : Position}
      (htype : type.text?.bind Worded.ofWord? = some t) (hp : Position.given position = .ok p)
      (hlabel : label.truthy = true → ∃ text, label = .text text) (hnew : s ∉ d.nodeIds)
      (htrim : trim s ∈ d.nodeIds) : RepeatsId d (.addNode type position (.text s) label)

/-- If the command draws an id, it finds a new one. A node takes the id that is drawn without the
blanks around it, so for a node there are to be none. -/
def Command.DrawsNew (d : Document) (ids : IdSource) : Command → Prop
  | .addNode _ _ id _ =>
    id.truthy = false → ids.Finds "node" d.nodeIds ∧ ids.Blankless (d.nodeIds.length + 1)
  | .connect source target _ =>
    s!"edge-{source}-{target}" ∈ d.edgeIds → ids.Finds s!"edge-{source}-{target}" d.edgeIds
  | _ => True

/-- The label of a node that was read is the text that its fields give. -/
private theorem Node.label_of_readFields {fs : Fields} (h : Node.readFields fs = .ok n) :
    fs.require "label" Reader.text = .ok n.label := by
  simp only [Node.readFields, Checked.andThen_eq_ok, Checked.seq_eq_ok, Checked.map_eq_ok] at h
  obtain ⟨m, ⟨_, _, ⟨_, _, ⟨_, _, ⟨_, _, ⟨_, _, ⟨_, _, ⟨_, -, rfl⟩, -, rfl⟩, hlabel, rfl⟩, -, rfl⟩,
    -, rfl⟩, -, rfl⟩, -, rfl⟩, hform⟩ := h
  unfold Node.checkForm at hform
  split at hform
  · simp at hform
  · obtain rfl := Checked.ok.inj hform
    exact hlabel

/-! ## Failures of rebuilding -/

namespace Edit

variable {α β : Type}

/-- An edit fails in rebuilding the document. -/
def Breaks (x : Edit α) (r : Rejection) : Prop := x = .error (.refused (.invalidDocument r))

/-- What succeeds does not fail in rebuilding. -/
@[simp]
theorem not_breaks_ok {a : α} : ¬Breaks (.ok a) r := nofun

/-- A failure is one in rebuilding exactly if it names the rule that the document breaks. -/
@[simp]
theorem breaks_error {f : Failure} :
    Breaks (.error f : Edit α) r ↔ f = .refused (.invalidDocument r) := by
  simp [Breaks]

/-- A refusal is a failure in rebuilding exactly if it names the rule that the document breaks. -/
@[simp]
theorem breaks_refuse {e : Error} : Breaks (refuse e : Edit α) r ↔ e = .invalidDocument r := by
  simp [refuse]

/-- A sequence fails in rebuilding where its first part does, or its second part after that. -/
@[simp]
theorem breaks_bind {x : Edit α} {g : α → Edit β} :
    Breaks (x >>= g) r ↔ x.Breaks r ∨ ∃ a, x = .ok a ∧ (g a).Breaks r := by
  cases x <;> simp [Breaks]

/-- What is made of a success does not matter. -/
@[simp]
theorem breaks_map {x : Edit α} {g : α → β} : Breaks (x.map g) r ↔ x.Breaks r := by
  cases x <;> simp [Breaks, Except.map]

/-- What fails as a part that is not rebuilt does not fail in rebuilding either. -/
theorem not_breaks_of_error {x : Edit α} {f : Failure} (hx : x = .error f) (h : ¬x.Breaks r) :
    ¬Breaks (.error f : Edit β) r := by
  rw [breaks_error]
  rintro rfl
  exact h hx

/-- A step that is known to succeed does not fail in rebuilding. -/
theorem not_breaks_of_eq_ok {x : Edit α} {a : α} (h : x = .ok a) : ¬x.Breaks r := by
  rw [h]
  exact not_breaks_ok

end Edit

namespace Document

variable {nodeId : String}

/-- Rebuilding fails by the rule that the ids break. -/
private theorem breaks_rebuild {nodes : List Node} {edges : List Edge} :
    (rebuild nodes edges).Breaks r ↔ ∃ rule, brokenRule? { nodes, edges } = some rule ∧
      r = ⟨recordName, [⟨[], .rule rule⟩]⟩ := by
  unfold rebuild
  dsimp only
  cases brokenRule? { nodes, edges } with
  | none => simp
  | some rule => simp [eq_comm]

/-! ### What never rebuilds -/

/-- A missing node is noticed before the document is rebuilt. -/
@[simp]
theorem not_breaks_requireNode : ¬(d.requireNode nodeId).Breaks r := by
  unfold requireNode
  split <;> simp

@[simp]
theorem not_breaks_requireForm : ¬(requireForm n).Breaks r := by
  unfold requireForm
  split <;> simp

@[simp]
theorem not_breaks_requireField {form : Form} {fieldId : String} :
    ¬(requireField form nodeId fieldId).Breaks r := by
  unfold requireField
  split <;> simp

@[simp]
theorem not_breaks_positionOf {v : Value} : ¬(positionOf v).Breaks r := by
  unfold positionOf
  split <;> simp

@[simp]
theorem not_breaks_objectOf {v : Value} : ¬(objectOf v).Breaks r := by
  unfold objectOf
  split <;> simp

@[simp]
theorem not_breaks_fieldOf {fs : Fields} : ¬(fieldOf fs).Breaks r := by
  unfold fieldOf
  split <;> simp

@[simp]
theorem not_breaks_formOf {v : Value} : ¬(formOf nodeId v).Breaks r := by
  unfold formOf
  rw [Edit.breaks_bind, or_iff_right not_breaks_objectOf]
  rintro ⟨fs, -, h⟩
  split at h <;> simp at h

/-- The check of a node's fields comes before the document is rebuilt. -/
@[simp]
theorem not_breaks_checkFields {fields : List FormField} :
    ¬(d.checkFields nodeId fields).Breaks r := by
  unfold checkFields
  dsimp only
  split
  · simp
  · split
    · next he =>
      obtain ⟨f, -, hf⟩ := List.exists_of_findSome?_eq_some he
      rw [Edit.breaks_refuse]
      rintro rfl
      -- What is wrong with a field is said of its options or of its source.
      unfold fieldError? at hf
      split at hf
      · cases hf
      · split at hf
        · split at hf <;> cases hf
        · cases hf
    · simp

/-- A node is patched before the document is rebuilt. -/
@[simp]
theorem not_breaks_patchNode {patch : Fields} : ¬(patchNode n patch).Breaks r := by
  have hlabel (n : Node) (v : Value) : ¬(patchLabel n v).Breaks r := by
    unfold patchLabel
    split
    · simp
    · split
      · dsimp only
        split <;> simp
      · simp
  have hassignee (n : Node) (v : Value) : ¬(patchAssignee n v).Breaks r := by
    unfold patchAssignee
    split <;> simp
  -- The label is patched first and the assignee after it, each if it is named.
  rw [patchNode_eq, Edit.breaks_bind, or_iff_right]
  · rintro ⟨a, -, h⟩
    cases hv : patch.get? "assignee_id" <;> simp [hv, hassignee] at h
  · cases patch.get? "label" <;> simp [hlabel]

/-! ### Replacing a node -/

/-- A node may be replaced by one that keeps some of its fields. -/
theorem Sound.not_breaks_replaceNode (hd : d.Sound) (hn : d.node? nodeId = some n)
    (hid : m.id = n.id) (hfields : m.fields.Sublist n.fields) : ¬(d.replaceNode m).Breaks r := by
  have hmem := (mem_of_node? hn).1
  have hids : (m.fields.map (·.id)).Sublist (n.fields.map (·.id)) := hfields.map _
  refine Edit.not_breaks_of_eq_ok ((hd.replaceNode_eq_ok_iff (n := n) hid ?_ ?_).mpr rfl)
  · exact (hd.fields_nodup hmem).sublist hids
  · exact fun id hidm => hd.not_elsewhere hmem (hids.subset hidm)

/-- A form that passes its check may be given to a task: what the check asks of the ids of its
fields is what rebuilding asks. -/
theorem Sound.not_breaks_withForm (hd : d.Sound) {form : Form} :
    ¬(d.withForm n form).Breaks r := by
  by_cases htask : n.type = .task
  · by_cases hadmits : d.Admits n.id form.fields
    · exact Edit.not_breaks_of_eq_ok (hd.withForm_eq_ok_iff.mpr ⟨htask, hadmits, rfl⟩)
    · -- The check fails, so that nothing is rebuilt.
      unfold withForm
      rw [if_neg (by simpa using htask)]
      split
      · next hcheck => exact Edit.not_breaks_of_error hcheck not_breaks_checkFields
      · next hcheck => exact absurd (checkFields_eq_ok.mp hcheck) hadmits
  · simp [withForm, htask]

/-! ### The commands -/

section Commands

variable {id fieldId source target : String} {type position v label : Value} {patch : Fields}

/-- Moving a node breaks no rule, since no id changes. -/
private theorem Sound.not_breaks_moveNode (hd : d.Sound) : ¬(d.moveNode id position).Breaks r := by
  simp only [moveNode, Edit.breaks_bind, not_breaks_requireNode, not_breaks_positionOf, false_or,
    requireNode_eq_ok]
  rintro ⟨n, hn, p, -, h⟩
  exact absurd h (hd.not_breaks_replaceNode hn rfl (List.Sublist.refl _))

/-- A patch breaks no rule, since it cannot name the id. -/
private theorem Sound.not_breaks_updateNode (hd : d.Sound) : ¬(d.updateNode id patch).Breaks r := by
  unfold updateNode
  rw [Edit.breaks_bind, or_iff_right not_breaks_requireNode]
  simp only [requireNode_eq_ok]
  rintro ⟨n, hn, h⟩
  split at h
  · simp at h
  · obtain h | ⟨m, hm, h⟩ := Edit.breaks_bind.mp h
    · exact not_breaks_patchNode h
    · have hedit := patchNode_editedTo hm
      have hfields : m.fields = n.fields := by
        rw [← (patchNode_eq_ok.mp hm).2]
        rfl
      -- The form is kept, taken away, or given; each time the fields that remain were there before.
      split at h
      · exact hd.not_breaks_replaceNode hn hedit.id_eq (hfields ▸ List.Sublist.refl _) h
      · exact absurd h (hd.not_breaks_replaceNode hn hedit.id_eq (List.nil_sublist _))
      · simp only [Edit.breaks_bind, not_breaks_formOf, false_or] at h
        obtain ⟨form, -, h | ⟨d₁, hd₁, h⟩⟩ := h
        · exact hd.not_breaks_replaceNode hn hedit.id_eq (hfields ▸ List.Sublist.refl _) h
        · -- The form is checked in the document that has the other changes, which is sound, too.
          obtain ⟨rfl, hrule⟩ := replaceNode_eq_ok.mp hd₁
          have hrevises : RevisesTo false d { d with nodes := d.replaced m } :=
            ⟨.nodeReplaced (mem_of_node? hn).1 hedit, hrule⟩
          exact (hrevises.sound hd).not_breaks_withForm h

/-- A form with another mode has the fields that it had. -/
private theorem Sound.not_breaks_setFormMode (hd : d.Sound) : ¬(d.setFormMode id v).Breaks r := by
  unfold setFormMode
  rw [Edit.breaks_bind, or_iff_right not_breaks_requireNode]
  rintro ⟨n, -, h⟩
  split at h
  · simp at h
  · exact hd.not_breaks_withForm h

/-- A field is checked against all others before the document is rebuilt. -/
private theorem Sound.not_breaks_addFormField (hd : d.Sound) : ¬(d.addFormField id v).Breaks r := by
  simp [addFormField, hd.not_breaks_withForm]

/-- A changed field is checked against all others before the document is rebuilt. -/
private theorem Sound.not_breaks_updateFormField (hd : d.Sound) :
    ¬(d.updateFormField id fieldId patch).Breaks r := by
  simp [updateFormField, hd.not_breaks_withForm]

/-- One field less breaks no rule. -/
private theorem Sound.not_breaks_deleteFormField (hd : d.Sound) :
    ¬(d.deleteFormField id fieldId).Breaks r := by
  simp only [deleteFormField, Edit.breaks_bind, not_breaks_requireNode, not_breaks_requireForm,
    not_breaks_requireField, false_or, requireNode_eq_ok, requireForm_eq_ok]
  rintro ⟨n, hn, form, hform, f, -, h⟩
  refine absurd h (hd.not_breaks_replaceNode hn rfl ?_)
  rw [Node.fields_of_form hform]
  exact List.filter_sublist

/-- What is left of a sound document has distinct ids, whatever nodes and edges are removed. -/
theorem Sound.not_breaks_rebuild_filter (hd : d.Sound) (p : Node → Bool) (q : Edge → Bool) :
    ¬(rebuild (d.nodes.filter p) (d.edges.filter q)).Breaks r := by
  refine Edit.not_breaks_of_eq_ok (rebuild_eq_ok.mpr ⟨rfl, brokenRule?_eq_none_iff.mpr ?_⟩)
  refine ⟨?_, ?_, ?_⟩
  · exact hd.nodeIds_nodup.sublist (List.filter_sublist.map _)
  · exact hd.edgeIds_nodup.sublist (List.filter_sublist.map _)
  · have hfields := hd.fieldIds_nodup
    rw [fieldIds_eq_flatMap] at hfields ⊢
    exact hfields.sublist (List.filter_sublist.flatMap _)

/-- One node less breaks no rule. -/
private theorem Sound.not_breaks_deleteNode (hd : d.Sound) : ¬(d.deleteNode id).Breaks r := by
  simp [deleteNode, hd.not_breaks_rebuild_filter]

/-- One edge less breaks no rule. -/
private theorem Sound.not_breaks_deleteEdge (hd : d.Sound) : ¬(d.deleteEdge id).Breaks r := by
  have hrebuild := hd.not_breaks_rebuild_filter (r := r) (fun _ => true) (·.id != id)
  rw [List.filter_true] at hrebuild
  unfold deleteEdge
  split
  · simp
  · exact hrebuild

/-! ### Adding -/

/-- A node without fields may be added to a sound document unless its id is in use. -/
theorem Sound.breaks_rebuild_node (hd : d.Sound) (hfields : n.fields = []) :
    (rebuild (d.nodes ++ [n]) d.edges).Breaks r ↔
      n.id ∈ d.nodeIds ∧ r = ⟨recordName, [⟨[], .rule .repeatedNodeId⟩]⟩ := by
  rw [breaks_rebuild]
  by_cases hmem : n.id ∈ d.nodeIds
  · -- Of the three rules, that on node ids is looked at first.
    have hrepeated : (firstRepeated? [] (nodeIds { d with nodes := d.nodes ++ [n] })).isSome := by
      rw [Option.isSome_iff_ne_none, ne_eq, firstRepeated?_eq_none_iff, nodeIds,
        nodup_map_append_singleton]
      exact fun h => h.1.1 hmem
    have hrule : brokenRule? { d with nodes := d.nodes ++ [n] } = some .repeatedNodeId := by
      rw [brokenRule?, if_pos hrepeated]
    simp [hmem, hrule]
  · have hnone : brokenRule? { d with nodes := d.nodes ++ [n] } = none := by
      refine brokenRule?_eq_none_iff.mpr ⟨?_, hd.edgeIds_nodup, ?_⟩
      · exact nodup_map_append_singleton.mpr ⟨hmem, hd.nodeIds_nodup⟩
      · have hkept : fieldIds { d with nodes := d.nodes ++ [n] } = d.fieldIds := by
          simp [fieldIds_eq_flatMap, hfields]
        exact hkept ▸ hd.fieldIds_nodup
    simp [hmem, hnone]

/-- A node is made before anything is rebuilt. -/
private theorem not_breaks_newNode {type : NodeType} :
    ¬(d.newNode type position v label ids).1.Breaks r := by
  unfold newNode
  dsimp only
  rw [Edit.breaks_bind, or_iff_right not_breaks_positionOf]
  rintro ⟨p, -, h⟩
  split at h <;> simp at h

/-- A new node is made of a position and, if a label is given, a text. Its id is the one that was
given or drawn, trimmed. -/
private theorem newNode_eq_ok {type : NodeType}
    (h : (d.newNode type position v label ids).1 = .ok n) :
    (∃ p, Position.given position = .ok p) ∧
      (label.truthy = true → ∃ text, label = .text text) ∧
      ((∃ s, v = .text s ∧ n.id = trim s) ∨
        (v.truthy = false ∧ n.id = trim (ids.drawNew "node" d.nodeIds).1)) := by
  unfold newNode at h
  dsimp only at h
  obtain ⟨p, hp, h⟩ := bind_eq_ok.mp h
  split at h
  · next hread =>
    obtain rfl := Except.ok.inj h
    rw [Checked.toExcept_eq_ok] at hread
    -- The id that is read is the one that was given, or the one that was drawn for want of it.
    obtain ⟨⟨s, hs, hid⟩, -⟩ := Node.readFields_sound hread
    have hvalue := Option.some.inj hs
    refine ⟨⟨p, positionOf_eq_ok.mp hp⟩, fun hgiven => ?_, ?_⟩
    · have hlabel := Node.label_of_readFields hread
      obtain ⟨w, hw, htext⟩ := Fields.require_eq_ok.mp hlabel
      have hw : (if label.truthy then label else .text type.word) = w := Option.some.inj hw
      rw [if_pos hgiven] at hw
      exact ⟨_, hw.trans (Reader.text_eq_ok.mp htext)⟩
    · -- A value that counts as given is taken for the id, even if it is blank.
      by_cases hgiven : v.truthy = true
      · rw [if_pos hgiven] at hvalue
        exact .inl ⟨s, hvalue, hid⟩
      · rw [if_neg hgiven] at hvalue
        obtain rfl := Value.text.inj hvalue
        exact .inr ⟨by simpa using hgiven, hid⟩
  · simp at h

/-- A position and a label make a new node of a text, if that is an id once it is trimmed. -/
private theorem exists_newNode {type : NodeType} {s : String} {p : Position} (hs : s ≠ "")
    (hid : IsId (trim s)) (hp : Position.given position = .ok p)
    (hlabel : label.truthy = true → ∃ text, label = .text text) :
    ∃ n, (d.newNode type position (.text s) label ids).1 = .ok n ∧ n.id = trim s := by
  obtain ⟨text, htext⟩ :
      ∃ text, (if label.truthy then label else .text type.word) = .text text := by
    by_cases hgiven : label.truthy = true
    · rw [if_pos hgiven]
      exact hlabel hgiven
    · exact ⟨type.word, if_neg hgiven⟩
  -- The node is read from these three fields; the others have their defaults.
  let fs : Fields := [("id", .text s), ("type", .text type.word), ("label", .text text)]
  have hread : Node.readFields fs = .ok { id := trim s, type, label := text } := by
    have hidRead : fs.require "id" Node.readId = .ok (trim s) := by
      refine Fields.require_of_get? rfl (Reader.checking_eq_ok.mpr ⟨s, rfl, ?_⟩)
      exact checkId_eq_ok.mpr ⟨rfl, hid.1.2, hid.2⟩
    have htype : fs.require "type" Reader.choice = .ok type :=
      Fields.require_of_get? rfl (Reader.choice_word type)
    have hlabelRead : fs.require "label" Reader.text = .ok text := Fields.require_of_get? rfl rfl
    rw [Node.readFields, hidRead, htype, hlabelRead]
    rfl
  have hgiven : (Value.text s).truthy = true := by simpa [Value.truthy] using hs
  unfold newNode
  simp only [hgiven, ↓reduceIte, htext, positionOf_eq_ok.mpr hp, ok_bind]
  rw [hread]
  exact ⟨_, rfl, rfl⟩

/-- The id of a new edge is new, if the search for it finds one. -/
private theorem newEdgeId_not_mem_of_drawsNew
    (hids : (Command.connect source target label).DrawsNew d ids) :
    (d.newEdgeId source target ids).1 ∉ d.edgeIds := by
  unfold newEdgeId
  dsimp only
  split
  · next htaken =>
    exact IdSource.drawNew_not_mem_of_finds (hids (List.contains_iff_mem.mp htaken))
  · next hfree => exact mt List.contains_iff_mem.mpr hfree

/-- An edge that is added under a new id breaks no rule. -/
private theorem Drafted.not_breaks_connect (hd : d.Drafted)
    (hids : (Command.connect source target label).DrawsNew d ids) :
    ¬(d.connect loops source target label ids).1.Breaks r := by
  unfold connect
  split
  · next he => exact Edit.not_breaks_of_error he not_breaks_requireNode
  · next he => exact Edit.not_breaks_of_error he not_breaks_requireNode
  · next hs ht =>
    rw [requireNode_eq_ok] at hs ht
    split
    · exact Edit.not_breaks_ok
    · split
      · exact Edit.not_breaks_ok
      · -- Past both guards an edge is made, under an id that the document does not have.
        have hnew := newEdgeId_not_mem_of_drawsNew hids
        dsimp only
        rw [toExcept_readFields_edge (hd.fit.isName hs) (hd.fit.isName ht)]
        cases Reader.nullable Reader.text label with
        | ok text => simp [hd.sound.rebuild_edge (e := ⟨_, source, target, text⟩) hnew]
        | bad problems => simp

/-- Adding a node fails in rebuilding exactly if it repeats an id, and then by the rule that node
ids are distinct. -/
private theorem Drafted.breaks_addNode (hd : d.Drafted)
    (hids : (Command.addNode type position v label).DrawsNew d ids) :
    (d.addNode type position v label ids).1.Breaks r ↔
      (Command.addNode type position v label).RepeatsId d ∧
        r = ⟨recordName, [⟨[], .rule .repeatedNodeId⟩]⟩ := by
  constructor
  · intro h
    unfold addNode at h
    split at h
    · simp at h
    · next t htype =>
      split at h
      · simp at h
      · next hfree =>
        simp only [Edit.breaks_bind, not_breaks_newNode, false_or, pure, Except.pure,
          Edit.not_breaks_ok, and_false, exists_false, or_false] at h
        obtain ⟨n, hn, h⟩ := h
        have hfresh : n.Fresh := newNode_fresh (Prod.ext hn rfl)
        obtain ⟨hmem, rfl⟩ := (hd.sound.breaks_rebuild_node hfresh.no_fields).mp h
        refine ⟨?_, rfl⟩
        obtain ⟨⟨p, hp⟩, hlabel, ⟨s, rfl, hid⟩ | ⟨hgiven, hid⟩⟩ := newNode_eq_ok hn
        · -- The text was not found among the ids, and what is left of it is one.
          refine .addNode htype hp hlabel (fun hs => ?_) (hid ▸ hmem)
          obtain ⟨x, hx⟩ := exists_node? hs
          simp [Value.text?, hx] at hfree
        · -- An id that is drawn is free, and trimming it changes nothing.
          obtain ⟨hfinds, hblankless⟩ := hids hgiven
          rw [hid, IdSource.trim_drawNew (by decide) hblankless] at hmem
          exact absurd hmem (IdSource.drawNew_not_mem_of_finds hfinds)
  · rintro ⟨@⟨_, _, _, s, t, p, htype, hp, hlabel, hnew, htrim⟩, rfl⟩
    have hs : s ≠ "" := by
      rintro rfl
      exact hnew htrim
    obtain ⟨n, hn, hid⟩ : ∃ n, (d.newNode t position (.text s) label ids).1 = .ok n ∧
        n.id = trim s := exists_newNode hs (hd.isId htrim) hp hlabel
    -- The look-up asks for the text as it was given, which is no id of the document.
    have hnode : d.node? s = none := by
      rw [Option.eq_none_iff_forall_ne_some]
      intro x hx
      obtain ⟨hmem, rfl⟩ := mem_of_node? hx
      exact hnew (List.mem_map_of_mem hmem)
    have hfresh : n.Fresh := newNode_fresh (Prod.ext hn rfl)
    have hbreaks := (hd.sound.breaks_rebuild_node hfresh.no_fields).mpr ⟨hid ▸ htrim, rfl⟩
    unfold addNode
    rw [htype]
    simp only [Value.text?, Option.bind_some, hnode]
    rw [Edit.breaks_bind]
    exact .inr ⟨n, hn, Edit.breaks_bind.mpr (.inl hbreaks)⟩

end Commands

end Document

/-- The checks of a command cover what rebuilding checks. Of all commands on a drafted document only
those that add a node fail in rebuilding it: exactly when the text that is given for the id is none
of the ids as it is written, and is one once it is trimmed. -/
theorem Command.apply_breaks_iff {c : Command} (hd : d.Drafted) (hids : c.DrawsNew d ids) :
    (c.apply loops d ids).1 = .error (.refused (.invalidDocument r)) ↔
      c.RepeatsId d ∧ r = ⟨Document.recordName, [⟨[], .rule .repeatedNodeId⟩]⟩ := by
  show (c.apply loops d ids).1.Breaks r ↔ _
  have hsound := hd.sound
  cases c with
  | addNode type position id label =>
    rw [apply, Edit.breaks_map]
    exact hd.breaks_addNode hids
  -- No other command repeats the id of a node, so it is enough that rebuilding does not fail.
  | connect source target label =>
    refine iff_of_false ?_ (by rintro ⟨⟨⟩, -⟩)
    rw [apply, Edit.breaks_map]
    exact hd.not_breaks_connect hids
  | moveNode id position =>
    exact iff_of_false (mt Edit.breaks_map.mp hsound.not_breaks_moveNode) (by rintro ⟨⟨⟩, -⟩)
  | updateNode id patch =>
    exact iff_of_false (mt Edit.breaks_map.mp hsound.not_breaks_updateNode) (by rintro ⟨⟨⟩, -⟩)
  | deleteNode id =>
    exact iff_of_false (mt Edit.breaks_map.mp hsound.not_breaks_deleteNode) (by rintro ⟨⟨⟩, -⟩)
  | deleteEdge id =>
    exact iff_of_false (mt Edit.breaks_map.mp hsound.not_breaks_deleteEdge) (by rintro ⟨⟨⟩, -⟩)
  | setFormMode id mode =>
    exact iff_of_false (mt Edit.breaks_map.mp hsound.not_breaks_setFormMode) (by rintro ⟨⟨⟩, -⟩)
  | addFormField id field =>
    exact iff_of_false (mt Edit.breaks_map.mp hsound.not_breaks_addFormField) (by rintro ⟨⟨⟩, -⟩)
  | updateFormField id fieldId patch =>
    exact iff_of_false (mt Edit.breaks_map.mp hsound.not_breaks_updateFormField)
      (by rintro ⟨⟨⟩, -⟩)
  | deleteFormField id fieldId =>
    exact iff_of_false (mt Edit.breaks_map.mp hsound.not_breaks_deleteFormField)
      (by rintro ⟨⟨⟩, -⟩)

namespace Sample

/-- The sample workflow without its review, and without the edges that touch it. -/
def unreviewed : Document where
  nodes := workflow.nodes.filter (·.id != "review")
  edges := workflow.edges.filter fun e => !e.touches "review"

private theorem drafted_unreviewed : unreviewed.Drafted := by
  have happly : ((Command.deleteNode "review").apply false workflow .counter).1 =
      .ok (unreviewed, .document) := rfl
  exact .command (.read accepted_workflow) happly

end Sample

/-- A task is added under the id of the draft with a blank before it, and an edge is connected under
a name that is drawn since its own one is in use. -/
theorem Command.apply_breaks_iff_sample :
    (∃ r, ((addNode (.text "Task") (.object []) (.text " draft") .null).apply false
      Sample.unreviewed .counter).1 = .error (.refused (.invalidDocument r))) ∧
    ∀ r, ((connect "a" "b-c" .null).apply false Sample.hyphened .counter).1 ≠
      .error (.refused (.invalidDocument r)) := by
  constructor
  · refine ⟨_, (apply_breaks_iff Sample.drafted_unreviewed ?_).mpr ⟨?_, rfl⟩⟩
    · exact fun h => absurd h (by decide)
    · -- The id is new as it is given, and in use once it is trimmed.
      refine .addNode (t := .task) (p := {}) ?_ ?_ ?_ ?_ ?_
      · decide
      · rfl
      · exact nofun
      · decide
      · decide
  · intro r hbreaks
    have hids : (connect "a" "b-c" .null).DrawsNew Sample.hyphened .counter := by
      intro _
      decide
    have hdrafted : Sample.hyphened.Drafted := .read Sample.accepted_hyphened
    cases ((apply_breaks_iff hdrafted hids).mp hbreaks).1

end CaseFlow
