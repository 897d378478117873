import CaseFlow.Proofs.Editor.Canonical
import CaseFlow.Proofs.Error.Kind

/-!
# Failures that the editor does not report

A command that fails should say so with an error about the document or about its arguments
(`Failure.Reported`). There are four arguments that a command takes apart without looking at them
first, and on which it fails in another way (`Command.Unchecked`): a label or a form in the patch of
a node, a field that is added, and the label of a new edge. In an accepted document these are the
only failures that go unreported (`Command.apply_unreported_iff`).

An edit is composed of steps, and a failure escapes a composed edit if it escapes one of the steps
(`Edit.escapes_bind`). So each function of the editor has one lemma here, which says what escapes
it.
-/

namespace CaseFlow

open CaseFlow.Text

variable {loops : Bool} {d : Document} {n : Node} {f : Failure} {ids : IdSource}

/-- A failure that says what is wrong with the document or with the arguments. -/
def Failure.Reported : Failure → Prop
  | .refused e => e.kind ∈ [.reference, .validation]
  | .rejected _ | .fault _ => False

/-- A fault is not reported as an error of the user. -/
@[simp]
theorem not_reported_fault {fault : Fault} : ¬(Failure.fault fault).Reported := id

/-- A rejection by a reader is not reported as an error of the user. -/
@[simp]
theorem not_reported_rejected {r : Rejection} : ¬(Failure.rejected r).Reported := id

/-- Of the refusals, those of a broken reference and of invalid input are reported. -/
@[simp]
theorem reported_refused {e : Error} :
    (Failure.refused e).Reported ↔ e.kind ∈ [.reference, .validation] := Iff.rfl

/-- The arguments that a command takes apart without a check, each where the checks before it pass,
and the failure of the command. -/
inductive Command.Unchecked (loops : Bool) (d : Document) : Command → Failure → Prop
  /-- The label of a node is patched with a value that is neither a text nor empty. -/
  | label {id : String} {n : Node} {patch : Fields} {v : Value} (hn : d.node? id = some n)
      (hnames : ∀ name ∈ patch.names, name ∈ Document.patchable)
      (hv : patch.get? "label" = some v) (hgiven : v.truthy = true) (htext : v.text? = none) :
      Unchecked loops d (.updateNode id patch) (.fault .labelKind)
  /-- The form of a node is patched with a value that is neither absent nor an object. -/
  | form {id : String} {n : Node} {patch : Fields} {v : Value} (hn : d.node? id = some n)
      (hnames : ∀ name ∈ patch.names, name ∈ Document.patchable) (htakes : n.Takes patch)
      (hv : patch.get? "form" = some v) (hgiven : v ≠ .null) (hobject : v.fields? = none) :
      Unchecked loops d (.updateNode id patch) (.fault .shape)
  /-- The field that is added to a form is no object. -/
  | field {id : String} {n : Node} {v : Value} (hn : d.node? id = some n)
      (hform : n.form.isSome) (hobject : v.fields? = none) :
      Unchecked loops d (.addFormField id v) (.fault .shape)
  /-- The label of a new edge is neither absent nor a text. -/
  | edgeLabel {source target : String} {label : Value} (hsource : (d.node? source).isSome)
      (htarget : (d.node? target).isSome) (hloop : source = target → loops = true)
      (hnew : d.isConnected source target = false) (hlabel : ¬label.IsNote) :
      Unchecked loops d (.connect source target label)
        (.rejected ⟨"WorkflowEdge", [⟨[.field "label"], .text⟩]⟩)

/-! ## Composed edits -/

namespace Edit

variable {α β : Type}

/-- An edit fails with `f`, which is not reported. -/
def Escapes (r : Edit α) (f : Failure) : Prop := r = .error f ∧ ¬f.Reported

/-- A success does not escape. -/
@[simp]
theorem not_escapes_ok {a : α} : ¬Escapes (.ok a) f := by
  simp [Escapes]

/-- A failure escapes exactly if it is not reported. -/
theorem escapes_error {f' : Failure} : Escapes (.error f' : Edit α) f ↔ f = f' ∧ ¬f'.Reported := by
  constructor
  · rintro ⟨h, hf⟩
    obtain rfl := Except.error.inj h
    exact ⟨rfl, hf⟩
  · rintro ⟨rfl, hf⟩
    exact ⟨rfl, hf⟩

/-- A refusal for want of a node, an edge or a field is reported. -/
theorem not_escapes_reference {e : Error} (h : e.kind = .reference) :
    ¬Escapes (refuse e : Edit α) f := by
  simp [refuse, escapes_error, h]

/-- A refusal of what is not valid is reported. -/
theorem not_escapes_invalid {e : Error} (h : e.kind = .validation) :
    ¬Escapes (refuse e : Edit α) f := by
  simp [refuse, escapes_error, h]

/-- What fails as a part that reports its failures does not escape either. -/
theorem not_escapes_of_error {x : Edit α} {f' : Failure} (hx : x = .error f')
    (h : ¬x.Escapes f') : ¬Escapes (.error f' : Edit β) f :=
  fun hf => h ⟨hx, (escapes_error.mp hf).2⟩

/-- What escapes a sequence escapes one of its steps. -/
@[simp]
theorem escapes_bind {x : Edit α} {g : α → Edit β} :
    Escapes (x >>= g) f ↔ x.Escapes f ∨ ∃ a, x = .ok a ∧ (g a).Escapes f := by
  cases x <;> simp [Escapes]

/-- What is made of a success does not matter. -/
@[simp]
theorem escapes_map {r : Edit α} {g : α → β} : Escapes (r.map g) f ↔ r.Escapes f := by
  cases r <;> simp [Escapes, Except.map]

/-- A success that is mapped escapes as little as any. -/
@[simp]
theorem escapes_fmap {r : Edit α} {g : α → β} : Escapes (g <$> r) f ↔ r.Escapes f := escapes_map

end Edit

namespace Document

variable {nodeId : String}

/-! ## What escapes the parts of a command -/

/-- A document that breaks a rule is refused as invalid. -/
@[simp]
theorem not_escapes_rebuild {nodes : List Node} {edges : List Edge} :
    ¬(rebuild nodes edges).Escapes f := by
  unfold rebuild
  dsimp only
  split
  · exact Edit.not_escapes_invalid (ErrorReport.kind_build _ _ _)
  · exact Edit.not_escapes_ok

/-- A replacement that breaks a rule is refused as invalid, so it does not escape. -/
@[simp]
theorem not_escapes_replaceNode : ¬(d.replaceNode n).Escapes f := not_escapes_rebuild

/-- A node that is missing is refused as a broken reference. -/
@[simp]
theorem not_escapes_requireNode : ¬(d.requireNode nodeId).Escapes f := by
  unfold requireNode
  split
  · exact Edit.not_escapes_ok
  · exact Edit.not_escapes_reference (ErrorReport.kind_build _ _ _)

@[simp]
theorem not_escapes_requireForm : ¬(requireForm n).Escapes f := by
  unfold requireForm
  split
  · exact Edit.not_escapes_ok
  · exact Edit.not_escapes_invalid (ErrorReport.kind_build _ _ _)

@[simp]
theorem not_escapes_requireField {form : Form} {fieldId : String} :
    ¬(requireField form nodeId fieldId).Escapes f := by
  unfold requireField
  split
  · exact Edit.not_escapes_ok
  · exact Edit.not_escapes_reference (ErrorReport.kind_build _ _ _)

/-- Whatever is wrong with a position, it is reported. -/
@[simp]
theorem not_escapes_positionOf {v : Value} : ¬(positionOf v).Escapes f := by
  unfold positionOf
  split
  · exact Edit.not_escapes_ok
  · exact Edit.not_escapes_invalid (ErrorReport.kind_build _ _ _)

/-- A field that cannot be read from an object is reported as invalid. -/
@[simp]
theorem not_escapes_fieldOf {fs : Fields} : ¬(fieldOf fs).Escapes f := by
  unfold fieldOf
  split
  · exact Edit.not_escapes_ok
  · exact Edit.not_escapes_invalid (ErrorReport.kind_build _ _ _)

/-- What is wrong with a field of a form is an error of validation. -/
private theorem kind_of_fieldError? {known : List String} {field : FormField} {e : Error}
    (h : fieldError? nodeId known field = some e) : e.kind = .validation := by
  unfold fieldError? at h
  split at h
  · obtain rfl := Option.some.inj h
    exact ErrorReport.kind_build _ _ _
  · split at h
    · split at h
      · obtain rfl := Option.some.inj h
        exact ErrorReport.kind_build _ _ _
      · cases h
    · cases h

/-- Fields that may not stand on a node are reported. -/
@[simp]
theorem not_escapes_checkFields {fields : List FormField} :
    ¬(d.checkFields nodeId fields).Escapes f := by
  unfold checkFields
  dsimp only
  split
  · exact Edit.not_escapes_invalid (ErrorReport.kind_build _ _ _)
  · split
    · next he =>
      obtain ⟨field, -, hfield⟩ := List.exists_of_findSome?_eq_some he
      exact Edit.not_escapes_invalid (kind_of_fieldError? hfield)
    · exact Edit.not_escapes_ok

/-- A form whose fields may not stand on its node is reported. -/
@[simp]
theorem not_escapes_withForm {form : Form} : ¬(d.withForm n form).Escapes f := by
  unfold withForm
  split
  · exact Edit.not_escapes_invalid (ErrorReport.kind_build _ _ _)
  · split
    · next hcheck => exact Edit.not_escapes_of_error hcheck not_escapes_checkFields
    · exact not_escapes_replaceNode

/-- A value that is no object is taken for one. -/
theorem escapes_objectOf {v : Value} :
    (objectOf v).Escapes f ↔ v.fields? = none ∧ f = .fault .shape := by
  cases v <;> simp [objectOf, Edit.escapes_error, Value.fields?]

/-- What is given as a form escapes exactly if it is no object. -/
theorem escapes_formOf {v : Value} :
    (formOf nodeId v).Escapes f ↔ v.fields? = none ∧ f = .fault .shape := by
  unfold formOf
  rw [Edit.escapes_bind, escapes_objectOf, or_iff_left]
  rintro ⟨fs, -, h⟩
  split at h
  · exact Edit.not_escapes_ok h
  · exact absurd h (Edit.not_escapes_invalid (ErrorReport.kind_build _ _ _))

/-! ## What escapes a patch -/

/-- A label that is neither a text nor empty is taken for a text. -/
private theorem escapes_patchLabel {v : Value} :
    (patchLabel n v).Escapes f ↔ v.truthy = true ∧ v.text? = none ∧ f = .fault .labelKind := by
  have hempty : ¬(Edit.refuse (.emptyLabel n.id) : Edit Node).Escapes f :=
    Edit.not_escapes_invalid (ErrorReport.kind_build _ _ _)
  unfold patchLabel
  -- A label that counts as not given is refused as an empty one.
  by_cases hgiven : v.truthy = true
  · simp only [hgiven, Bool.not_true, Bool.false_eq_true, ↓reduceIte, true_and]
    split
    · split
      · simp [hempty, Value.text?]
      · simp [Value.text?]
    · next htext =>
      have hnone : v.text? = none := by
        cases v with
        | text s => exact absurd rfl (htext s)
        | _ => rfl
      simp [Edit.escapes_error, hnone]
  · simp [hgiven, hempty]

@[simp]
theorem not_escapes_patchAssignee {v : Value} : ¬(patchAssignee n v).Escapes f := by
  unfold patchAssignee
  split
  · exact Edit.not_escapes_invalid (ErrorReport.kind_build _ _ _)
  · exact Edit.not_escapes_ok

/-- A patch of a node escapes exactly if it has a label that counts as given and is no text. -/
theorem escapes_patchNode {patch : Fields} :
    (patchNode n patch).Escapes f ↔ ∃ v, patch.get? "label" = some v ∧ v.truthy = true ∧
      v.text? = none ∧ f = .fault .labelKind := by
  rw [patchNode_eq, Edit.escapes_bind, or_iff_left]
  · cases patch.get? "label" with
    | none => simp
    | some v => simp [escapes_patchLabel]
  · rintro ⟨a, -, h⟩
    cases hv : patch.get? "assignee_id" <;> simp [hv] at h

/-! ## What escapes each command -/

section Commands

variable {id fieldId source target : String} {type position v label : Value} {patch : Fields}

/-- A node that cannot be made is reported. -/
private theorem not_escapes_newNode {type : NodeType} :
    ¬(d.newNode type position v label ids).1.Escapes f := by
  unfold newNode
  dsimp only
  rw [Edit.escapes_bind, or_iff_right not_escapes_positionOf]
  rintro ⟨p, -, h⟩
  split at h
  · exact Edit.not_escapes_ok h
  · exact absurd h (Edit.not_escapes_invalid (ErrorReport.kind_build _ _ _))

/-- Whatever is given to add a node, its refusals are reported. -/
@[simp]
theorem not_escapes_addNode : ¬(d.addNode type position v label ids).1.Escapes f := by
  unfold addNode
  split
  · exact Edit.not_escapes_invalid (ErrorReport.kind_build _ _ _)
  · split
    · exact Edit.not_escapes_invalid (ErrorReport.kind_build _ _ _)
    · simp [not_escapes_newNode]

@[simp]
theorem not_escapes_moveNode : ¬(d.moveNode id position).Escapes f := by
  simp [moveNode]

/-- A deletion fails only where the node is missing, which is reported. -/
@[simp]
theorem not_escapes_deleteNode : ¬(d.deleteNode id).Escapes f := by
  simp [deleteNode]

@[simp]
theorem not_escapes_deleteEdge : ¬(d.deleteEdge id).Escapes f := by
  unfold deleteEdge
  split
  · exact Edit.not_escapes_reference (ErrorReport.kind_build _ _ _)
  · exact not_escapes_rebuild

@[simp]
theorem not_escapes_setFormMode : ¬(d.setFormMode id v).Escapes f := by
  unfold setFormMode
  rw [Edit.escapes_bind, or_iff_right not_escapes_requireNode]
  rintro ⟨n, -, h⟩
  split at h
  · exact absurd h (Edit.not_escapes_invalid (ErrorReport.kind_build _ _ _))
  · exact not_escapes_withForm h

@[simp]
theorem not_escapes_updateFormField : ¬(d.updateFormField id fieldId patch).Escapes f := by
  simp [updateFormField]

@[simp]
theorem not_escapes_deleteFormField : ¬(d.deleteFormField id fieldId).Escapes f := by
  simp [deleteFormField]

/-- A field to be added escapes exactly if it is no object, on a node with a form. -/
private theorem escapes_addFormField :
    (d.addFormField id v).Escapes f ↔ (Command.addFormField id v).Unchecked loops d f := by
  simp only [addFormField, Edit.escapes_bind, not_escapes_requireNode, not_escapes_requireForm,
    not_escapes_fieldOf, not_escapes_withForm, requireNode_eq_ok, requireForm_eq_ok,
    escapes_objectOf, false_or, and_false, exists_false, or_false]
  constructor
  · rintro ⟨n, hn, form, hform, hobject, rfl⟩
    exact .field hn (by simp [hform]) hobject
  · rintro (_ | _ | ⟨hn, hform, hobject⟩)
    obtain ⟨form, hform⟩ := Option.isSome_iff_exists.mp hform
    exact ⟨_, hn, form, hform, hobject, rfl⟩

/-- A patch escapes exactly through its label, on a node that is there. -/
theorem escapes_updateNode :
    (d.updateNode id patch).Escapes f ↔ (Command.updateNode id patch).Unchecked loops d f := by
  unfold updateNode
  -- The node is looked up, the names in the patch are checked, label and assignee are patched, and
  -- then the form.
  rw [Edit.escapes_bind, or_iff_right not_escapes_requireNode]
  simp only [requireNode_eq_ok]
  constructor
  · rintro ⟨n, hn, h⟩
    split at h
    · exact absurd h (Edit.not_escapes_invalid (ErrorReport.kind_build _ _ _))
    · next hlocked =>
      have hnames := lockedNames_eq_nil_iff.mp (by simpa using hlocked)
      obtain h | ⟨m, hm, h⟩ := Edit.escapes_bind.mp h
      · obtain ⟨v, hv, hgiven, htext, rfl⟩ := escapes_patchNode.mp h
        exact .label hn hnames hv hgiven htext
      · have htakes := (patchNode_eq_ok.mp hm).1
        split at h
        · exact absurd h not_escapes_replaceNode
        · exact absurd h not_escapes_replaceNode
        · next v hgiven hv =>
          simp only [Edit.escapes_bind, escapes_formOf, not_escapes_replaceNode,
            not_escapes_withForm, and_false, exists_false, or_false] at h
          -- All that can escape with a form is that it is no object.
          obtain ⟨hobject, rfl⟩ := h
          exact .form hn hnames htakes hv hgiven hobject
  · -- The checks before pass, so what is left is the step that fails.
    have hpasses (hnames : ∀ name ∈ patch.names, name ∈ patchable) :
        ¬(!(lockedNames patch).isEmpty) = true := by
      simp [lockedNames_eq_nil_iff.mpr hnames]
    rintro (⟨hn, hnames, hv, hgiven, htext⟩ | ⟨hn, hnames, htakes, hv, hgiven, hobject⟩)
    · refine ⟨_, hn, ?_⟩
      rw [if_neg (hpasses hnames)]
      exact Edit.escapes_bind.mpr (.inl (escapes_patchNode.mpr ⟨_, hv, hgiven, htext, rfl⟩))
    · refine ⟨_, hn, ?_⟩
      rw [if_neg (hpasses hnames)]
      refine Edit.escapes_bind.mpr (.inr ⟨_, patchNode_eq_ok.mpr ⟨htakes, rfl⟩, ?_⟩)
      split
      · next hnone => simp [hnone] at hv
      · next hnull => exact absurd (Option.some.inj (hv.symm.trans hnull)) hgiven
      · next w _ hw =>
        obtain rfl := Option.some.inj (hv.symm.trans hw)
        exact Edit.escapes_bind.mpr (.inl (escapes_formOf.mpr ⟨hobject, rfl⟩))

/-- An edge between two names is refused for its label, or read. -/
theorem toExcept_readFields_edge {edgeId : String} (hsource : IsName source)
    (htarget : IsName target) :
    (Edge.readFields [("id", .text edgeId), ("source", .text source), ("target", .text target),
      ("label", label)]).toExcept "WorkflowEdge" =
        match Reader.nullable Reader.text label with
        | .ok text => .ok ⟨edgeId, source, target, text⟩
        | .bad _ => .error ⟨"WorkflowEdge", [⟨[.field "label"], .text⟩]⟩ := by
  let fs : Fields := [("id", .text edgeId), ("source", .text source), ("target", .text target),
    ("label", label)]
  -- Both ends are names, so that only the label can be refused.
  have hend {name : String} {s : String} (hs : IsName s) (hv : fs.get? name = some (.text s)) :
      fs.require name Edge.readEnd = .ok s :=
    Fields.require_of_get? hv (Reader.checking_eq_ok.mpr ⟨s, rfl, hs.checkNotBlank⟩)
  have hid : fs.require "id" Reader.text = .ok edgeId := Fields.require_of_get? rfl rfl
  show (Edge.readFields fs).toExcept "WorkflowEdge" = _
  rw [Edge.readFields, hid, hend hsource rfl, hend htarget rfl]
  cases label <;> rfl

/-- A connection escapes exactly through a label that is no text, where the edge would be made. -/
private theorem escapes_connect (hd : d.Accepted) :
    (d.connect loops source target label ids).1.Escapes f ↔
      (Command.connect source target label).Unchecked loops d f := by
  have hfit : d.Fit True := hd.fit
  -- Nothing escapes the look-up of the two ends; the label is read when the edge is made.
  unfold connect
  constructor
  · intro h
    split at h
    · next he => exact absurd h (Edit.not_escapes_of_error he not_escapes_requireNode)
    · next he => exact absurd h (Edit.not_escapes_of_error he not_escapes_requireNode)
    · next hs ht =>
      rw [requireNode_eq_ok] at hs ht
      split at h
      · exact absurd h Edit.not_escapes_ok
      · next hloop =>
        split at h
        · exact absurd h Edit.not_escapes_ok
        · next hnew =>
          dsimp only at h
          rw [toExcept_readFields_edge (hfit.isName hs) (hfit.isName ht)] at h
          cases hread : Reader.nullable Reader.text label with
          | ok text => simp [hread] at h
          | bad problems =>
            simp only [hread, Edit.escapes_error] at h
            -- The edge is made and its label refused by the reader, which nobody reports.
            obtain ⟨rfl, -⟩ := h
            refine .edgeLabel (by simp [hs]) (by simp [ht]) (by simpa using hloop)
              (by simpa using hnew) ?_
            rintro ⟨text, htext⟩
            rw [Reader.nullable_text_eq_ok.mpr htext] at hread
            cases hread
  · rintro (_ | _ | _ | ⟨hs, ht, hloop, hnew, hlabel⟩)
    obtain ⟨a, hs⟩ := Option.isSome_iff_exists.mp hs
    obtain ⟨b, ht⟩ := Option.isSome_iff_exists.mp ht
    rw [requireNode_eq_ok.mpr hs, requireNode_eq_ok.mpr ht]
    dsimp only
    rw [if_neg (by simpa using hloop), if_neg (by simp [hnew])]
    dsimp only
    rw [toExcept_readFields_edge (hfit.isName hs) (hfit.isName ht)]
    cases hread : Reader.nullable Reader.text label with
    | ok text => exact absurd ⟨text, Reader.nullable_text_eq_ok.mp hread⟩ hlabel
    | bad problems => exact Edit.escapes_error.mpr ⟨rfl, not_reported_rejected⟩

end Commands

end Document

/-- A command on an accepted document fails without saying what is wrong with the document or with
its arguments exactly if it gets an argument that it does not check. -/
theorem Command.apply_unreported_iff {c : Command} (hd : d.Accepted) :
    ((c.apply loops d ids).1 = .error f ∧ ¬f.Reported) ↔ c.Unchecked loops d f := by
  show (c.apply loops d ids).1.Escapes f ↔ _
  -- Three commands take what they do not check; the others have no such argument.
  cases c with
  | addNode type position id label => exact iff_of_false (by simp [apply]) (by rintro ⟨⟩)
  | moveNode id position => exact iff_of_false (by simp [apply]) (by rintro ⟨⟩)
  | connect source target label =>
    rw [apply, Edit.escapes_map]
    exact Document.escapes_connect hd
  | updateNode id patch =>
    rw [apply, Edit.escapes_map]
    exact Document.escapes_updateNode
  | deleteNode id => exact iff_of_false (by simp [apply]) (by rintro ⟨⟩)
  | deleteEdge id => exact iff_of_false (by simp [apply]) (by rintro ⟨⟩)
  | setFormMode id mode => exact iff_of_false (by simp [apply]) (by rintro ⟨⟩)
  | addFormField id field =>
    rw [apply, Edit.escapes_map]
    exact Document.escapes_addFormField
  | updateFormField id fieldId patch => exact iff_of_false (by simp [apply]) (by rintro ⟨⟩)
  | deleteFormField id fieldId => exact iff_of_false (by simp [apply]) (by rintro ⟨⟩)

/-- Two nodes are connected by an edge whose label is a number. -/
theorem Command.apply_unreported_iff_sample :
    let f : Failure := .rejected ⟨"WorkflowEdge", [⟨[.field "label"], .text⟩]⟩
    ((connect "start" "review" (.int 5)).apply false Sample.workflow .counter).1 = .error f ∧
      ¬f.Reported := by
  refine (apply_unreported_iff Sample.accepted_workflow).mpr (.edgeLabel ?_ ?_ ?_ ?_ ?_)
  · decide
  · decide
  · decide
  · decide
  · rintro ⟨s, hs⟩
    cases s <;> cases hs

/-- Not every failure on an accepted document is reported: the label of a node may be patched with a
number. -/
theorem Command.apply_not_reported :
    ¬∀ (c : Command) (loops : Bool) (d : Document) (ids : IdSource) (f : Failure), d.Accepted →
      (c.apply loops d ids).1 = .error f → f.Reported := by
  intro h
  have hunchecked : (updateNode "draft" [("label", .int 5)]).Unchecked false Sample.workflow
      (.fault .labelKind) := .label rfl (by decide) rfl (by decide) rfl
  have hescapes := Document.escapes_updateNode.mpr hunchecked
  refine h (.updateNode "draft" [("label", .int 5)]) false Sample.workflow .counter
    (.fault .labelKind) Sample.accepted_workflow ?_
  rw [apply, hescapes.1]
  rfl

end CaseFlow
