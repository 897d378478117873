import CaseFlow.Proofs.Workflow.Canonical
import CaseFlow.Workflow.Validation

/-!
# What validation finds

Validation reports errors, which make a document invalid, and warnings, which do not. The only
errors are edges without their nodes, so a document is valid exactly if both ends of every edge are
nodes (`Document.isValid_validate_iff`). A document in which nothing at all is found is navigable
(`Document.Clean.navigable`): cases have a step to begin at, and every step that is not final has a
way out.

A workflow is checked as it is given and read again from what was stored. Reading trims the ids of
nodes and the ends of edges alike, so the workflow that is read is as valid as the one that was
checked (`Document.Linked.of_read`).
-/

namespace CaseFlow.Document

open CaseFlow.Text

variable {d d' : Document} {users : Option (List String)}

/-- Both ends of every edge are nodes. -/
def Linked (d : Document) : Prop := ∀ e ∈ d.edges, e.source ∈ d.nodeIds ∧ e.target ∈ d.nodeIds

/-- A document is valid exactly when both ends of every edge are nodes. -/
theorem isValid_validate_iff : (d.validate users).report.isValid = true ↔ d.Linked := by
  simp only [Linked, validate, Findings.report, List.isEmpty_iff, List.flatMap_eq_nil_iff,
    edgeErrors, List.append_eq_nil_iff]
  refine forall₂_congr fun e _ => ?_
  by_cases hsource : e.source ∈ d.nodeIds <;> by_cases htarget : e.target ∈ d.nodeIds <;>
    simp [hsource, htarget]

/-- A document of which validation reports neither errors nor warnings. -/
def Clean (users : Option (List String)) (d : Document) : Prop :=
  (d.validate users).report.errors = [] ∧ (d.validate users).report.warnings = []

instance : Decidable (d.Clean users) := inferInstanceAs (Decidable (_ ∧ _))

/-- A document in which cases can begin and move on. -/
structure Navigable (d : Document) : Prop where
  /-- There is a step to begin at. -/
  starts_ne : d.starts ≠ []
  /-- Every way out leads to a step. -/
  linked : d.Linked
  /-- A step that is not final has a way out. -/
  outgoing_ne : ∀ n ∈ d.nodes, n.type ≠ .finish → d.outgoing n.id ≠ []
  /-- A step whose form is filled in has no more than one. -/
  outgoing_fill : ∀ n ∈ d.nodes, ∀ form, n.form = some form → form.mode = .fill →
    (d.outgoing n.id).length ≤ 1

/-- A node without smells has a way out, and not several if its form is filled in. -/
private theorem outgoing_of_nodeSmells {n : Node} (h : d.nodeSmells users n = []) :
    (n.type ≠ .finish → d.outgoing n.id ≠ []) ∧
      ∀ form, n.form = some form → form.mode = .fill → (d.outgoing n.id).length ≤ 1 := by
  simp only [nodeSmells, List.append_eq_nil_iff] at h
  obtain ⟨⟨⟨hdead, hfill⟩, -⟩, -⟩ := h
  constructor
  · intro htype hnone
    simp [htype, hnone] at hdead
  · intro form hform hmode
    by_contra hmany
    simp [hform, hmode, not_le.mp hmany] at hfill

/-- Nothing is found in a document only if it is navigable. -/
theorem Clean.navigable (h : d.Clean users) : d.Navigable := by
  obtain ⟨herrors, hwarnings⟩ := h
  have hvalid : (d.validate users).report.isValid = true := by
    rw [Findings.report, List.isEmpty_iff]
    exact List.map_eq_nil_iff.mp herrors
  have hsmells : (d.validate users).smells = [] := List.map_eq_nil_iff.mp hwarnings
  simp only [validate, List.append_eq_nil_iff, List.flatMap_eq_nil_iff] at hsmells
  obtain ⟨⟨hstarts, hnodes⟩, -⟩ := hsmells
  have hout := fun n hn => outgoing_of_nodeSmells (hnodes n hn)
  refine ⟨?_, isValid_validate_iff.mp hvalid, fun n hn => (hout n hn).1, fun n hn => (hout n hn).2⟩
  rintro hnone
  simp [startSmells, hnone] at hstarts

/-! ## Reading a linked document -/

/-- A document is read from a written one node by node and edge by edge. -/
theorem forall₂_of_read (h : read d.toValue = .ok d') :
    List.Forall₂ (fun n n' => Node.read n.toValue = .ok n') d.nodes d'.nodes ∧
      List.Forall₂ (fun e e' => Edge.read e.toValue = .ok e') d.edges d'.edges := by
  simp only [read, readFields, Reader.record_eq_ok, Checked.andThen_eq_ok, Checked.seq_eq_ok,
    Checked.map_eq_ok] at h
  obtain ⟨fs, hfs, _, ⟨_, edges, ⟨nodes, hnodes, rfl⟩, hedges, rfl⟩, hids⟩ := h
  obtain rfl := Value.object.inj hfs
  -- The check of the ids lets the document through as it is.
  have hd' : Document.mk nodes edges = d' := by
    unfold checkIds at hids
    split at hids
    · simp at hids
    · exact Checked.ok.inj hids
  subst hd'
  exact ⟨Reader.list_map_eq_ok.mp (Checked.under_eq_ok.mp hnodes),
    Reader.list_map_eq_ok.mp (Checked.under_eq_ok.mp hedges)⟩

/-- A node is read with its id trimmed. -/
theorem id_of_readNode {n n' : Node} (h : Node.read n.toValue = .ok n') : n'.id = trim n.id := by
  obtain ⟨fs, hfs, hread⟩ := Reader.record_eq_ok.mp h
  obtain rfl := Value.object.inj hfs
  obtain ⟨⟨s, hs, hid⟩, -⟩ := Node.readFields_sound hread
  rw [hid, Value.text.inj (Option.some.inj hs)]

/-- A node is read with the kind and the assignee that it has. -/
theorem type_assignee_of_readNode {n n' : Node} (h : Node.read n.toValue = .ok n') :
    n'.type = n.type ∧ n'.assignee = n.assignee := by
  obtain ⟨fs, hfs, hread⟩ := Reader.record_eq_ok.mp h
  obtain rfl := Value.object.inj hfs
  obtain ⟨-, htype, hassignee, -⟩ := Node.readFields_sound hread
  constructor
  · obtain ⟨v, hv, hchoice⟩ := Fields.require_eq_ok.mp htype
    obtain rfl := Option.some.inj hv
    exact Checked.ok.inj (hchoice.symm.trans (Reader.choice_word n.type))
  · exact (Node.readNote_eq_ok.mp (Fields.read_of_optional rfl hassignee)).2

/-- Whoever reads a linked document gets one: ids and ends are trimmed alike. -/
theorem Linked.of_read (hd : d.Linked) (h : read d.toValue = .ok d') : d'.Linked := by
  obtain ⟨hnodes, hedges⟩ := forall₂_of_read h
  -- Each node is read as one whose id is trimmed.
  have hid : ∀ id ∈ d.nodeIds, trim id ∈ d'.nodeIds := by
    intro id hid
    obtain ⟨n, hn, rfl⟩ := List.mem_map.mp hid
    obtain ⟨n', hn', hread⟩ := exists_of_forall₂ hnodes hn
    rw [← id_of_readNode hread]
    exact List.mem_map_of_mem hn'
  intro e' he'
  obtain ⟨e, he, hread⟩ := exists_of_forall₂ hedges.flip he'
  obtain ⟨fs, hfs, hends⟩ := Reader.record_eq_ok.mp hread
  obtain rfl := Value.object.inj hfs
  obtain ⟨hsource, htarget⟩ := Edge.readFields_sound hends
  rw [hsource, htarget]
  exact ⟨hid _ (hd e he).1, hid _ (hd e he).2⟩

end CaseFlow.Document
