import CaseFlow.Proofs.Workflow.Canonical

/-!
# The normal form of documents

Whatever value a document is read from, the document is in normal form: its ids are made of id
characters and distinct, edges have ends, only tasks carry forms, no readonly field is required and
no option is blank; and what it is written as reads as the same document
(`Document.read_normal`).

The checks of the reader are made field by field, and the whole document is checked last. That all
of them hold together, and go on holding when they are made again, is what a canonical document is;
so it is enough to see that the documents in normal form are the canonical ones
(`Document.canonical_iff_normal`).
-/

namespace CaseFlow

open CaseFlow.Text

/-! ## Options and fields -/

/-- Nothing is dropped from a list and nothing in it is trimmed exactly when it has names only. -/
theorem dropBlank_eq_self_iff {xs : List String} : dropBlank xs = xs ↔ ∀ x ∈ xs, IsName x := by
  constructor
  · intro h x hx
    -- What is left of the list was trimmed before, and is not blank.
    rw [← h] at hx
    obtain ⟨hmapped, hkept⟩ := List.mem_filter.mp hx
    obtain ⟨y, -, rfl⟩ := List.mem_map.mp hmapped
    exact ⟨trim_trim y, by simpa using hkept⟩
  · intro h
    have hmap : xs.map trim = xs :=
      (List.map_congr_left fun x hx => (h x hx).1).trans (List.map_id' xs)
    rw [dropBlank, hmap, List.filter_eq_self]
    intro x hx
    simpa using (h x hx).2

namespace Document

variable {d : Document}

/-! ## Documents in normal form -/

/-- A document in normal form. -/
structure Normal (d : Document) : Prop where
  /-- The ids of nodes are trimmed, not empty, and made of id characters. -/
  nodeId_isId : ∀ n ∈ d.nodes, IsId n.id
  /-- So are the ids of fields. -/
  fieldId_isId : ∀ n ∈ d.nodes, ∀ f ∈ n.fields, IsId f.id
  /-- No two nodes share an id. -/
  nodeIds_nodup : d.nodeIds.Nodup
  /-- No two edges share an id. -/
  edgeIds_nodup : d.edgeIds.Nodup
  /-- No two fields of the document share an id. -/
  fieldIds_nodup : d.fieldIds.Nodup
  /-- The ends of edges are trimmed and not empty. -/
  ends_isName : ∀ e ∈ d.edges, IsName e.source ∧ IsName e.target
  /-- Only tasks carry forms. -/
  form_task : ∀ n ∈ d.nodes, n.form.isSome → n.type = .task
  /-- No readonly field is required. -/
  readonly_not_required : ∀ n ∈ d.nodes, ∀ f ∈ n.fields, f.isReadonly = true → f.required = false
  /-- The options of fields are trimmed and not empty. -/
  options_isName : ∀ n ∈ d.nodes, ∀ f ∈ n.fields, ∀ xs, f.options = some xs → ∀ x ∈ xs, IsName x

/-- The documents in normal form are the canonical ones. -/
theorem canonical_iff_normal : d.Canonical ↔ d.Normal := by
  constructor
  · intro h
    obtain ⟨hnodes, hedges, hfields⟩ := brokenRule?_eq_none_iff.mp h.brokenRule?_eq_none
    have hfield {n : Node} (hn : n ∈ d.nodes) {f : FormField} (hf : f ∈ n.fields) :
        f.Canonical := by
      obtain ⟨form, hform, hmem⟩ := Node.mem_fields.mp hf
      exact (h.nodes_canonical n hn).form_canonical form hform f hmem
    -- The normal form says of the document as a whole what being canonical says part by part.
    exact {
      nodeId_isId := fun n hn => (h.nodes_canonical n hn).id_isId
      fieldId_isId := fun n hn f hf => (hfield hn hf).id_isId
      nodeIds_nodup := hnodes
      edgeIds_nodup := hedges
      fieldIds_nodup := hfields
      ends_isName := fun e he =>
        ⟨(h.edges_canonical e he).source_isName, (h.edges_canonical e he).target_isName⟩
      form_task := fun n hn => (h.nodes_canonical n hn).form_task
      readonly_not_required := fun n hn f hf hreadonly =>
        (hfield hn hf).not_required (beq_iff_eq.mp hreadonly)
      options_isName := fun n hn f hf xs hxs =>
        dropBlank_eq_self_iff.mp ((hfield hn hf).options_eq xs hxs) }
  · intro h
    -- Conversely, each part takes what the normal form says of it.
    refine ⟨fun n hn => ?_, fun e he => ?_, ?_⟩
    · refine ⟨h.nodeId_isId n hn, h.form_task n hn, fun form hform f hf => ?_⟩
      have hmem : f ∈ n.fields := Node.mem_fields.mpr ⟨form, hform, hf⟩
      refine ⟨h.fieldId_isId n hn f hmem, fun hreadonly => ?_, fun xs hxs => ?_⟩
      · exact h.readonly_not_required n hn f hmem (beq_iff_eq.mpr hreadonly)
      · exact dropBlank_eq_self_iff.mpr (h.options_isName n hn f hmem xs hxs)
    · exact ⟨(h.ends_isName e he).1, (h.ends_isName e he).2⟩
    · exact brokenRule?_eq_none_iff.mpr ⟨h.nodeIds_nodup, h.edgeIds_nodup, h.fieldIds_nodup⟩

/-- Whatever value a document is read from, it is in normal form, and it is read again from what it
is written as. -/
theorem read_normal {v : Value} (h : read v = .ok d) : d.Normal ∧ read d.toValue = .ok d := by
  obtain ⟨hcanonical, hplain⟩ := accepted_iff.mp ⟨v, h⟩
  exact ⟨canonical_iff_normal.mp hcanonical, hcanonical.read_toValue hplain⟩

end Document

/-! ## A value with much to be trimmed -/

namespace Sample

/-- A workflow whose ids, ends and options have blanks around them, with a readonly field that is
said to be required and a place that is no number. -/
def roughWorkflow : Value :=
  .object [("nodes", .list
      [.object [("id", .text " start "), ("type", .text "Start"), ("label", .text ""),
          ("position", .object [("x", .text "nan"), ("y", .int 3)])],
        .object [("id", .text "draft\n"), ("type", .text "Task"), ("label", .text "Draft"),
          ("form", .object [("fields", .list
            [.object [("id", .text "\tgrade"), ("label", .text "Grade"), ("type", .text "select"),
                ("options", .list [.text " A", .text " ", .text "B "])],
              .object [("id", .text "shown"), ("label", .text "Grade"), ("required", .text "yes"),
                ("type", .text "readonly-text")]])])]]),
    ("edges", .list [.object [("id", .text " e "), ("source", .text "start "),
      ("target", .text " draft")]])]

end Sample

/-- The rough workflow is read, and what is read of it is in normal form. -/
theorem Document.read_normal_sample : ∃ d, read Sample.roughWorkflow = .ok d ∧
    d.nodeIds = ["start", "draft"] ∧ d.edgeIds = [" e "] ∧ d.fieldIds = ["grade", "shown"] ∧
      (d.nodes.map fun n => n.position.x.isNaN) = [true, false] ∧
      d.Normal ∧ read d.toValue = .ok d := by
  have hread : (read Sample.roughWorkflow).toOption.map (fun d =>
      (d.nodeIds, d.edgeIds, d.fieldIds, d.nodes.map fun n => n.position.x.isNaN))
      = some (["start", "draft"], [" e "], ["grade", "shown"], [true, false]) := by decide +kernel
  -- That it is read, and as what, is decided; that this is in normal form is the theorem.
  cases h : read Sample.roughWorkflow with
  | bad problems =>
    rw [h] at hread
    cases hread
  | ok d =>
    rw [h, Checked.toOption, Option.map_some, Option.some.injEq, Prod.mk.injEq, Prod.mk.injEq,
      Prod.mk.injEq] at hread
    obtain ⟨hnodes, hedges, hfields, hplaces⟩ := hread
    exact ⟨d, rfl, hnodes, hedges, hfields, hplaces, read_normal h⟩

end CaseFlow
