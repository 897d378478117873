import CaseFlow.Editor.Session
import CaseFlow.Proofs.Editor.Revision
import CaseFlow.Proofs.Workflow.Validation

/-!
# The structure of edited documents

Whatever commands an editor is given, in whatever order and with whatever arguments, the documents
that it holds are sound; and if the first of them is tidy, with edges between nodes of the
document, no two of them between the same nodes, and no assignee, field or loop that the commands
would have refused, then all of them are tidy and valid (`Editor.session_sound_tidy`).

Both are invariants of revisions. Rebuilding a document checks its ids; everything else rests on
what `Document.Revision` says of the nodes and edges that are new.
-/

namespace CaseFlow

variable {d d' : Document} {loops : Bool} {m n : Node}

namespace Document

/-- A document without the flaws that an editor would not introduce. -/
structure Tidy (loops : Bool) (d : Document) : Prop where
  /-- Every edge leads from a node of the document to another. -/
  ends_mem : ∀ e ∈ d.edges, e.source ∈ d.nodeIds ∧ e.target ∈ d.nodeIds
  /-- No two edges connect the same nodes in the same direction. -/
  ends_nodup : (d.edges.map fun e => (e.source, e.target)).Nodup
  /-- Only tasks are assigned. -/
  assigned_task : ∀ n ∈ d.nodes, n.isGated = true → n.type = .task
  /-- Every select field has options. -/
  options : ∀ n ∈ d.nodes, ∀ f ∈ n.fields, f.HasOptions
  /-- Where loops are not wanted, no edge is a loop. -/
  no_loops : loops = false → ∀ e ∈ d.edges, e.source ≠ e.target

/-! ## Nodes and edges of a revision -/

/-- Replacing a node replaces no id. -/
@[simp]
theorem nodeIds_replaced : nodeIds { d with nodes := d.replaced m } = d.nodeIds := by
  simp only [nodeIds, replaced, List.map_map]
  refine List.map_congr_left fun n _ => ?_
  by_cases h : n.id = m.id <;> simp [h]

/-- A node after a replacement is the new one or one from before. -/
theorem mem_replaced (h : n ∈ d.replaced m) : n = m ∨ n ∈ d.nodes :=
  (mem_map_key_iff.mp h).imp And.left And.left

namespace Revision

/-- Every node of a revision was there, is fresh, or was made of one that was there. -/
theorem mem_nodes (h : Revision loops d d') (hm : m ∈ d'.nodes) :
    m ∈ d.nodes ∨ m.Fresh ∨ ∃ n ∈ d.nodes, n.EditedTo m := by
  cases h with
  | unchanged => exact .inl hm
  | nodeAdded hfresh =>
    rcases List.mem_append.mp hm with hm | hm
    · exact .inl hm
    · exact .inr (.inl (List.mem_singleton.mp hm ▸ hfresh))
  | nodeReplaced hn hedit =>
    rcases mem_replaced hm with rfl | hm
    · exact .inr (.inr ⟨_, hn, hedit⟩)
    · exact .inl hm
  | nodeRemoved => exact .inl (List.mem_filter.mp hm).1
  | edgeAdded => exact .inl hm
  | edgeRemoved => exact .inl hm

/-- The edges of a revision are some of those that were there, in their order, or all of them and a
new one that connects nodes of the document. -/
theorem edges_eq (h : Revision loops d d') : d'.edges.Sublist d.edges ∨
    ∃ e, d'.edges = d.edges ++ [e] ∧ d.isConnected e.source e.target = false ∧
      (e.source = e.target → loops = true) := by
  cases h with
  | unchanged => exact .inl (List.Sublist.refl _)
  | nodeAdded => exact .inl (List.Sublist.refl _)
  | nodeReplaced => exact .inl (List.Sublist.refl _)
  | nodeRemoved => exact .inl List.filter_sublist
  | edgeAdded _ _ hnew hloop => exact .inr ⟨_, rfl, hnew, hloop⟩
  | edgeRemoved => exact .inl List.filter_sublist

/-- A revision leaves no edge without its nodes. -/
theorem linked (h : Revision loops d d') (hd : d.Linked) : d'.Linked := by
  intro e he
  -- Nodes are only lost with the edges that touch them, and edges are only added between nodes.
  cases h with
  | unchanged => exact hd e he
  | nodeAdded =>
    simp only [nodeIds, List.map_append, List.mem_append]
    exact ⟨.inl (hd e he).1, .inl (hd e he).2⟩
  | nodeReplaced => simpa using hd e he
  | nodeRemoved id =>
    obtain ⟨he, htouch⟩ := List.mem_filter.mp he
    simp only [Edge.touches, Bool.not_eq_true', Bool.or_eq_false_iff, beq_eq_false_iff_ne]
      at htouch
    -- A node stays unless it is the one removed, which the edge does not touch.
    have hstays {x : String} (hx : x ∈ d.nodeIds) (hne : x ≠ id) :
        x ∈ (d.nodes.filter (·.id != id)).map (·.id) := by
      obtain ⟨n, hn, rfl⟩ := List.mem_map.mp hx
      exact List.mem_map_of_mem (List.mem_filter.mpr ⟨hn, by simpa using hne⟩)
    exact ⟨hstays (hd e he).1 htouch.1, hstays (hd e he).2 htouch.2⟩
  | edgeAdded hsource htarget =>
    rcases List.mem_append.mp he with he | he
    · exact hd e he
    · obtain rfl := List.mem_singleton.mp he
      exact ⟨hsource, htarget⟩
  | edgeRemoved => exact hd e (List.mem_filter.mp he).1

end Revision

/-! ## Invariants of revisions -/

/-- A revision of a sound document is sound. -/
theorem RevisesTo.sound (hd : d.Sound) (h : RevisesTo loops d d') : d'.Sound := by
  obtain ⟨hrevision, hrule⟩ := h
  -- Rebuilding checks that ids are distinct; what it does not check is inherited from the nodes.
  obtain ⟨hnodes, hedges, hfields⟩ := brokenRule?_eq_none_iff.mp hrule
  refine ⟨hnodes, hedges, hfields, fun m hm hform => ?_, fun m hm => ?_⟩
  · rcases hrevision.mem_nodes hm with hm | hfresh | ⟨n, hn, hedit⟩
    · exact hd.form_task m hm hform
    · exact hfresh.form_task hform
    · rw [hedit.type_eq]
      exact (hedit.form_task hform).elim (hd.form_task n hn) id
  · rcases hrevision.mem_nodes hm with hm | hfresh | ⟨n, hn, hedit⟩
    · exact hd.id_trimmed m hm
    · exact hfresh.id_trimmed
    · rw [hedit.id_eq]
      exact hd.id_trimmed n hn

/-- A revision of a tidy document is tidy. -/
private theorem Revision.tidy (hd : d.Tidy loops) (h : Revision loops d d') : d'.Tidy loops := by
  refine ⟨h.linked hd.ends_mem, ?_, fun m hm hgated => ?_, fun m hm f hf => ?_, fun hno => ?_⟩
  · rcases h.edges_eq with hsub | ⟨e, he, hnew, -⟩
    · exact hd.ends_nodup.sublist (hsub.map _)
    · -- The new edge is not parallel to any other.
      rw [he, List.map_append, List.nodup_append]
      refine ⟨hd.ends_nodup, by simp, fun p hp q hq heq => ?_⟩
      obtain ⟨x, hx, rfl⟩ := List.mem_map.mp hp
      obtain rfl := List.mem_singleton.mp hq
      simp only [Prod.mk.injEq] at heq
      simp only [isConnected, List.any_eq_false, Bool.and_eq_true, beq_iff_eq] at hnew
      exact hnew x hx heq
  · rcases h.mem_nodes hm with hm | hfresh | ⟨n, hn, hedit⟩
    · exact hd.assigned_task m hm hgated
    · simp [hfresh.unassigned] at hgated
    · rw [hedit.type_eq]
      exact (hedit.assigned_task hgated).elim (hd.assigned_task n hn) id
  · rcases h.mem_nodes hm with hm | hfresh | ⟨n, hn, hedit⟩
    · exact hd.options m hm f hf
    · simp [hfresh.no_fields] at hf
    · exact (hedit.options f hf).elim (hd.options n hn f) id
  · -- Without loops allowed, none was there and none is added.
    rcases h.edges_eq with hsub | ⟨e, he, -, hloop⟩
    · exact fun e he => hd.no_loops hno e (hsub.subset he)
    · rw [he]
      intro x hx
      rcases List.mem_append.mp hx with hx | hx
      · exact hd.no_loops hno x hx
      · obtain rfl := List.mem_singleton.mp hx
        exact fun heq => by simp [hloop heq] at hno

end Document

/-! ## Sessions -/

namespace Editor

variable {σ : Type} (keep : Document → σ → Except Failure Unit × σ)

/-- An editor after a list of commands, each run on what the ones before have left, with a keeper
that may refuse any of the documents. -/
def session (ed : Editor) : List Command → IdSource → σ → Editor
  | [], _, _ => ed
  | c :: cs, ids, s =>
    match ed.run keep c ids s with
    | (_, ed', ids', s') => session ed' cs ids' s'

/-- How a command may end: it proposes no new document, or the keeper refuses the one that it
proposes, or the editor moves on to it. -/
inductive Ran (ed : Editor) (c : Command) (ids : IdSource) (s : σ) :
    EditResult × Editor × IdSource × σ → Prop
  /-- There is nothing to keep. -/
  | idle {r : EditResult} {ids' : IdSource} : Ran ed c ids s (r, ed, ids', s)
  /-- The keeper refuses. -/
  | refused {d : Document} {f : Failure} {ids' : IdSource} {s' : σ}
      (hkeep : keep d s = (.error f, s')) : Ran ed c ids s (.error f, ed, ids', s')
  /-- The keeper accepts. -/
  | kept {d : Document} {made : Made} {ids' : IdSource} {s' : σ}
      (happly : c.apply ed.loops ed.document ids = (.ok (d, made), ids'))
      (hkeep : keep d s = (.ok (), s')) :
      Ran ed c ids s (.ok (d, made), { ed with document := d }, ids', s')

/-- Every command ends in one of these ways. -/
theorem ran_run (ed : Editor) (c : Command) (ids : IdSource) (s : σ) :
    Ran keep ed c ids s (ed.run keep c ids s) := by
  unfold run propose
  rcases happly : c.apply ed.loops ed.document ids with ⟨f | ⟨d, made⟩, ids'⟩
  · exact .idle
  · cases made with
    | noEdge => exact .idle
    | document | node | edge =>
      -- A new document is kept or refused by the keeper.
      simp only
      split
      · next hkeep => exact .refused hkeep
      · next hkeep => exact .kept happly hkeep

variable {keep} {ed : Editor}

/-- What holds of an editor's document and is preserved by every command that succeeds holds of
every document that the editor comes to hold. -/
private theorem session_induction {P : Document → Prop} {cs : List Command} {ids : IdSource} {s : σ}
    (h : P ed.document)
    (hstep : ∀ d, P d → ∀ (c : Command) (ids : IdSource) (d' : Document) (made : Made)
      (ids' : IdSource), c.apply ed.loops d ids = (.ok (d', made), ids') → P d') :
    P (ed.session keep cs ids s).document := by
  induction cs generalizing ed ids s with
  | nil => exact h
  | cons c cs ih =>
    rw [session]
    have hran := ran_run keep ed c ids s
    rcases hrun : ed.run keep c ids s with ⟨result, ed', ids', s'⟩
    rw [hrun] at hran
    -- A command that fails, or that the keeper refuses, leaves the document.
    cases hran with
    | idle => exact ih h hstep
    | refused => exact ih h hstep
    | kept happly => exact ih (hstep _ h c ids _ _ _ happly) hstep

/-- Every document that an editor comes to hold is sound; and if the first one is tidy, every later
one is tidy and valid, whatever commands are given and whatever the keeper refuses. -/
theorem session_sound_tidy (hd : ed.document.Accepted) (cs : List Command) (ids : IdSource)
    (s : σ) :
    let d' := (ed.session keep cs ids s).document
    d'.Sound ∧ (ed.document.Tidy ed.loops →
      d'.Tidy ed.loops ∧ ∀ users, (d'.validate users).report.isValid = true) := by
  intro d'
  -- Commands are known to make revisions of sound documents only, so both parts go together.
  have key : d'.Sound ∧ (ed.document.Tidy ed.loops → d'.Tidy ed.loops) := by
    refine session_induction (P := fun d => d.Sound ∧ (ed.document.Tidy ed.loops → d.Tidy ed.loops))
      ⟨hd.sound, id⟩ ?_
    rintro d ⟨hsound, htidy⟩ c ids d₁ made ids' happly
    have hrevises := Command.apply_revisesTo hsound happly
    exact ⟨hrevises.sound hsound, fun hfirst => hrevises.1.tidy (htidy hfirst)⟩
  refine ⟨key.1, fun hfirst => ⟨key.2 hfirst, fun users => ?_⟩⟩
  exact Document.isValid_validate_iff.mpr (key.2 hfirst).ends_mem

end Editor

namespace Sample

theorem tidy_workflow : workflow.Tidy false where
  ends_mem := by decide
  ends_nodup := by decide
  assigned_task := by decide
  options := by decide
  no_loops := by decide

/-- A keeper that refuses the second document that it is given. -/
def keep (_ : Document) (seen : Nat) : Except Failure Unit × Nat :=
  (if seen = 1 then .error (.fault .shape) else .ok (), seen + 1)

/-- Commands of which five have no effect: an edge is refused by the keeper, a loop is not wanted,
a start takes no assignee, a field id is taken, and a node does not exist. -/
def commands : List Command :=
  [.addNode (.text "Task") (.object []) (.text " archive ") .null,
    .connect "review" "archive" .null,
    .connect "end" "archive" (.text "file"),
    .connect "archive" "archive" .null,
    .updateNode "start" [("assignee_id", .text "user-1")],
    .addFormField "archive" (.object [("id", .text "notes"), ("label", .text "Notes")]),
    .addFormField "archive" (.object [("id", .text "shelf"), ("label", .text "Shelf"),
      ("type", .text "select"), ("options", .list [.text "top", .text ""])]),
    .deleteNode "draft", .deleteNode "draft"]

/-- An editor of the sample workflow after the commands. -/
def edited : Document :=
  (Editor.session keep { document := workflow } commands .counter 0).document

end Sample

/-- The edited sample workflow has lost a step with its edges and gained another. -/
theorem Editor.session_sound_tidy_sample :
    Sample.edited.nodeIds = ["start", "review", "end", "archive"] ∧
      Sample.edited.edgeIds = ["accept", "edge-end-archive"] ∧
      Sample.edited.fieldIds = ["shown-notes", "grade", "shelf"] ∧
      Sample.edited.Sound ∧ Sample.edited.Tidy false ∧
      ∀ users, (Sample.edited.validate users).report.isValid = true := by
  have h := @Editor.session_sound_tidy _ Sample.keep { document := Sample.workflow }
    Sample.accepted_workflow Sample.commands .counter 0
  exact ⟨by decide +kernel, by decide +kernel, by decide +kernel, h.1, h.2 Sample.tidy_workflow⟩

end CaseFlow
