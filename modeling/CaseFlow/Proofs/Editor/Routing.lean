import CaseFlow.Proofs.Case.Step
import CaseFlow.Proofs.Editor.Effect
import CaseFlow.Proofs.Editor.Keeping

/-!
# Editing under running cases

Where nobody chooses, a case follows the first of the edges that leave its step. Which one is the
first is a matter of the order of edges in the document, and editing keeps that order: a new edge
comes last, and what is dropped leaves the others as they stood. So a step leads on by one edge
(`Document.LeadsBy`) for as long as that edge and the nodes at its ends are spared, whatever else is
done to the document (`Editor.next_kept`).

The invariant is carried through one command by cases on effects (`Document.LeadsBy.apply`), and
through a session turn by turn. Turns that fail, and documents that the keeper refuses, leave the
editor where it was.
-/

namespace CaseFlow

variable {d d' : Document} {e : Edge} {c : Command} {made : Made} {loops : Bool} {ids : IdSource}

/-- What comes first among the items with a property still does when items are dropped, unless it is
dropped itself. -/
theorem head?_filter_filter {α : Type} {p q : α → Bool} {xs : List α} {x : α}
    (h : (xs.filter p).head? = some x) (hx : q x = true) :
    ((xs.filter q).filter p).head? = some x := by
  obtain ⟨rest, hrest⟩ := List.head?_eq_some_iff.mp h
  rw [List.filter_comm, hrest, List.filter_cons_of_pos hx, List.head?_cons]

/-! ## Leading on -/

/-- Without a choice the first edge is followed, whether or not there are others. -/
private theorem Document.pickTarget_cons {stepId : String} {rest : List Edge} :
    pickTarget false stepId none (e :: rest) = .ok e.target := by
  cases rest <;> rfl

/-- In a sound document where no edge is loose, the edge is the first of those that leave its
source. -/
structure Document.LeadsBy (d : Document) (e : Edge) : Prop where
  /-- Ids are distinct. -/
  sound : d.Sound
  /-- Both ends of every edge are nodes. -/
  linked : d.Linked
  /-- No other edge that leaves the source comes before. -/
  first : (d.outgoing e.source).head? = some e

/-- From the source of an edge that it leads on by, a document leads to the target. -/
theorem Document.LeadsBy.nextStep (h : d.LeadsBy e) :
    (d.nextStep false (some e.source) none).map (·.id) = .ok e.target := by
  obtain ⟨rest, hout⟩ := List.head?_eq_some_iff.mp h.first
  have hmem : e ∈ d.outgoing e.source := hout ▸ List.mem_cons_self
  obtain ⟨hsource, htarget⟩ := h.linked e (List.mem_filter.mp hmem).1
  obtain ⟨n, hn⟩ := exists_node? hsource
  obtain ⟨next, hnext⟩ := exists_node? htarget
  obtain ⟨-, hid⟩ := mem_of_node? hn
  -- The search goes by the id that the node has, and that is the source of the edge.
  rw [← hid] at hn hout ⊢
  have hstep : d.nextStep false (some n.id) none = .ok next :=
    (nextStep_eq_ok hn).mpr ⟨e.target, by rw [hout, pickTarget_cons], hnext⟩
  rw [hstep]
  exact congrArg Except.ok (mem_of_node? hnext).2

/-! ## Commands that spare an edge -/

/-- The command removes neither the edge nor a node at one of its ends. -/
def Command.Spares (e : Edge) : Command → Prop
  | .deleteNode id => e.touches id = false
  | .deleteEdge id => e.id ≠ id
  | _ => True

instance (e : Edge) (c : Command) : Decidable (c.Spares e) :=
  match c with
  | .deleteNode id => inferInstanceAs (Decidable (e.touches id = false))
  | .deleteEdge id => inferInstanceAs (Decidable (e.id ≠ id))
  | .addNode .. | .connect .. | .moveNode .. | .updateNode .. => .isTrue trivial
  | .setFormMode .. | .addFormField .. | .updateFormField .. => .isTrue trivial
  | .deleteFormField .. => .isTrue trivial

/-- A command that spares the first edge out of a node leaves it the first. -/
private theorem Command.Effect.first_kept (h : c.Effect d made d') (hc : c.Spares e)
    (hfirst : (d.outgoing e.source).head? = some e) :
    (d'.outgoing e.source).head? = some e := by
  cases h with
  | nodeAdded | nodeMoved | nodePatched | edgeSpared | fieldRemoved => exact hfirst
  | modeSet _ _ hgiven | fieldAdded _ _ _ hgiven | fieldPatched _ _ _ _ hgiven =>
    obtain ⟨-, -, rfl⟩ := hgiven
    exact hfirst
  | nodeRemoved => exact head?_filter_filter hfirst (by simpa [Command.Spares] using hc)
  | edgeRemoved => exact head?_filter_filter hfirst (by simpa [Command.Spares] using hc)
  | edgeAdded =>
    -- The new edge comes after all others, so also after this one.
    obtain ⟨rest, hrest⟩ := List.head?_eq_some_iff.mp hfirst
    rw [Document.outgoing] at hrest
    rw [Document.outgoing, List.filter_append, hrest, List.cons_append, List.head?_cons]

/-- A document leads on as before after a command that spares the edge. -/
theorem Document.LeadsBy.apply (h : d.LeadsBy e) (hc : c.Spares e)
    (happly : (c.apply loops d ids).1 = .ok (d', made)) : d'.LeadsBy e := by
  have hrevises := Command.apply_revisesTo h.sound (Prod.ext happly rfl)
  exact ⟨hrevises.sound h.sound, hrevises.1.linked h.linked,
    (Command.apply_effect h.sound happly).first_kept hc h.first⟩

/-! ## Turns that spare an edge -/

namespace Editor

/-- Nothing that succeeds in the turn removes the edge or a node at one of its ends. -/
def Turn.Spares (e : Edge) (t : Turn) : Prop :=
  match t.request, t.reply with
  | .command c, .edited (.ok _) => c.Spares e
  | _, _ => True

instance (e : Edge) (t : Turn) : Decidable (t.Spares e) :=
  match t with
  | ⟨.command c, _, _, .edited (.ok _), _, _⟩ => inferInstanceAs (Decidable (c.Spares e))
  | ⟨.command _, _, _, .edited (.error _), _, _⟩ => .isTrue trivial
  | ⟨.command _, _, _, .validated _, _, _⟩ => .isTrue trivial
  | ⟨.validate, _, _, _, _, _⟩ => .isTrue trivial

/-- However a turn ends that spares the edge, the document leads on as before. -/
private theorem Turn.Ends.leadsBy {t : Turn} (h : t.Ends loops) (ht : t.Spares e)
    (hbefore : t.before.LeadsBy e) : t.after.LeadsBy e := by
  cases h with
  | looked | failed | unchanged | refused => exact hbefore
  | kept happly => exact hbefore.apply ht happly

section Serving

variable {σ : Type} (keep : Document → σ → Except Failure Unit × σ)

/-- Through turns that spare the edge the document leads on as at first. -/
private theorem leadsBy_turns (ed : Editor) (qs : List Request) (ids : IdSource) (s : σ)
    (hfirst : ed.document.LeadsBy e) (hspares : ∀ t ∈ ed.turns keep qs ids s, t.Spares e) :
    ∀ t ∈ ed.turns keep qs ids s, t.after.LeadsBy e := by
  -- The document after the first turn is the one that the other turns start from.
  induction qs generalizing ed ids s with
  | nil => simp [turns]
  | cons q qs ih =>
    obtain ⟨hnow, hlater⟩ := List.forall_mem_cons.mp hspares
    have hafter : (ed.turn keep q ids s).after.LeadsBy e :=
      (turn_ends keep ed q ids s).leadsBy hnow hfirst
    exact List.forall_mem_cons.mpr ⟨hafter, ih _ _ _ hafter hlater⟩

/-- Cases on a step with edges that leave it go on to the same step under every document that an
editor comes to hold, for as long as nothing removes the first of these edges or a node at one of
its ends. -/
theorem next_kept {stepId : String} (ed : Editor) (qs : List Request) (ids : IdSource) (s : σ)
    (hd : ed.document.Sound) (hlinked : ed.document.Linked)
    (hfirst : (ed.document.outgoing stepId).head? = some e)
    (hspares : ∀ t ∈ ed.turns keep qs ids s, t.Spares e) :
    ∀ d ∈ ed.document :: (ed.turns keep qs ids s).map Turn.after,
      (d.nextStep false (some stepId) none).map (·.id) = .ok e.target := by
  have hsource : e.source = stepId := by
    simpa using (List.mem_filter.mp (List.mem_of_head? hfirst)).2
  subst hsource
  -- The invariant along the turns is that the edge is there, with both ends, and is the first one
  -- out.
  have hleads : ed.document.LeadsBy e := ⟨hd, hlinked, hfirst⟩
  have hturns := leadsBy_turns keep ed qs ids s hleads hspares
  refine List.forall_mem_cons.mpr ⟨hleads.nextStep, List.forall_mem_map.mpr fun t ht => ?_⟩
  exact (hturns t ht).nextStep

end Serving

end Editor

namespace Sample

/-- The edge by which the review leads on. -/
def accept : Edge := { id := "accept", source := "review", target := "end" }

/-- Requests of which the keeper of the samples refuses the second, which would remove that edge. -/
def rearranging : List Editor.Request :=
  [.command (.addNode (.text "Task") (.object []) (.text "archive") .null),
    .command (.deleteEdge "accept"),
    .validate,
    .command (.connect "review" "archive" .null),
    .command (.deleteNode "draft")]

end Sample

/-- The review gets a third edge and loses its second one, and leads to the end throughout. -/
theorem Editor.next_kept_sample :
    ((Editor.turns Sample.keep { document := Sample.workflow } Sample.rearranging .counter 0).map
      fun t => (t.after.outgoing "review").map (·.target)) =
        [["end", "draft"], ["end", "draft"], ["end", "draft"], ["end", "draft", "archive"],
          ["end", "archive"]] ∧
    ∀ d ∈ Sample.workflow :: (Editor.turns Sample.keep { document := Sample.workflow }
        Sample.rearranging .counter 0).map Turn.after,
      (d.nextStep false (some "review") none).map (·.id) = .ok "end" := by
  refine ⟨by decide +kernel, ?_⟩
  exact next_kept (e := Sample.accept) Sample.keep { document := Sample.workflow }
    Sample.rearranging .counter 0 Sample.accepted_workflow.sound Sample.tidy_workflow.ends_mem rfl
    (by decide +kernel)

end CaseFlow
