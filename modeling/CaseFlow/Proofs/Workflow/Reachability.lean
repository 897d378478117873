import CaseFlow.Workflow.Validation
import Mathlib.Data.List.Nodup
import Mathlib.Data.String.Basic

/-!
# Nodes that no case gets to

A search finds the nodes to which a sequence of edges leads, and no others
(`Search.mem_reachableFrom`). At every point of it, whatever is found is led to from an entry, and
an edge that leaves a found node was followed unless that node still waits in the queue; this is
what `Search.Faithful` says, and each round of the search preserves it (`Search.Faithful.follow`).
When the queue is empty, the found nodes are closed under edges.

So the warning of unreachable nodes is exact (`Document.unreachable_warned`), whatever loops,
parallel edges and edges without nodes a document has: it names the nodes of the document to which
no sequence of edges leads from a start, in order and each once.
-/

namespace CaseFlow

/-! ## Searching -/

namespace Search

variable {edges : List Edge} {entries found queue targets : List String} {s : Search}
  {id x : String}

/-- Joining adds a node to those found. -/
theorem mem_found_join : x ∈ (s.join id).found ↔ x ∈ s.found ∨ x = id := by
  unfold join
  by_cases h : id ∈ s.found
  · simp only [List.contains_eq_mem, h, decide_true, ↓reduceIte, iff_self_or]
    rintro rfl
    exact h
  · simp [h]

/-- Joining queues a node only if it was not found before. -/
private theorem mem_queue_join : x ∈ (s.join id).queue ↔ x ∈ s.queue ∨ (x = id ∧ x ∉ s.found) := by
  unfold join
  by_cases h : id ∈ s.found
  · simp only [List.contains_eq_mem, h, decide_true, ↓reduceIte, iff_self_or, and_imp]
    rintro rfl hnew
    exact absurd h hnew
  · simp only [List.contains_eq_mem, h, decide_false, Bool.false_eq_true, ↓reduceIte,
      List.mem_append, List.mem_singleton]
    refine or_congr_right ⟨fun hx => ⟨hx, hx ▸ h⟩, And.left⟩

/-- Joining all targets of a node adds them to those found. -/
private theorem mem_found_foldl : x ∈ (targets.foldl join s).found ↔ x ∈ s.found ∨ x ∈ targets := by
  induction targets generalizing s with
  | nil => simp
  | cons t targets ih => rw [List.foldl_cons, ih, mem_found_join, List.mem_cons, or_assoc]

/-- Joining all targets of a node queues those that were not found before. -/
private theorem mem_queue_foldl :
    x ∈ (targets.foldl join s).queue ↔ x ∈ s.queue ∨ (x ∈ targets ∧ x ∉ s.found) := by
  induction targets generalizing s with
  | nil => simp
  | cons t targets ih =>
    simp only [List.foldl_cons, ih, mem_queue_join, mem_found_join, List.mem_cons]
    by_cases hx : x = t <;> simp [hx]

/-- Following a node, all targets of its edges are found. -/
theorem mem_found_follow : x ∈ (s.follow edges id).found ↔
    x ∈ s.found ∨ ∃ e ∈ edges, e.source = id ∧ e.target = x := by
  simp [follow, mem_found_foldl, and_assoc]

/-- Those of them that were not found before wait in the queue. -/
theorem mem_queue_follow : x ∈ (s.follow edges id).queue ↔
    x ∈ s.queue ∨ ((∃ e ∈ edges, e.source = id ∧ e.target = x) ∧ x ∉ s.found) := by
  simp [follow, mem_queue_foldl, and_assoc]

/-- What holds at every point of a search that began at some entries. -/
structure Faithful (edges : List Edge) (entries : List String) (s : Search) : Prop where
  /-- The entries are found. -/
  entries_found : ∀ id ∈ entries, id ∈ s.found
  /-- What is found is led to from an entry. -/
  leads : ∀ id ∈ s.found, ∃ entry ∈ entries, Leads edges entry id
  /-- What waits in the queue is found. -/
  queue_found : ∀ id ∈ s.queue, id ∈ s.found
  /-- The edges of a found node were followed, unless it waits. -/
  followed : ∀ e ∈ edges, e.source ∈ s.found → e.source ∈ s.queue ∨ e.target ∈ s.found

/-- The search starts faithfully, with the entries both found and queued. -/
theorem Faithful.start : Faithful edges entries { found := entries, queue := entries } where
  entries_found _ h := h
  leads id h := ⟨id, h, .here⟩
  queue_found _ h := h
  followed _ _ h := .inl h

/-- A search stays faithful as the first node in the queue is followed. -/
theorem Faithful.follow (h : Faithful edges entries ⟨found, id :: queue⟩) :
    Faithful edges entries (Search.follow edges ⟨found, queue⟩ id) where
  entries_found x hx := mem_found_follow.mpr (.inl (h.entries_found x hx))
  leads x hx := by
    rcases mem_found_follow.mp hx with hx | ⟨e, he, rfl, rfl⟩
    · exact h.leads x hx
    · obtain ⟨entry, hentry, hleads⟩ := h.leads _ (h.queue_found _ List.mem_cons_self)
      exact ⟨entry, hentry, hleads.step he⟩
  queue_found x hx := by
    refine mem_found_follow.mpr ?_
    rcases mem_queue_follow.mp hx with hx | ⟨hx, -⟩
    · exact .inl (h.queue_found x (List.mem_cons_of_mem _ hx))
    · exact .inr hx
  followed e he hsource := by
    rw [mem_queue_follow, mem_found_follow]
    -- What was found now is queued, and its edges are followed later.
    by_cases hfound : e.source ∈ found
    · rcases h.followed e he hfound with hqueue | htarget
      · -- The edge leaves the node that is followed now, or one that waits behind it.
        rcases List.mem_cons.mp hqueue with hid | hqueue
        · exact .inr (.inr ⟨e, he, hid, rfl⟩)
        · exact .inl (.inl hqueue)
      · exact .inr (.inl htarget)
    · exact .inl (.inr ⟨(mem_found_follow.mp hsource).resolve_left hfound, hfound⟩)

/-- When the queue is empty, exactly the nodes that are led to are found. -/
private theorem Faithful.mem_run (h : Faithful edges entries s) :
    x ∈ run edges s ↔ ∃ entry ∈ entries, Leads edges entry x := by
  fun_induction run edges s with
  | case1 found =>
    refine ⟨h.leads x, ?_⟩
    rintro ⟨entry, hentry, hleads⟩
    -- No node waits, so every edge of a found node leads to a found one.
    induction hleads with
    | here => exact h.entries_found entry hentry
    | step _ he ih => exact (h.followed _ he ih).resolve_left List.not_mem_nil
  | case2 found id queue ih => exact ih h.follow

/-- A search finds the nodes to which a sequence of edges leads. -/
theorem mem_reachableFrom :
    x ∈ reachableFrom edges entries ↔ ∃ entry ∈ entries, Leads edges entry x :=
  Faithful.start.mem_run

end Search

/-! ## The warning -/

theorem nodup_eraseDups {α : Type} [BEq α] [LawfulBEq α] : (xs : List α) → xs.eraseDups.Nodup
  | [] => by simp
  | x :: xs => by
    rw [List.eraseDups_cons, List.nodup_cons]
    exact ⟨by simp, nodup_eraseDups (xs.filter fun y => !y == x)⟩
termination_by xs => xs.length
decreasing_by exact Nat.lt_succ_of_le (List.length_filter_le _ _)

/-- A warning begins by saying that there are unreachable nodes. -/
def warnsUnreachable (warning : String) : Bool :=
  "Unreachable nodes detected: ".toList.isPrefixOf warning.toList

/-- Of all warnings only that of unreachable nodes begins in this way. -/
theorem Smell.warnsUnreachable_text {s : Smell} :
    warnsUnreachable s.text = true ↔ ∃ ids, s = .unreachable ids := by
  rw [warnsUnreachable, List.isPrefixOf_iff_prefix]
  constructor
  · rintro ⟨rest, hrest⟩
    -- The first letter tells, whatever ids follow.
    have hhead : s.text.toList.head? = some 'U' := by
      rw [← hrest]
      simp
    delta text at hhead
    cases s with
    | unreachable ids => exact ⟨ids, rfl⟩
    | _ => simp [toString] at hhead
  · rintro ⟨ids, rfl⟩
    have htext : (Smell.unreachable ids).text =
        "Unreachable nodes detected: " ++ ", ".intercalate ids := rfl
    rw [htext, String.toList_append]
    exact List.prefix_append _ _

namespace Document

variable {d : Document} {users : Option (List String)} {id : String}

/-- A node of the document to which no sequence of edges leads from a start. -/
def Unreached (d : Document) (id : String) : Prop :=
  id ∈ d.nodeIds ∧ ∀ n ∈ d.starts, ¬Leads d.edges n.id id

/-- The nodes warned of are those that are not reached. -/
private theorem mem_unreachable : id ∈ d.unreachable ↔ d.Unreached id := by
  simp [unreachable, Unreached, Search.mem_reachableFrom]

/-- Unreachable nodes are listed in order, each of them once. -/
private theorem pairwise_unreachable : d.unreachable.Pairwise (· < ·) := by
  have hle : d.unreachable.Pairwise (· ≤ ·) := by
    refine (List.pairwise_mergeSort ?_ ?_ _).imp of_decide_eq_true
    · simpa using fun a b c => le_trans
    · simpa using fun a b => le_total a b
  have hne : d.unreachable.Pairwise (· ≠ ·) :=
    (List.mergeSort_perm _ _).nodup_iff.mpr (nodup_eraseDups _)
  exact (hle.and hne).imp fun h => lt_of_le_of_ne h.1 h.2

/-- Only the look at the starts can show that nodes are unreachable. -/
private theorem filter_warnsUnreachable :
    (d.validate users).report.warnings.filter warnsUnreachable =
      (d.startSmells.filter fun s => warnsUnreachable s.text).map Smell.text := by
  -- Nodes and fields are looked at for other smells only.
  have hnode (n : Node) (ids : List String) : Smell.unreachable ids ∉ d.nodeSmells users n := by
    unfold nodeSmells
    cases users <;> simp
  have hfield (owned : String × FormField) (ids : List String) :
      Smell.unreachable ids ∉ d.fieldSmells owned := by
    unfold fieldSmells
    cases owned.2.source <;> simp
  have hrest : ((d.nodes.flatMap (d.nodeSmells users) ++ d.ownedFields.flatMap d.fieldSmells).filter
      fun s => warnsUnreachable s.text) = [] := by
    rw [List.filter_eq_nil_iff]
    intro s hs hwarns
    obtain ⟨ids, rfl⟩ := Smell.warnsUnreachable_text.mp hwarns
    simp only [List.mem_append, List.mem_flatMap] at hs
    rcases hs with ⟨n, -, hn⟩ | ⟨owned, -, howned⟩
    · exact hnode n ids hn
    · exact hfield owned ids howned
  rw [Findings.report, validate, List.filter_map, List.append_assoc, List.filter_append]
  simp only [Function.comp_def, hrest, List.append_nil]

/-- Where there is a start, the look at the starts shows the nodes that are not reached, if there
are any. -/
private theorem filter_startSmells (hstarts : d.starts ≠ []) :
    (d.startSmells.filter fun s => warnsUnreachable s.text) =
      if d.unreachable = [] then [] else [.unreachable d.unreachable] := by
  have hseveral (ids : List String) : warnsUnreachable (Smell.severalStarts ids).text = false := by
    simp [← Bool.not_eq_true, Smell.warnsUnreachable_text]
  have hunreachable (ids : List String) : warnsUnreachable (Smell.unreachable ids).text = true :=
    Smell.warnsUnreachable_text.mpr ⟨ids, rfl⟩
  obtain ⟨first, others, hcons⟩ := List.exists_cons_of_ne_nil hstarts
  rw [startSmells, hcons, List.map_cons]
  split
  · next h => cases h
  · split <;> by_cases hnone : d.unreachable = [] <;> simp [hnone, hseveral, hunreachable]

/-- The report of a document that has a start warns of unreachable nodes exactly if there are any,
and without a start it does not. There is no more than one such warning, and it lists the ids of
these nodes, each once and in the order of their code points. -/
theorem unreachable_warned (d : Document) (users : Option (List String)) :
    ∃ ids : List String, ids.Pairwise (· < ·) ∧ (∀ id, id ∈ ids ↔ d.Unreached id) ∧
      (d.validate users).report.warnings.filter warnsUnreachable =
        if d.starts = [] ∨ ids = [] then []
        else ["Unreachable nodes detected: " ++ ", ".intercalate ids] := by
  refine ⟨d.unreachable, pairwise_unreachable, fun id => mem_unreachable, ?_⟩
  rw [filter_warnsUnreachable]
  by_cases hstarts : d.starts = []
  · simp [startSmells, hstarts, Smell.warnsUnreachable_text]
  · simp only [filter_startSmells hstarts, hstarts, false_or]
    split <;> rfl

/-- Nodes in a loop reach each other and are not reached, and neither is what only a node that does
not exist leads to; but edges lead on through such a node, too. -/
example :
    let node (id : String) : Node := { id, type := .task, label := id }
    let edge (source target : String) : Edge := { id := source ++ target, source, target }
    let d : Document :=
      { nodes := [node "d", node "c", node "b", node "a", { node "s" with type := .start }]
        edges := [edge "c" "b", edge "b" "c", edge "b" "b", edge "x" "d", edge "s" "y",
          edge "s" "y", edge "y" "a", edge "a" "s"] }
    d.unreachable = ["b", "c", "d"] := by
  cbv

end Document

end CaseFlow
