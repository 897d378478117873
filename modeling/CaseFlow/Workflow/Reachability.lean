import CaseFlow.Workflow.Basic

/-!
# Reachable steps

The nodes to which a sequence of edges leads from given nodes. A search keeps a queue of the found
nodes whose edges are still to be followed. The first of them is taken off, and those targets of its
edges that are new join the found nodes and the end of the queue. Each target joins once, so the
queue runs out.
-/

namespace CaseFlow

/-- How far a search for nodes has come. -/
structure Search where
  /-- The ids that are found. -/
  found : List String
  /-- Those of them whose edges are still to be followed. -/
  queue : List String

namespace Search

/-- An id joins the found ones and the queue, unless it is found already. -/
def join (s : Search) (id : String) : Search :=
  if s.found.contains id then s else { found := s.found ++ [id], queue := s.queue ++ [id] }

/-- The targets of all edges that leave a node join one after the other. -/
def follow (edges : List Edge) (s : Search) (id : String) : Search :=
  ((edges.filter (·.source == id)).map (·.target)).foldl join s

/-- How many edges lead to nodes that are not found. -/
def unfound (edges : List Edge) (s : Search) : Nat :=
  edges.countP fun e => !s.found.contains e.target

/-- An edge that led to a node that was not found does so no more when the node joins. -/
theorem unfound_join_le {edges : List Edge} {s : Search} {id : String}
    (h : id ∈ edges.map (·.target)) :
    (s.join id).unfound edges + (s.join id).queue.length ≤ s.unfound edges + s.queue.length := by
  unfold join
  split
  · exact Nat.le_refl _
  · next hnew =>
    -- No edge begins to count as the node joins, and the one that leads to it counts no more.
    have hmono (es : List Edge) : (es.countP fun x => !(s.found ++ [id]).contains x.target) ≤
        es.countP fun x => !s.found.contains x.target :=
      List.countP_mono_left fun x _ hx => by simp_all
    obtain ⟨e, he, rfl⟩ := List.mem_map.mp h
    obtain ⟨before, after, rfl⟩ := List.append_of_mem he
    have hbefore := hmono before
    have hafter := hmono after
    have hold : (!s.found.contains e.target) = true := by simpa using hnew
    have hnow : (!(s.found ++ [e.target]).contains e.target) = false := by simp
    simp only [unfound, List.countP_append, List.countP_cons, List.length_append, hold, hnow,
      List.length_singleton, Bool.false_eq_true, ↓reduceIte]
    omega

/-- What is not found and what is in the queue do not become more as targets join. -/
theorem unfound_follow_le {edges : List Edge} {s : Search} {id : String} :
    (s.follow edges id).unfound edges + (s.follow edges id).queue.length ≤
      s.unfound edges + s.queue.length := by
  have key (targets : List String) (hsub : ∀ t ∈ targets, t ∈ edges.map (·.target)) (s : Search) :
      (targets.foldl join s).unfound edges + (targets.foldl join s).queue.length ≤
        s.unfound edges + s.queue.length := by
    induction targets generalizing s with
    | nil => exact Nat.le_refl _
    | cons t targets ih =>
      refine Nat.le_trans (ih (fun t ht => hsub t (List.mem_cons_of_mem _ ht)) _) ?_
      exact unfound_join_le (hsub t List.mem_cons_self)
  refine key _ (fun t ht => ?_) s
  obtain ⟨e, he, rfl⟩ := List.mem_map.mp ht
  exact List.mem_map_of_mem (List.mem_filter.mp he).1

/-- Follows edges until the queue is empty, and gives all ids that are found then. -/
def run (edges : List Edge) : Search → List String
  | ⟨found, []⟩ => found
  | ⟨found, id :: queue⟩ => run edges (follow edges ⟨found, queue⟩ id)
termination_by s => s.unfound edges + s.queue.length
decreasing_by
  exact Nat.lt_succ_of_le (@unfound_follow_le edges ⟨found, queue⟩ id)

end Search

/-- All node ids that can be reached from the given ones. -/
def reachableFrom (edges : List Edge) (entries : List String) : List String :=
  Search.run edges { found := entries, queue := entries }

/-- The relation behind it: a sequence of edges leads from one node to the other. -/
inductive Leads (edges : List Edge) (source : String) : String → Prop where
  /-- Every node is reached from itself. -/
  | here : Leads edges source source
  /-- One edge further. -/
  | step {e : Edge} : Leads edges source e.source → e ∈ edges → Leads edges source e.target

end CaseFlow
