import CaseFlow.Proofs.Case.Run
import Mathlib.Data.List.Chain

/-!
# The history of a case

A case that is only ever moved by completions has a history that is an authorized walk of its
workflow (`Case.AuthorizedWalk`): it begins at the first start, follows edges, passes no final step
before its end, and every step on it was left by a known user who was allowed to. So it is whatever
completions are tried, by engines that are strict or not, and whichever of them fail
(`Case.history_authorizedWalk`).

The invariant is the walk itself. A completion leaves the step at which the walk ends, which is not
final, and extends the walk by one edge (`Case.AuthorizedWalk.advanced`). Placements by hand are
left out, for they jump.
-/

namespace CaseFlow

/-- An edge leads from one step to the other. -/
def Document.Joins (d : Document) (a b : String) : Prop :=
  ∃ e ∈ d.edges, e.source = a ∧ e.target = b

namespace Case

variable {lookup : Lookup} {d : Document} {c : Case}

/-- The ids of the steps that a case went through: those that it has left, then the one at which
it sits. -/
def trail (c : Case) : List String := c.history.map (·.stepId) ++ c.currentStep.toList

/-- A history that is an authorized walk of the graph. -/
structure AuthorizedWalk (lookup : Lookup) (d : Document) (c : Case) : Prop where
  /-- The walk begins at the first start. -/
  starts : ∃ start, d.starts.head? = some start ∧ c.trail.head? = some start.id
  /-- The walk ends at the node at which the case sits. -/
  sits : ∃ n ∈ d.nodes, c.currentStep = some n.id
  /-- An edge leads from each step to the one after it. -/
  moves : c.trail.IsChain d.Joins
  /-- No step before the last one is final. -/
  open_before : ∀ id ∈ c.trail.dropLast, ∀ n ∈ d.nodes, n.id = id → n.type ≠ .finish
  /-- Every step was left by a known user, who is its assignee if it has one. -/
  acted : ∀ e ∈ c.history, (lookup e.userId).isSome ∧ ∃ n ∈ d.nodes, n.id = e.stepId ∧
    (n.isGated = true → n.assignee = .text e.userId)

/-- The trail of a case that sits on a step ends there. -/
theorem trail_of_currentStep {id : String} (h : c.currentStep = some id) :
    c.trail = c.history.map (·.stepId) ++ [id] := by
  simp [trail, h]

/-- A completion extends the trail by the next step. -/
theorem trail_advanced {n next : Node} {userId : String} {vs : Fields} {now : Timestamp}
    (h : c.currentStep = some n.id) :
    (c.advanced lookup n next userId vs now).trail = c.trail ++ [next.id] := by
  have hnext := trail_of_currentStep (c := c.advanced lookup n next userId vs now) rfl
  rw [hnext, trail_of_currentStep h]
  simp [advanced]

/-- An opened case has walked nowhere yet. -/
private theorem OpenedIn.authorizedWalk (h : c.OpenedIn d) : AuthorizedWalk lookup d c := by
  obtain ⟨⟨start, hmem, hhead, -, hstep⟩, -, hhistory, -⟩ := h.fresh
  have htrail : c.trail = [start.id] := by simp [trail_of_currentStep hstep, hhistory]
  refine ⟨⟨start, hhead, by simp [htrail]⟩, ⟨start, hmem, hstep⟩, ?_, ?_, ?_⟩
  · simp [htrail]
  · simp [htrail]
  · simp [hhistory]

namespace AuthorizedWalk

/-- A completion extends an authorized walk by one edge. -/
theorem advanced {t : Try} {n next : Node} {userId : String} {user : User} {vs : Fields}
    (hd : d.Sound) (hlookup : lookup.Honest) (hw : AuthorizedWalk lookup d c)
    (h : (t.rules lookup).Completes d c t.request n next userId user vs) :
    AuthorizedWalk lookup d (c.advanced lookup n next userId vs t.now) := by
  obtain ⟨hnext, hjoin⟩ := h.edge
  have htrail := trail_of_currentStep h.sits
  -- In turn: where the walk begins, its edges, the steps before its end, and who acted.
  refine ⟨?_, ⟨next, hnext, rfl⟩, ?_, ?_, ?_⟩
  · obtain ⟨start, hstart, hhead⟩ := hw.starts
    exact ⟨start, hstart, by simp [trail_advanced h.sits, List.head?_append, hhead]⟩
  · rw [trail_advanced h.sits, List.isChain_append]
    refine ⟨hw.moves, by simp, ?_⟩
    simpa [htrail, Document.Joins] using hjoin
  · rw [trail_advanced h.sits, List.dropLast_concat, htrail]
    intro id hid m hm hmid
    rcases List.mem_append.mp hid with hid | hid
    · exact hw.open_before id (by simpa [htrail] using hid) m hm hmid
    · -- The step that was the last one is the step completed, which is not final.
      have hmn : m = n := hd.eq_of_id hm h.mem (by simpa [hmid] using hid)
      exact hmn ▸ h.not_final
  · intro e he
    rcases List.mem_append.mp he with he | he
    · exact hw.acted e he
    · obtain rfl := List.mem_singleton.mp he
      have hknown : lookup userId = some user := h.known
      -- The step was admitted for the user found, who has the id that the entry names.
      refine ⟨by simp [hknown], n, h.mem, rfl, fun hgated => ?_⟩
      rw [h.admitted hgated, hlookup userId user hknown]

end AuthorizedWalk

/-- However many completions are tried on a case, its history stays an authorized walk. -/
theorem history_authorizedWalk (hd : d.Accepted) (hlookup : lookup.Honest) (hc : c.OpenedIn d)
    (tries : List Try) :
    AuthorizedWalk lookup d (c.attempts lookup d (tries.map .complete)) := by
  refine attempts_induction hc.authorizedWalk fun c c' hw a ha hpass => ?_
  cases hpass with
  | refused => exact hw
  | completed h => exact hw.advanced hd.sound hlookup h
  | placed => simp at ha

/-- The sample run goes back to the draft once and ends at the final step. -/
theorem history_authorizedWalk_sample :
    Sample.finished.trail = ["start", "draft", "review", "draft", "review", "end"] ∧
      AuthorizedWalk Sample.lookup Sample.workflow Sample.finished :=
  ⟨rfl, history_authorizedWalk Sample.accepted_workflow (Lookup.honest_among _)
    Sample.openedIn_workflow Sample.tries⟩

end Case

end CaseFlow
