import CaseFlow.Proofs.Case.Run
import CaseFlow.Proofs.Error.Kind

/-!
# Closed cases

Whatever completions and placements are tried on an opened case, its status is closed exactly while
it sits on a final step, it is never under review, and every completion there is refused, so that
nothing but a placement takes it off the step (`Case.closed_iff_final`).

A completion carries the old status along unless the next step is final, so the equivalence rests on
an invariant (`Case.StatusAgrees`): before the completion the case sat on a step that is not final,
and so was not closed. A placement sets the status by the step at which it puts the case. Every
attempt preserves the invariant (`Case.StatusAgrees.passes`), and the error of a completion at a
final step is that of the check which comes first.
-/

namespace CaseFlow.Case

variable {lookup : Lookup} {d : Document} {c : Case} {n : Node}

/-- The case sits on a final step. -/
def SitsOnFinal (d : Document) (c : Case) : Prop :=
  ∃ n ∈ d.nodes, c.currentStep = some n.id ∧ n.type = .finish

/-- The status of a case agrees with the step at which it sits. -/
structure StatusAgrees (d : Document) (c : Case) : Prop where
  /-- The case sits on a step of the document. -/
  sits : ∃ n ∈ d.nodes, c.currentStep = some n.id
  /-- The case is closed exactly on final steps. -/
  closed_iff : c.status = .closed ↔ c.SitsOnFinal d
  /-- The case is not under review. -/
  not_review : c.status ≠ .review

/-- Whether a case sits on a final step is settled by the type of its step. -/
theorem sitsOnFinal_iff (hd : d.Sound) (hn : n ∈ d.nodes) (h : c.currentStep = some n.id) :
    c.SitsOnFinal d ↔ n.type = .finish := by
  constructor
  · rintro ⟨m, hm, hmid, hfinal⟩
    have hid : m.id = n.id := Option.some.inj (hmid.symm.trans h)
    exact hd.eq_of_id hm hn hid ▸ hfinal
  · exact fun hfinal => ⟨n, hn, h, hfinal⟩

/-- A status agrees with a step when it is closed exactly if the step is final. -/
theorem statusAgrees_of (hd : d.Sound) (hn : n ∈ d.nodes) (h : c.currentStep = some n.id)
    (hclosed : c.status = .closed ↔ n.type = .finish) (hreview : c.status ≠ .review) :
    StatusAgrees d c :=
  ⟨⟨n, hn, h⟩, hclosed.trans (sitsOnFinal_iff hd hn h).symm, hreview⟩

/-- A case is opened on a start, with a status other than closed. -/
private theorem OpenedIn.statusAgrees (hd : d.Sound) (h : c.OpenedIn d) : StatusAgrees d c := by
  obtain ⟨⟨start, hmem, -, htype, hstep⟩, hstatus, -, -⟩ := h.fresh
  exact statusAgrees_of hd hmem hstep (by simp [hstatus, htype]) (by simp [hstatus])

/-- No attempt makes the status disagree with the step. -/
theorem StatusAgrees.passes {a : Attempt} {c' : Case} (hd : d.Sound) (hc : StatusAgrees d c)
    (hpass : Passes lookup d c a c') : StatusAgrees d c' := by
  cases hpass with
  | refused => exact hc
  | completed h =>
    -- The completed step was not final, so the status carried along is not closed.
    have hopen : c.status ≠ .closed := fun hclosed =>
      h.not_final ((sitsOnFinal_iff hd h.mem h.sits).mp (hc.closed_iff.mp hclosed))
    refine statusAgrees_of hd h.edge.1 rfl ?_ ?_ <;> simp only [advanced] <;> split
    · next hfinal => simp [hfinal]
    · next hfinal => simp [hfinal, hopen]
    · simp
    · exact hc.not_review
  | @placed stepId n h =>
    obtain ⟨id, -, hnode⟩ := Option.bind_eq_some_iff.mp h
    refine statusAgrees_of hd (Document.mem_of_node? hnode).1 rfl ?_ ?_ <;>
      cases n.type <;> simp [statusFor]

/-- On a final step a completion is refused: as closed where it means that step, else as stale. -/
private theorem outcome_of_final (lookup : Lookup) (hd : d.Sound) (hn : n ∈ d.nodes)
    (h : c.currentStep = some n.id) (hfinal : n.type = .finish) (t : Try) :
    c.outcome lookup d (.complete t) = .error (.refused
      (if t.request.stepId = c.currentStep then .caseClosed c.id n.id none
        else .staleStep c.id c.currentStep t.request.stepId)) := by
  have hnode : c.currentStep.bind d.node? = some n := by
    rw [h]
    exact (Document.node?_eq_some_iff hd.nodeIds_nodup).mpr ⟨hn, rfl⟩
  refine Rules.complete_of_gate_error ?_
  -- Staleness is checked before anything else, and finality before the user.
  split
  · next hasked => exact Rules.gate_of_final hasked.symm (hasked ▸ hnode) hfinal
  · next hasked => exact Rules.gate_of_stale (Ne.symm hasked)

/-- A case is closed exactly while it sits on a final step, and it is never under review. There
every completion is refused, as closed where it means that step and as stale otherwise, and leaves
the case as it is; so only a placement takes the case off the step. -/
theorem closed_iff_final (hd : d.Accepted) (hc : c.OpenedIn d) (as : List Attempt) :
    let c' := c.attempts lookup d as
    (c'.status = .closed ↔ c'.SitsOnFinal d) ∧ c'.status ≠ .review ∧
      (c'.SitsOnFinal d →
        (∀ t : Try,
          (∃ e, c'.outcome lookup d (.complete t) = .error (.refused e) ∧
            e.kind = if t.request.stepId = c'.currentStep then .closed else .stale) ∧
          c'.attempt lookup d (.complete t) = c') ∧
        ∀ a, (c'.attempt lookup d a).currentStep ≠ c'.currentStep → ∃ id, a = .place id) := by
  intro c'
  -- Opening a case settles its status with its step, and every attempt keeps the two together.
  have hagrees : StatusAgrees d c' :=
    attempts_induction (OpenedIn.statusAgrees hd.sound hc) fun _ _ hc _ _ hpass =>
      hc.passes hd.sound hpass
  refine ⟨hagrees.closed_iff, hagrees.not_review, ?_⟩
  -- A completion on the final step is refused and changes nothing, so what moves is a placement.
  rintro ⟨n, hn, hstep, hfinal⟩
  have hrefused (t : Try) := outcome_of_final lookup hd.sound hn hstep hfinal t
  have hstays (t : Try) : c'.attempt lookup d (.complete t) = c' := by
    simp only [attempt, hrefused t]
  refine ⟨fun t => ⟨⟨_, hrefused t, ?_⟩, hstays t⟩, fun a hmoved => ?_⟩
  · split <;> simp
  · cases a with
    | complete t => exact absurd (congrArg currentStep (hstays t)) hmoved
    | place id => exact ⟨id, rfl⟩

/-- The sample run ends with a closed case that no completion takes off the final step. -/
theorem closed_iff_final_sample :
    Sample.finished.status = .closed ∧ Sample.finished.SitsOnFinal Sample.workflow ∧
      ∀ t : Try, Sample.finished.attempt Sample.lookup Sample.workflow (.complete t)
        = Sample.finished := by
  have h := @closed_iff_final Sample.lookup _ _ Sample.accepted_workflow Sample.openedIn_workflow
    (Sample.tries.map .complete)
  have hclosed : Sample.finished.status = .closed := rfl
  have hfinal : Sample.finished.SitsOnFinal Sample.workflow := h.1.mp hclosed
  exact ⟨hclosed, hfinal, fun t => ((h.2.2 hfinal).1 t).2⟩

end CaseFlow.Case
