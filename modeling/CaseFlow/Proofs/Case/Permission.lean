import CaseFlow.Proofs.Case.Refusal

/-!
# Permission to complete a step

`Case.canComplete` tells beforehand whether a user may complete the current step of a case, and
`Rules.run` completes it. The two agree (`Case.canComplete_agrees_run`). A user who may not is
refused at every step, for a reason that no choice and no values change, and nothing is kept. A
user who may is never refused as one who came too late, to a closed case or to the step of another.

Both ask the questions of `Rules.gate`, which reads neither the choice nor the values; what can
still fail behind the gate is the form and the search for the next step.
-/

namespace CaseFlow

variable {d : Document}

/-- The gate looks at the step and the user of a completion, and at nothing else of it. -/
theorem Rules.gate_congr {r : Rules} {c : Case} {q q' : Completion} (hstep : q.stepId = q'.stepId)
    (huser : q.userId = q'.userId) : r.gate c d q = r.gate c d q' := by
  unfold gate
  rw [hstep, huser]

namespace Case

variable {r : Rules} {c : Case} {q : Completion} {userId : Option String}

/-- A user may complete the current step exactly when the gate lets them pass there. -/
theorem canComplete_iff_gate (hstep : q.stepId = c.currentStep) :
    c.canComplete d r.lookup q.userId = true ↔ ∃ n, r.gate c d q = .ok n := by
  simp only [canComplete_iff, Rules.gate_eq_ok, hstep, true_and]

/-- Whether a user may complete the current step of a case foretells how a completion fares. Where
they may not, a completion of any step is refused as stale, for a step that does not exist, as one
of a closed case or for want of permission; the reason depends on neither the choice nor the
values, and the keeper is not asked, so that its state stays as it is. Where they may, a completion
of the current step fails for its values, for want of a next step or because the keeper fails; it
is never refused as stale, as one of a closed case or for want of permission. -/
theorem canComplete_agrees_run (r : Rules) (c : Case) (d : Document) (userId : Option String) :
    (c.canComplete d r.lookup userId = false → ∀ stepId, ∃ e : Error,
      e.kind ∈ [.stale, .reference, .closed, .stepPermission] ∧
      ∀ (σ : Type) (keep : Case → σ → Except Failure Unit × σ) choice values now (s : σ),
        r.run keep c d ⟨stepId, userId, choice, values⟩ now s
          = (.error (.refused e), [Rules.refusalNote c stepId e], s)) ∧
    (c.canComplete d r.lookup userId = true →
      ∀ (σ : Type) (keep : Case → σ → Except Failure Unit × σ) choice values now (s : σ) f,
        (r.run keep c d ⟨c.currentStep, userId, choice, values⟩ now s).1 = .error f →
          (∃ e, f = .refused e ∧ e.kind ∉ [.stale, .closed, .stepPermission]) ∨
            ∃ c', r.complete c d ⟨c.currentStep, userId, choice, values⟩ now = .ok c' ∧
              (keep c' s).1 = .error f) := by
  constructor
  · intro hmay stepId
    cases hgate : r.gate c d ⟨stepId, userId, none, []⟩ with
    | ok n =>
      -- The gate lets pass only at the current step, where the user would be one who may.
      obtain rfl : c.currentStep = stepId := (Rules.gate_eq_ok.mp hgate).1
      rw [(canComplete_iff_gate rfl).mpr ⟨n, hgate⟩] at hmay
      cases hmay
    | error e =>
      refine ⟨e, Rules.kind_of_gate hgate, fun σ keep choice values now s => ?_⟩
      have hgate' : r.gate c d ⟨stepId, userId, choice, values⟩ = .error e :=
        (Rules.gate_congr rfl rfl).trans hgate
      rw [Rules.run, Rules.complete_of_gate_error hgate']
      rfl
  · intro hmay σ keep choice values now s f hrun
    obtain ⟨n, hgate⟩ :=
      (canComplete_iff_gate (q := ⟨c.currentStep, userId, choice, values⟩) rfl).mp hmay
    rw [Rules.run] at hrun
    cases hcomplete : r.complete c d ⟨c.currentStep, userId, choice, values⟩ now with
    | error f' =>
      rw [hcomplete] at hrun
      obtain rfl := Except.error.inj hrun
      -- The gate was passed, so that the refusal comes from the form or from the search behind it.
      obtain ⟨e, rfl, hrefused⟩ := Rules.complete_eq_error.mp hcomplete
      have hkind := hrefused.kind_of_gate_ok hgate
      refine .inl ⟨e, rfl, fun hother => ?_⟩
      -- The two lists of kinds have nothing in common.
      revert hkind hother
      generalize e.kind = k
      cases k <;> decide
    | ok c' =>
      rw [hcomplete] at hrun
      refine .inr ⟨c', rfl, ?_⟩
      dsimp only at hrun
      split at hrun
      · next hkeep =>
        rw [hkeep, Except.error.inj hrun]
      · cases hrun

/-- The draft of the sample workflow is the first user's. The second user is refused there whatever
they choose and submit; the first is not refused for being who they are. -/
theorem canComplete_agrees_run_sample :
    let r : Rules := { lookup := Sample.lookup, strict := true }
    let c : Case := { Sample.case with currentStep := some "draft" }
    let log (c : Case) (kept : List Case) : Except Failure Unit × List Case := (.ok (), c :: kept)
    (∃ e : Error, ∀ choice values,
      r.run log c Sample.workflow ⟨some "draft", some "user-2", choice, values⟩ Sample.noon []
        = (.error (.refused e), [Rules.refusalNote c (some "draft") e], [])) ∧
    ∀ choice values e,
      (r.run log c Sample.workflow ⟨some "draft", some "user-1", choice, values⟩ Sample.noon []).1
        = .error (.refused e) → e.kind ∉ [.stale, .closed, .stepPermission] := by
  intro r c log
  constructor
  · -- The gate is closed to the second user, and open to the first.
    have h := (canComplete_agrees_run r c Sample.workflow (some "user-2")).1 (by decide)
    obtain ⟨e, -, he⟩ := h (some "draft")
    exact ⟨e, fun choice values => he _ log choice values Sample.noon []⟩
  · intro choice values e hrun
    have h := (canComplete_agrees_run r c Sample.workflow (some "user-1")).2 (by decide)
    obtain ⟨e', he', hkind⟩ | ⟨c', -, hkeep⟩ := h _ log choice values Sample.noon [] _ hrun
    · rwa [Failure.refused.inj he']
    · -- The log takes every case.
      cases hkeep

end Case

end CaseFlow
