import CaseFlow.Proofs.Case.Run

/-!
# Handing a case over

A case that comes to a step is handed to the assignee of the step, and only those may complete the
step for whom it is open. The two are decided apart: the assignee when the step before is left
(`Case.nextAssignee`), the permission when somebody asks (`Case.canComplete`). They agree as long as
the lookup returns users under the id asked for (`Rules.handover_matches_gate`): a step of a known
user is handed to this user, who alone may complete it; one of an unknown user is handed to nobody
and stays closed; and one of no user is handed to nobody and is open to all users known.
-/

namespace CaseFlow

variable {lookup : Lookup} {d : Document} {n next : Node}

/-! ## Who may complete a step -/

/-- A user may complete a step when they are known and a step of one user's own is theirs. -/
private theorem exists_authorized_iff (hlookup : lookup.Honest) {u : String} (hu : u ≠ "") :
    (∃ user, authorize lookup n (some u) = .ok user) ↔
      (lookup u).isSome = true ∧ (n.isGated = true → n.assignee = .text u) := by
  simp only [authorize_eq_ok, Option.isSome_iff_exists]
  constructor
  · rintro ⟨user, id, hid, -, hknown, hadmitted⟩
    obtain rfl := Option.some.inj hid
    exact ⟨⟨user, hknown⟩, fun hgated => hlookup u user hknown ▸ hadmitted hgated⟩
  · rintro ⟨⟨user, hknown⟩, hadmitted⟩
    refine ⟨user, u, rfl, hu, hknown, fun hgated => ?_⟩
    rw [hadmitted hgated, hlookup u user hknown]

/-- A step with a name as its assignee is one user's own. -/
theorem Node.isGated_of_text {g : String} (h : n.assignee = .text g) (hg : g ≠ "") :
    n.isGated = true := by
  simpa [isGated, h, Value.truthy] using hg

namespace Case

variable {c : Case}

/-- At a step that is not final, those may complete it who are authorized. -/
private theorem canComplete_iff_authorized (hn : c.currentStep.bind d.node? = some n)
    (hfinal : n.type ≠ .finish) {userId : Option String} :
    c.canComplete d lookup userId = true ↔ ∃ user, authorize lookup n userId = .ok user := by
  simp [canComplete_iff, hn, hfinal]

/-! ## Who is handed the case -/

/-- A case is handed to an assignee whom somebody knows. -/
private theorem nextAssignee_of_known {g : String} (h : n.assignee = .text g) (hg : g ≠ "")
    (hknown : (lookup g).isSome = true) : c.nextAssignee (some lookup) n = some g := by
  simp only [nextAssignee, Node.isGated_of_text h hg, ↓reduceIte, h, Value.text?, hknown]

/-- A case stays with whom it was where nobody knows the assignee. -/
private theorem nextAssignee_of_unknown (h : ∀ g, n.assignee = .text g → lookup g = none) :
    c.nextAssignee (some lookup) n = c.assigneeId := by
  unfold nextAssignee
  split
  · split
    · next hg hsome =>
      cases hsome
      rw [h _ (Value.text?_eq_some.mp hg)]
      rfl
    · next hsome => cases hsome
    · rfl
  · rfl

/-- A case stays with whom it was where there is no assignee. -/
private theorem nextAssignee_of_free (h : n.isGated = false) :
    c.nextAssignee (some lookup) n = c.assigneeId := by
  simp [nextAssignee, h]

end Case

/-! ## The handover -/

namespace Rules

variable {r : Rules} {c c' : Case} {q : Completion} {now : Timestamp}

/-- Whenever a completion brings a case to a step that is not final, the user to whom the case is
handed and the users who may complete the step match. If the step has an assignee who is known, the
case is theirs, and of all users they alone may complete the step. If it has an assignee who is not
known, the case stays with whom it was, and no user may complete the step. If it has none, the case
stays with whom it was, and the users who may complete the step are those known. -/
theorem handover_matches_gate (hlookup : r.lookup.Honest) (h : r.complete c d q now = .ok c') :
    ∃ n, c'.currentStep.bind d.node? = some n ∧ (n.type ≠ .finish →
      (∀ g, n.assignee = .text g → g ≠ "" → (r.lookup g).isSome = true →
        c'.assigneeId = some g ∧
          ∀ u, u ≠ "" → (c'.canComplete d r.lookup (some u) = true ↔ u = g)) ∧
      (n.isGated = true → (∀ g, n.assignee = .text g → r.lookup g = none) →
        c'.assigneeId = c.assigneeId ∧
          ∀ u, u ≠ "" → c'.canComplete d r.lookup (some u) = false) ∧
      (n.isGated = false →
        c'.assigneeId = c.assigneeId ∧
          ∀ u, u ≠ "" →
            (c'.canComplete d r.lookup (some u) = true ↔ (r.lookup u).isSome = true))) := by
  obtain ⟨m, n, userId, user, vs, hcompletes, rfl⟩ := complete_eq_ok.mp h
  have hn : (c.advanced r.lookup m n userId vs now).currentStep.bind d.node? = some n :=
    hcompletes.found_next
  refine ⟨n, hn, fun hfinal => ?_⟩
  -- Off the final steps, whoever is known may complete the step, unless it is gated to another.
  have hmay {u : String} (hu : u ≠ "") :
      (c.advanced r.lookup m n userId vs now).canComplete d r.lookup (some u) = true ↔
        (r.lookup u).isSome = true ∧ (n.isGated = true → n.assignee = .text u) :=
    (Case.canComplete_iff_authorized hn hfinal).trans (exists_authorized_iff hlookup hu)
  -- In turn: a known assignee, an unknown one, and none.
  refine ⟨fun g hassignee hg hknown => ?_, fun hgated hunknown => ?_, fun hfree => ?_⟩
  · refine ⟨Case.nextAssignee_of_known hassignee hg hknown, fun u hu => ?_⟩
    rw [hmay hu, hassignee]
    constructor
    · rintro ⟨-, hadmitted⟩
      have hsame := hadmitted (Node.isGated_of_text hassignee hg)
      exact (Value.text.inj hsame).symm
    · rintro rfl
      exact ⟨hknown, fun _ => rfl⟩
  · refine ⟨Case.nextAssignee_of_unknown hunknown, fun u hu => ?_⟩
    rw [Bool.eq_false_iff, ne_eq, hmay hu]
    rintro ⟨hknown, hadmitted⟩
    -- Whoever is admitted is the assignee, whom nobody knows.
    rw [hunknown u (hadmitted hgated)] at hknown
    cases hknown
  · refine ⟨Case.nextAssignee_of_free hfree, fun u hu => ?_⟩
    rw [hmay hu, hfree]
    simp

end Rules

/-- The draft of the sample workflow is the first user's. Where they are known, the case becomes
theirs and waits for them alone; where they are not, it stays with the second user and waits for
nobody. -/
theorem Rules.handover_matches_gate_sample :
    let c : Case := { Sample.case with assigneeId := some "user-2" }
    let t := Sample.tryAt "user-2" "start"
    let others : Lookup := .among (Seed.users.drop 1)
    (∃ c', (t.rules Sample.lookup).complete c Sample.workflow t.request t.now = .ok c' ∧
      c'.assigneeId = some "user-1" ∧
      ∀ u, u ≠ "" →
        (c'.canComplete Sample.workflow Sample.lookup (some u) = true ↔ u = "user-1")) ∧
    ∃ c', (t.rules others).complete c Sample.workflow t.request t.now = .ok c' ∧
      c'.assigneeId = some "user-2" ∧
      ∀ u, u ≠ "" → c'.canComplete Sample.workflow others (some u) = false := by
  intro c t others
  constructor
  · obtain ⟨c', hc'⟩ : ∃ c', (t.rules Sample.lookup).complete c Sample.workflow t.request t.now
      = .ok c' := ⟨_, rfl⟩
    obtain ⟨n, hn, hmatch⟩ :=
      handover_matches_gate (r := t.rules Sample.lookup) (Lookup.honest_among _) hc'
    cases hc'
    cases hn
    -- The owner is known, so the gate opens for them alone.
    exact ⟨_, rfl, (hmatch (by decide)).1 "user-1" rfl (by decide) rfl⟩
  · obtain ⟨c', hc'⟩ : ∃ c', (t.rules others).complete c Sample.workflow t.request t.now
      = .ok c' := ⟨_, rfl⟩
    obtain ⟨n, hn, hmatch⟩ :=
      handover_matches_gate (r := t.rules others) (Lookup.honest_among _) hc'
    cases hc'
    cases hn
    -- The owner is not among the others, so the gate opens for nobody.
    refine ⟨_, rfl, (hmatch (by decide)).2.1 rfl fun g hg => ?_⟩
    obtain rfl := Value.text.inj hg
    rfl

end CaseFlow
