import CaseFlow.Proofs.Case.Permission

/-!
# Strict and lenient engines

An engine may be strict about steps with several ways out: it refuses a completion that makes no
choice among them, where a lenient one follows the first edge. Nothing else depends on it. So two
engines that are asked the same, one strict and one lenient, go in lockstep: the outcomes, the
cases that they hand on and the readings of the clock are the same, until the strict one refuses a
completion as ambiguous. The lenient one follows the first edge then, if that leads to a step
(`Engine.strict_only_refuses`).
-/

namespace CaseFlow

variable {d : Document} {n : Node} {e : Error}

/-! ## Where the two search for different steps -/

namespace Document

/-- Whether a search is strict matters only among several edges, where a strict one is refused as
ambiguous and a lenient one takes the first. -/
private theorem pickTarget_cases (stepId : String) (choice : Option String) (out : List Edge) :
    pickTarget true stepId choice out = pickTarget false stepId choice out ∨
      ∃ e f rest, out = e :: f :: rest ∧
        pickTarget true stepId choice out
          = .error (.ambiguous stepId ((e :: f :: rest).map (·.target))) ∧
        pickTarget false stepId choice out = .ok e.target := by
  match out with
  | [] => exact .inl rfl
  | [_] => exact .inl rfl
  | e :: f :: rest =>
    simp only [pickTarget]
    -- A choice that names one of the edges is followed in either case.
    cases chosen? (e :: f :: rest) choice with
    | some t => exact .inl rfl
    | none => exact .inr ⟨e, f, rest, rfl, rfl, rfl⟩

/-- Both engines find the same next step, unless the strict one refuses to choose among the edges
and the lenient one follows the first of them. -/
theorem nextStep_cases (hn : d.node? n.id = some n) (choice : Option String) :
    d.nextStep true (some n.id) choice = d.nextStep false (some n.id) choice ∨
      ∃ e f rest, d.outgoing n.id = e :: f :: rest ∧
        d.nextStep true (some n.id) choice
          = .error (.ambiguous n.id ((e :: f :: rest).map (·.target))) ∧
        d.nextStep false (some n.id) choice = d.requireStep (some e.target) := by
  have hstep : d.requireStep (some n.id) = .ok n := requireStep_eq_ok.mpr hn
  -- What strictness decides is the target, not the look-up of the step that it names.
  have hnext (strict : Bool) : d.nextStep strict (some n.id) choice =
      (pickTarget strict n.id choice (d.outgoing n.id)).bind fun t => d.requireStep (some t) := by
    rw [nextStep, hstep, ok_bind]
    rfl
  rw [hnext, hnext]
  rcases pickTarget_cases n.id choice (d.outgoing n.id) with hsame | ⟨e, f, rest, hout, hs, hl⟩
  · left
    rw [hsame]
  · right
    rw [hs, hl]
    exact ⟨e, f, rest, hout, rfl, rfl⟩

end Document

/-! ## Where the two complete a step differently -/

namespace Rules

variable {lookup : Lookup} {c working : Case} {q : Completion}

/-- Behind the form a completion has the step of the case left, and its outcome is a matter of the
step that is found next. -/
private theorem complete_of_prepare {strict : Bool}
    (h : ({ lookup, strict } : Rules).prepare c d q = .ok working) (now : Timestamp) :
    ∃ n, c.currentStep = some n.id ∧ d.node? n.id = some n ∧
      ∃ moved : Node → Case, (∀ next, (moved next).currentStep = some next.id) ∧
        ∀ strict, ({ lookup, strict } : Rules).complete c d q now =
          ((d.nextStep strict (some n.id) q.choice).mapError Failure.refused).map moved := by
  have hprepare := h
  rw [prepare, bind_eq_ok] at h
  obtain ⟨n, hgate, -⟩ := h
  obtain ⟨hsits, hfound, hfinal, user, huser⟩ := gate_eq_ok.mp hgate
  obtain ⟨stepId, hstep, hnode⟩ := Option.bind_eq_some_iff.mp hfound
  obtain ⟨userId, hacting, -⟩ := authorize_eq_ok.mp huser
  obtain ⟨-, rfl⟩ := Document.mem_of_node? hnode
  -- The case that comes of a move depends on the search through the next step only.
  refine ⟨n, hsits.trans hstep, hnode, fun next => { working with
    currentStep := some next.id
    history := working.history ++ [⟨n.id, userId, now⟩]
    status := if next.type == .finish then .closed else working.status
    assigneeId := working.nextAssignee (some lookup) next }, fun _ => rfl, fun strict' => ?_⟩
  -- The checks made before do not ask whether the rules are strict.
  have hprepare' : ({ lookup, strict := strict' } : Rules).prepare c d q = .ok working := hprepare
  have hrequired : d.requireStep (some n.id) = .ok n := Document.requireStep_eq_ok.mpr hnode
  rw [complete, hprepare', hstep, hacting]
  simp only [Except.mapError, ok_bind, Case.moveOn, hrequired, hfinal, beq_iff_eq, ↓reduceIte,
    Case.eventFor_some]
  cases d.nextStep strict' (some n.id) q.choice with
  | error e => rfl
  | ok next => rfl

/-- Behind the form or before it: two completions that differ in strictness only have one outcome,
which is no refusal as ambiguous; or the case sits at a step with several ways out and no choice
among them, the strict one is refused as ambiguous, and the lenient one has the outcome of a move
along the first edge. -/
private theorem complete_cases (lookup : Lookup) (c : Case) (d : Document) (q : Completion)
    (now : Timestamp) :
    ({ lookup, strict := true } : Rules).complete c d q now
        = ({ lookup, strict := false } : Rules).complete c d q now ∨
      ∃ n e f rest, c.currentStep = some n.id ∧ d.node? n.id = some n ∧
        d.outgoing n.id = e :: f :: rest ∧
        ({ lookup } : Rules).readsClock c d q = true ∧
        ({ lookup, strict := true } : Rules).complete c d q now
          = .error (.refused (.ambiguous n.id ((e :: f :: rest).map (·.target)))) ∧
        (match d.node? e.target with
          | none => ({ lookup, strict := false } : Rules).complete c d q now
              = .error (.refused (.unknownStep (some e.target)))
          | some _ => ∃ c', ({ lookup, strict := false } : Rules).complete c d q now = .ok c' ∧
              c'.currentStep = some e.target) := by
  cases hprepare : ({ lookup } : Rules).prepare c d q with
  | error e =>
    left
    -- What fails before the move does so without a look at strictness.
    have hrefused (strict : Bool) : ({ lookup, strict } : Rules).complete c d q now
        = .error (.refused e) := by
      have hprepare' : ({ lookup, strict } : Rules).prepare c d q = .error e := hprepare
      rw [complete, hprepare']
      rfl
    rw [hrefused, hrefused]
  | ok working =>
    obtain ⟨n, hsits, hn, moved, hmoved, hcomplete⟩ := complete_of_prepare hprepare now
    rw [hcomplete, hcomplete]
    -- The rest of a completion depends on the next step alone.
    rcases Document.nextStep_cases hn q.choice with hsame | ⟨e, f, rest, hout, hs, hl⟩
    · left
      rw [hsame]
    · right
      refine ⟨n, e, f, rest, hsits, hn, hout, ?_, ?_, ?_⟩
      · rw [readsClock, hprepare]
        rfl
      · rw [hs]
        rfl
      · rw [hl, Document.requireStep, Option.bind_some]
        cases htarget : d.node? e.target with
        | none => rfl
        | some next =>
          obtain ⟨-, hid⟩ := Document.mem_of_node? htarget
          exact ⟨moved next, rfl, (hmoved next).trans (congrArg some hid)⟩

/-- A lenient completion is never refused as ambiguous. -/
private theorem complete_lenient_ne_ambiguous {now : Timestamp}
    (h : ({ lookup, strict := false } : Rules).complete c d q now = .error (.refused e)) :
    e.kind ≠ .ambiguous := by
  obtain ⟨e', he, hrefused⟩ := complete_eq_error.mp h
  obtain rfl := Failure.refused.inj he
  cases hrefused with
  | barred hbarred => cases hbarred <;> simp
  | answer _ h => simp [Node.kind_of_answers h]
  | deadEnd => simp
  | ambiguous _ _ hstrict => cases hstrict
  | unknownTarget => simp

end Rules

/-- A placement is refused for a step that does not exist, and for nothing else. -/
private theorem Case.kind_of_place {c : Case} {stepId : Option String}
    (h : c.place d stepId = .error e) :
    e.kind = .reference := by
  unfold place at h
  cases hstep : d.requireStep stepId with
  | error e' =>
    obtain ⟨-, rfl⟩ := Document.requireStep_eq_error.mp hstep
    rw [hstep] at h
    rw [← Except.error.inj h, Error.kind_unknownStep]
  | ok n =>
    rw [hstep] at h
    cases h

/-! ## Engines -/

/-- What an engine works with, besides the choice of being strict. -/
structure Engine (σ : Type) where
  /-- Finds users. -/
  lookup : Lookup
  /-- What a case that moved is handed on to. It has a state of its own, and may fail. -/
  keep : Case → σ → Except Failure Unit × σ
  /-- The readings of the clock, one after the other. -/
  clock : Nat → Timestamp

namespace Engine

variable {σ α β : Type}

/-- What is tried on a case. -/
inductive Request where
  /-- Completing its current step. -/
  | complete (q : Completion)
  /-- Placing it on a step by hand. -/
  | place (stepId : Option String)

/-- How far things have come. -/
structure State (σ : Type) where
  /-- The case, as the last attempt that succeeded gave it back. -/
  case : Case
  /-- What became of the cases that were handed on. -/
  kept : σ
  /-- How often the clock was read. -/
  readings : Nat

/-- Whether an attempt is refused as ambiguous. -/
def isAmbiguous : Except Failure α → Bool
  | .error (.refused e) => e.kind == .ambiguous
  | _ => false

variable (g : Engine σ) (d : Document) (s : State σ)

/-- The rules of an engine. -/
def rules (strict : Bool) : Rules := { lookup := g.lookup, strict }

/-- The state after the clock was read, if it was. -/
def afterReading (strict : Bool) (q : Completion) : State σ :=
  { s with
    readings := if (g.rules strict).readsClock s.case d q then s.readings + 1 else s.readings }

/-- Hands a case on that has moved. If it is not taken, the attempt fails and the caller has the
case as it was. -/
def handOn (s : State σ) (c : Case) : Except Failure Case × State σ :=
  match g.keep c s.kept with
  | (.error f, kept) => (.error f, { s with kept })
  | (.ok (), kept) => (.ok c, { s with case := c, kept })

/-- What an engine answers to an attempt, and the state after. -/
def respond (strict : Bool) : Request → Except Failure Case × State σ
  | .complete q =>
    let (outcome, _, kept) :=
      (g.rules strict).run g.keep s.case d q (g.clock s.readings) s.kept
    let s := g.afterReading d s strict q
    (outcome, { s with case := outcome.toOption.getD s.case, kept })
  | .place stepId =>
    match s.case.place d stepId with
    | .error e => (.error (.refused e), s)
    | .ok c => g.handOn s c

/-- The outcomes of a list of attempts, each made on what the ones before have left, and the state
after the last. -/
def replay (strict : Bool) : State σ → List Request → List (Except Failure Case) × State σ
  | s, [] => ([], s)
  | s, q :: qs =>
    let first := g.respond d s strict q
    let rest := replay strict first.2 qs
    (first.1 :: rest.1, rest.2)

/-- An attempt that only a strict engine refuses. The case is to leave a step with several ways
out, and no choice is made among them. The strict engine refuses as ambiguous and hands nothing on.
The lenient one follows the first edge: it moves the case to the target and hands it on, or refuses
since there is no such step. Both have read the clock once. -/
def Forks (q : Request) : Prop :=
  ∃ r n e f rest, q = .complete r ∧ s.case.currentStep = some n.id ∧ d.node? n.id = some n ∧
    d.outgoing n.id = e :: f :: rest ∧
    g.respond d s true q = (.error (.refused (.ambiguous n.id ((e :: f :: rest).map (·.target)))),
      { s with readings := s.readings + 1 }) ∧
    match d.node? e.target with
    | none => g.respond d s false q
        = (.error (.refused (.unknownStep (some e.target))), { s with readings := s.readings + 1 })
    | some _ => ∃ c, (g.rules false).complete s.case d r (g.clock s.readings) = .ok c ∧
        c.currentStep = some e.target ∧
        g.respond d s false q = g.handOn { s with readings := s.readings + 1 } c

variable {g d s}

/-- An outcome counts as ambiguous exactly if it is a refusal of that kind. -/
theorem isAmbiguous_eq_true {x : Except Failure α} :
    isAmbiguous x = true ↔ ∃ e, x = .error (.refused e) ∧ e.kind = .ambiguous := by
  constructor
  · intro h
    unfold isAmbiguous at h
    split at h
    · next e => exact ⟨e, rfl, beq_iff_eq.mp h⟩
    · cases h
  · rintro ⟨e, rfl, hkind⟩
    exact beq_iff_eq.mpr hkind

/-- What is made of a success does not matter for that. -/
@[simp]
theorem isAmbiguous_map (f : α → β) (x : Except Failure α) :
    isAmbiguous (x.map f) = isAmbiguous x := by
  cases x with
  | error e => cases e <;> rfl
  | ok a => rfl

/-- A case that is handed on is given back, if the keeper takes it. -/
theorem fst_handOn (g : Engine σ) (s : State σ) (c : Case) :
    (g.handOn s c).1 = (g.keep c s.kept).1.map fun _ => c := by
  unfold handOn
  rcases g.keep c s.kept with ⟨f | ⟨⟩, kept⟩ <;> rfl

/-- A completion that is refused leaves the state as it is after the reading of the clock. -/
theorem respond_complete_of_error {strict : Bool} {q : Completion} {f : Failure}
    (h : (g.rules strict).complete s.case d q (g.clock s.readings) = .error f) :
    g.respond d s strict (.complete q) = (.error f, g.afterReading d s strict q) := by
  simp only [respond, Rules.run, h]
  rfl

/-- A case that completes a step is handed on. -/
theorem respond_complete_of_ok {strict : Bool} {q : Completion} {c : Case}
    (h : (g.rules strict).complete s.case d q (g.clock s.readings) = .ok c) :
    g.respond d s strict (.complete q) = g.handOn (g.afterReading d s strict q) c := by
  have hkept : (g.afterReading d s strict q).kept = s.kept := rfl
  simp only [respond, Rules.run, h, handOn, hkept]
  rcases g.keep c s.kept with ⟨f | ⟨⟩, kept⟩ <;> rfl

/-- To each attempt the two engines respond alike, or it is one that only the strict one
refuses. -/
theorem respond_cases (g : Engine σ) (d : Document) (s : State σ) (q : Request) :
    g.respond d s true q = g.respond d s false q ∨ g.Forks d s q := by
  cases q with
  | place stepId => exact .inl rfl
  | complete r =>
    -- Either the rules give the same to both, and all that follows does too, or the choice is
    -- ambiguous.
    rcases Rules.complete_cases g.lookup s.case d r (g.clock s.readings) with
      hsame | ⟨n, e, f, rest, hsits, hn, hout, hreads, hs, hl⟩
    · left
      have hreading : g.afterReading d s true r = g.afterReading d s false r := rfl
      cases hcomplete : (g.rules false).complete s.case d r (g.clock s.readings) with
      | error f =>
        rw [respond_complete_of_error hcomplete, respond_complete_of_error (hsame.trans hcomplete),
          hreading]
      | ok c =>
        rw [respond_complete_of_ok hcomplete, respond_complete_of_ok (hsame.trans hcomplete),
          hreading]
    · right
      -- The clock was read, since the attempt got as far as the move.
      have hreading (strict : Bool) :
          g.afterReading d s strict r = { s with readings := s.readings + 1 } :=
        congrArg (State.mk s.case s.kept) (if_pos hreads)
      refine ⟨r, n, e, f, rest, rfl, hsits, hn, hout, ?_, ?_⟩
      · rw [respond_complete_of_error hs, hreading]
      · cases htarget : d.node? e.target with
        | none =>
          rw [htarget] at hl
          exact (respond_complete_of_error hl).trans (by rw [hreading])
        | some next =>
          rw [htarget] at hl
          obtain ⟨c, hc, hstep⟩ := hl
          exact ⟨c, hc, hstep, (respond_complete_of_ok hc).trans (by rw [hreading])⟩

/-- At a fork the strict engine refuses the request as ambiguous. -/
theorem Forks.isAmbiguous {q : Request} (h : g.Forks d s q) :
    isAmbiguous (g.respond d s true q).1 = true := by
  obtain ⟨r, n, e, f, rest, -, -, -, -, hs, -⟩ := h
  rw [hs, isAmbiguous_eq_true]
  exact ⟨_, rfl, Error.kind_ambiguous _ _⟩

/-- A lenient engine itself refuses nothing as ambiguous: only the keeper can fail so. -/
private theorem exists_keep_of_isAmbiguous {q : Request}
    (h : Engine.isAmbiguous (g.respond d s false q).1 = true) :
    ∃ c, Engine.isAmbiguous (g.keep c s.kept).1 = true := by
  cases q with
  | place stepId =>
    cases hplace : s.case.place d stepId with
    | error e =>
      rw [respond, hplace] at h
      have hkind : (e.kind == .ambiguous) = true := h
      -- A placement is refused for a step that is not there, never as ambiguous.
      rw [Case.kind_of_place hplace] at hkind
      cases hkind
    | ok c =>
      rw [respond, hplace, fst_handOn, isAmbiguous_map] at h
      exact ⟨c, h⟩
  | complete r =>
    cases hcomplete : (g.rules false).complete s.case d r (g.clock s.readings) with
    | error f =>
      rw [respond_complete_of_error hcomplete] at h
      obtain ⟨e, he, hkind⟩ := isAmbiguous_eq_true.mp h
      obtain rfl := Except.error.inj he
      -- Lenient rules never refuse a completion as ambiguous, so it was the keeper.
      exact absurd hkind (Rules.complete_lenient_ne_ambiguous hcomplete)
    | ok c =>
      rw [respond_complete_of_ok hcomplete, fst_handOn, isAmbiguous_map] at h
      exact ⟨c, h⟩

/-- As long as the strict engine refuses nothing as ambiguous, the two go in lockstep. -/
private theorem replay_eq {qs : List Request}
    (hclear : ∀ o ∈ (g.replay d true s qs).1, isAmbiguous o = false) :
    g.replay d true s qs = g.replay d false s qs := by
  induction qs generalizing s with
  | nil => rfl
  | cons q qs ih =>
    obtain ⟨hfirst, hrest⟩ := List.forall_mem_cons.mp hclear
    rcases respond_cases g d s q with hsame | hforks
    · rw [replay, ih hrest, hsame, replay]
    · rw [hforks.isAmbiguous] at hfirst
      cases hfirst

/-- Whatever document, users, keeper and clock two engines have that differ in strictness only, and
from whatever state they are asked the same: as long as the strict one refuses nothing as
ambiguous, both have given the same outcomes, handed the same cases on and read the clock equally
often. And if it then refuses an attempt as ambiguous, the lenient one follows the first edge; or
the refusal is none of the engine, but a failure of the keeper that both pass on. -/
theorem strict_only_refuses (g : Engine σ) (d : Document) (s : State σ) (qs : List Request)
    (hclear : ∀ o ∈ (g.replay d true s qs).1, isAmbiguous o = false) :
    g.replay d true s qs = g.replay d false s qs ∧
      ∀ q, isAmbiguous (g.respond d (g.replay d true s qs).2 true q).1 = true →
        g.Forks d (g.replay d true s qs).2 q ∨
          (g.respond d (g.replay d true s qs).2 true q
              = g.respond d (g.replay d true s qs).2 false q ∧
            ∃ c, isAmbiguous (g.keep c (g.replay d true s qs).2.kept).1 = true) := by
  refine ⟨replay_eq hclear, fun q hambiguous => ?_⟩
  -- What the two engines did before does not matter for the next attempt.
  generalize (g.replay d true s qs).2 = s' at hambiguous ⊢
  rcases respond_cases g d s' q with hsame | hforks
  · right
    rw [hsame] at hambiguous
    exact ⟨hsame, exists_keep_of_isAmbiguous hambiguous⟩
  · exact .inl hforks

end Engine

/-! ## A review without a choice -/

namespace Sample

/-- An engine that logs the cases which it hands on; its clock goes minute by minute. -/
def engine : Engine (List Case) where
  lookup := lookup
  keep c log := (.ok (), log ++ [c])
  clock k := noon.plusSeconds (60 * k)

/-- The sample case is opened, and nothing has happened yet. -/
def beginning : Engine.State (List Case) := { case, kept := [], readings := 0 }

/-- Attempts that bring the case to its review; two of them fail. -/
def requests : List Engine.Request :=
  [.complete (tryAt "user-2" "start").request, .complete (tryAt "user-2" "draft").request,
    .place (some "archive"),
    .complete (tryAt "user-1" "draft" none [("notes", .text "one")]).request]

/-- A review that leaves it open whether the draft is sent back. -/
def undecided : Engine.Request :=
  .complete (tryAt "user-3" "review" none [("grade", .text "A")]).request

end Sample

/-- The sample engines go in lockstep up to the review. That is refused by the strict one, and the
lenient one moves the case on to its end. -/
theorem Engine.strict_only_refuses_sample :
    let s := (Sample.engine.replay Sample.workflow true Sample.beginning Sample.requests).2
    (Sample.engine.replay Sample.workflow false Sample.beginning Sample.requests).2 = s ∧
      Sample.engine.Forks Sample.workflow s Sample.undecided ∧
      (Sample.engine.respond Sample.workflow s false Sample.undecided).2.case.currentStep
        = some "end" := by
  intro s
  obtain ⟨hsame, hforks⟩ := strict_only_refuses Sample.engine Sample.workflow Sample.beginning
    Sample.requests (by decide +kernel)
  refine ⟨congrArg Prod.snd hsame.symm, ?_, by decide +kernel⟩
  obtain hforks | ⟨-, c, hkeep⟩ := hforks Sample.undecided (by decide +kernel)
  · exact hforks
  · -- The log takes every case.
    cases hkeep

end CaseFlow
