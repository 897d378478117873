import CaseFlow.Proofs.Case.Step
import CaseFlow.Seed.Demo

/-!
# Runs of a case

A run is a list of attempts on one case, each made on what the ones before have left: tries to
complete its current step, and placements by hand. Every try has a user, a choice and a submission
of its own, a time, and rules that may be strict or not, so a run covers whatever is done to a case
under one document. An attempt that fails leaves the case as it was.

`Case.passes_attempt` says once what an attempt can do: nothing, complete the step at which the case
sits, or place the case on a step. Every invariant of runs is proved by cases on `Case.Passes` and
carried along a run by `Case.attempts_induction`. The sample run at the end has failures of most
kinds in it.
-/

namespace CaseFlow

/-- A lookup that returns every user under the id asked for. -/
def Lookup.Honest (lookup : Lookup) : Prop := ∀ id user, lookup id = some user → user.id = id

/-- The lookup among a list of users. -/
def Lookup.among (users : List User) : Lookup := fun id => users.find? (·.id == id)

/-- A search among users finds them under their own ids. -/
theorem Lookup.honest_among (users : List User) : (among users).Honest := by
  intro id user h
  simpa using List.find?_some h

/-- A try to complete the current step of a case. -/
structure Try where
  /-- Whether a choice is demanded among several ways out. -/
  strict : Bool
  /-- What the user asks for. -/
  request : Completion
  /-- The time that is recorded if the try succeeds. -/
  now : Timestamp

/-- The rules under which a try is made. -/
def Try.rules (t : Try) (lookup : Lookup) : Rules := { lookup, strict := t.strict }

/-- Something tried on a case. -/
inductive Attempt where
  /-- A try to complete its current step. -/
  | complete (t : Try)
  /-- Placing it on a step by hand. -/
  | place (stepId : Option String)

namespace Case

variable (lookup : Lookup) (d : Document)

/-- The outcome of an attempt on a case. -/
def outcome (c : Case) : Attempt → Except Failure Case
  | .complete t => (t.rules lookup).complete c d t.request t.now
  | .place stepId => (c.place d stepId).mapError Failure.refused

/-- The case after an attempt, which is the same where the attempt fails. -/
def attempt (c : Case) (a : Attempt) : Case :=
  match c.outcome lookup d a with
  | .ok c' => c'
  | .error _ => c

/-- The case after a list of attempts. -/
def attempts (c : Case) (as : List Attempt) : Case := as.foldl (attempt lookup d) c

variable {lookup d}

/-- What an attempt can do to a case: nothing, complete its step, or place it. -/
inductive Passes (lookup : Lookup) (d : Document) (c : Case) : Attempt → Case → Prop
  /-- The attempt fails. -/
  | refused {a : Attempt} {f : Failure} (h : c.outcome lookup d a = .error f) :
      Passes lookup d c a c
  /-- The current step is completed. -/
  | completed {t : Try} {n next : Node} {userId : String} {user : User} {vs : Fields}
      (h : (t.rules lookup).Completes d c t.request n next userId user vs) :
      Passes lookup d c (.complete t) (c.advanced lookup n next userId vs t.now)
  /-- The case is placed on a step. -/
  | placed {stepId : Option String} {n : Node} (h : stepId.bind d.node? = some n) :
      Passes lookup d c (.place stepId)
        { c with currentStep := some n.id, status := statusFor n.type }

/-- Every attempt does one of these. -/
theorem passes_attempt (c : Case) (a : Attempt) :
    Passes lookup d c a (c.attempt lookup d a) := by
  unfold attempt
  cases h : c.outcome lookup d a with
  | error f => exact .refused h
  | ok c' =>
    -- What succeeded is a completion with all that it takes, or a placement on a node that is
    -- there.
    cases a with
    | complete t =>
      obtain ⟨n, next, userId, user, vs, hcompletes, rfl⟩ := Rules.complete_eq_ok.mp h
      exact .completed hcompletes
    | place stepId =>
      simp only [outcome, mapError_eq_ok, place_eq_ok] at h
      obtain ⟨n, hn, rfl⟩ := h
      exact .placed hn

/-- What every attempt of a run preserves holds after the run. -/
theorem attempts_induction {P : Case → Prop} {as : List Attempt} {c : Case} (h : P c)
    (hstep : ∀ c c', P c → ∀ a ∈ as, Passes lookup d c a c' → P c') :
    P (c.attempts lookup d as) := by
  induction as generalizing c with
  | nil => exact h
  | cons a as ih =>
    -- The run starts with `a` and goes on from what `a` leaves.
    have hfirst : P (c.attempt lookup d a) := hstep c _ h a (by simp) (passes_attempt c a)
    exact ih hfirst fun c c' hc b hb => hstep c c' hc b (by simp [hb])

end Case

/-! ## A sample run

In the sample workflow the draft is sent back once; half of the tries fail.
-/

namespace Sample

/-- The time at which everything happens. -/
def noon : Timestamp := ⟨⟨2024, 1, 1, by decide⟩, 43200, 0, some 0⟩

/-- A case at the start of the workflow. -/
def case : Case :=
  { id := "case-1", appId := "app-1", title := "Report", createdAt := noon,
    currentStep := some "start" }

/-- The sample case was opened in the sample workflow. -/
theorem openedIn_workflow : case.OpenedIn workflow :=
  ⟨{ appId := .text "app-1", title := .text "Report", caseId := .text "case-1" }, noon, .counter,
    .counter, rfl⟩

/-- The users who work on the case. -/
def lookup : Lookup := .among Seed.users

/-- A try of a user at a step, with a choice demanded. -/
def tryAt (user step : String) (choice : Option String := none) (values : Fields := []) : Try :=
  { strict := true, now := noon,
    request := { stepId := some step, userId := some user, choice, values } }

/-- Tries that fail since the case is elsewhere, the step is another user's, the notes are
missing, or no choice is made; between them the case moves to its end. -/
def tries : List Try :=
  [tryAt "user-2" "draft", tryAt "user-2" "start",
    tryAt "user-2" "draft" none [("notes", .text "one")], tryAt "user-1" "draft",
    tryAt "user-1" "draft" none [("notes", .text "one"), ("grade", .text "A")],
    tryAt "user-3" "review",
    tryAt "user-3" "review" (some "draft") [("notes", .text "no"), ("grade", .text "B")],
    tryAt "user-1" "draft" none [("notes", .text "two")],
    tryAt "user-3" "review" (some "end"), tryAt "user-3" "end"]

/-- The case after the tries. -/
def finished : Case := case.attempts lookup workflow (tries.map .complete)

/-- The tries; then the closed case is placed on a step that does not exist, and on the draft,
which is completed once more. -/
def attempts : List Attempt :=
  tries.map .complete ++ [.place (some "archive"), .place (some "draft"),
    .complete (tryAt "user-1" "draft" none [("notes", .text "three")])]

end Sample

end CaseFlow
