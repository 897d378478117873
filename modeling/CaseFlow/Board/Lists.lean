import CaseFlow.Case.Basic
import CaseFlow.Error.Cause

/-!
# Lists of cases

Cases by status, the most recent cases, and the cases that wait for a user.
-/

namespace CaseFlow

/-- The cases of every status, in the order of the list view. -/
def byStatus (cases : List Case) : List (CaseStatus × List Case) :=
  (Worded.all (α := CaseStatus)).map fun s => (s, cases.filter (·.status == s))

/-- The most recent cases first; cases opened at one instant keep their order. -/
def newestFirst (cases : List Case) : List Case :=
  cases.mergeSort fun a b => b.createdAt.instant ≤ a.createdAt.instant

/-- The head of a list: all of it without a limit; with a negative one, all but that many. -/
def takeLimit {α : Type} (limit : Option Int) (xs : List α) : List α :=
  match limit with
  | none => xs
  | some n => if 0 ≤ n then xs.take n.toNat else xs.take (xs.length - n.natAbs)

/-- The most recent cases, at most as many as the limit says. Local and universal times cannot be
compared. -/
def recentCases (cases : List Case) (limit : Option Int) : Except Failure (List Case) :=
  if cases.any (·.createdAt.isAware) && cases.any (!·.createdAt.isAware) then
    .error (.fault .mixedClocks)
  else .ok (takeLimit limit (newestFirst cases))

/-- The cases whose current step is assigned to a user. -/
def casesAwaiting (cases : List Case) (d : Document) (userId : String) : List Case :=
  let gated := (d.nodes.filter fun n => n.assignee.text? == some userId).map (·.id)
  cases.filter fun c => c.currentStep.any gated.contains

end CaseFlow
