/-!
# Arranging by bisection

Arranges a list by an order that may leave some pairs open. A run that is in order already, or
in strictly reversed order, is taken as a whole; each later element goes to the place that
bisection finds, after elements that it does not precede.
-/

namespace CaseFlow.Board

variable {α : Type}

/-- The place of an element between two places of an arranged list. -/
def placeBetween (precedes : α → α → Bool) (x : α) (xs : Array α) (low high : Nat) : Nat :=
  if low < high then
    let middle := low + (high - low) / 2
    match xs[middle]? with
    | some y =>
      if precedes x y then placeBetween precedes x xs low middle
      else placeBetween precedes x xs (middle + 1) high
    | none => low
  else low
termination_by high - low

/-- Puts an element in its place. -/
def insertByBisection (precedes : α → α → Bool) (xs : List α) (x : α) : List α :=
  let place := placeBetween precedes x xs.toArray 0 xs.length
  xs.take place ++ x :: xs.drop place

/-- The elements at the front of which none satisfies `stop` with the one before it, and the
rest. -/
def splitRun (stop : α → α → Bool) (last : α) : List α → List α × List α
  | [] => ([], [])
  | x :: xs =>
    if stop x last then ([], x :: xs)
    else
      let (run, rest) := splitRun stop x xs
      (x :: run, rest)

/-- The run at the front of a list, in order, and the rest. -/
def leadingRun (precedes : α → α → Bool) : List α → List α × List α
  | x :: y :: xs =>
    -- A falling run ends at a pair that is not strictly falling, so equals are never turned round.
    if precedes y x then
      let (run, rest) := splitRun (fun b a => !precedes b a) y xs
      ((x :: y :: run).reverse, rest)
    else
      let (run, rest) := splitRun precedes y xs
      (x :: y :: run, rest)
  | xs => (xs, [])

/-- Arranges a list. -/
def arrange (precedes : α → α → Bool) (xs : List α) : List α :=
  let (run, rest) := leadingRun precedes xs
  rest.foldl (insertByBisection precedes) run

end CaseFlow.Board
