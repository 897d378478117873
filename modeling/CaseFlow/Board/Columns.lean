import CaseFlow.Board.Bisection
import CaseFlow.Case.Basic

/-!
# The board

The board shows one column for each start, task and end of a workflow, from left to right as on
the canvas, and in each column the cases that sit at its step. Columns with one coordinate keep
their document order, and cases keep the order in which they were given. A coordinate that is not
a number lies neither left nor right of any other; with such a one, columns are arranged by
bisection.

Cases are grouped by the id of their step, and each column looks up its group, which is always
there (`Document.board?_eq`).
-/

namespace CaseFlow

/-- Whether steps of a kind have a column. -/
def NodeType.hasColumn : NodeType → Bool
  | .start | .task | .finish => true
  | .gateway | .timer | .message => false

/-- The nodes that have a column, in document order. -/
def Document.columnNodes (d : Document) : List Node := d.nodes.filter (·.type.hasColumn)

/-- Nodes from left to right. -/
def leftToRight (ns : List Node) : List Node :=
  if ns.any (fun n => Decimal.isNaN n.position.x) then
    Board.arrange (fun a b => a.position.x < b.position.x) ns
  else ns.mergeSort fun a b => Decimal.orderKey a.position.x ≤ Decimal.orderKey b.position.x

/-- The nodes that have a column, from left to right. -/
def Document.columns (d : Document) : List Node := leftToRight d.columnNodes

/-- The cases that sit at a step. -/
def casesAt (cases : List Case) (stepId : String) : List Case :=
  cases.filter fun c => c.currentStep == some stepId

/-- A column of the board. -/
structure Column where
  /-- The step. -/
  node : Node
  /-- The cases that sit at it. -/
  cases : List Case
  deriving Repr, BEq

/-- Lists of cases, each under the id of a step. -/
abbrev CaseGroups := List (String × List Case)

/-- Puts a case behind those of its step, if that step has a list. -/
def CaseGroups.add (groups : CaseGroups) (c : Case) : CaseGroups :=
  groups.map fun g => if c.currentStep == some g.1 then (g.1, g.2 ++ [c]) else g

/-- The cases under the ids of the columns at which they sit; a case that sits elsewhere is left
out. -/
def groupByColumn (cases : List Case) (columns : List Node) : CaseGroups :=
  cases.foldl CaseGroups.add (columns.map fun n => (n.id, []))

/-- The columns of a workflow with the cases at each, if there is a list for each column. -/
def Document.board? (d : Document) (cases : List Case) : Option (List Column) :=
  let groups := groupByColumn cases d.columns
  d.columns.mapM fun n => (groups.lookup n.id).map fun cs => { node := n, cases := cs }

/-- Adding cases one by one puts those at a step behind what is under its id, in order. -/
theorem CaseGroups.foldl_add (groups : CaseGroups) (cases : List Case) :
    cases.foldl add groups = groups.map fun g => (g.1, g.2 ++ casesAt cases g.1) := by
  induction cases generalizing groups with
  | nil => simp [casesAt]
  | cons c rest ih =>
    rw [List.foldl_cons, ih, add, List.map_map]
    refine List.map_congr_left fun g _ => ?_
    by_cases hstep : c.currentStep = some g.1 <;> simp [casesAt, hstep]

/-- Under the id of a column there are the cases at that step. -/
theorem groupByColumn_eq (cases : List Case) (columns : List Node) :
    groupByColumn cases columns = columns.map fun n => (n.id, casesAt cases n.id) := by
  simp [groupByColumn, CaseGroups.foldl_add, Function.comp_def]

theorem lookup_groupByColumn {cases : List Case} {columns : List Node} {n : Node}
    (hn : n ∈ columns) :
    (groupByColumn cases columns).lookup n.id = some (casesAt cases n.id) := by
  rw [groupByColumn_eq]
  induction columns with
  | nil => cases hn
  | cons m rest ih =>
    rw [List.map_cons, List.lookup_cons]
    by_cases hid : n.id = m.id
    · simp [hid]
    · have hrest : n ∈ rest := (List.mem_cons.mp hn).resolve_left fun h => hid (h ▸ rfl)
      rw [beq_false_of_ne hid]
      exact ih hrest

/-- There is a list for each column. -/
theorem Document.board?_eq (d : Document) (cases : List Case) :
    d.board? cases = some (d.columns.map fun n => { node := n, cases := casesAt cases n.id }) := by
  have hcolumns (ns : List Node) (hns : ∀ n ∈ ns, n ∈ d.columns) :
      (ns.mapM fun n => ((groupByColumn cases d.columns).lookup n.id).map fun cs =>
        ({ node := n, cases := cs } : Column)) =
      some (ns.map fun n => { node := n, cases := casesAt cases n.id }) := by
    induction ns with
    | nil => rfl
    | cons n rest ih =>
      rw [List.mapM_cons, lookup_groupByColumn (hns n List.mem_cons_self),
        ih fun m hm => hns m (List.mem_cons_of_mem n hm)]
      rfl
  exact hcolumns d.columns fun _ h => h

/-- The columns of a workflow with the cases at each. -/
def Document.board (d : Document) (cases : List Case) : List Column :=
  (d.board? cases).get (by rw [board?_eq]; rfl)

/-- A column as a value. -/
def Column.toValue (c : Column) : Value :=
  .object [("step_id", .text c.node.id), ("label", .text c.node.label),
    ("type", .text c.node.type.word), ("cases", .list (c.cases.map Case.toValue))]

end CaseFlow
