import CaseFlow.Board.Columns
import CaseFlow.Proofs.Decimal.Order
import CaseFlow.Proofs.Workflow.Sound

/-!
# The columns of the board

The board of a document shows each start, task and end in one column and each case that sits at
one of these in that column only; nothing else is shown (`Document.board_faithful`).

Columns are arranged by an integer key, which orders coordinates as numbers do unless one is NaN.
A stable sort leaves items with one key in order (`filter_mergeSort_key`), so columns with one
coordinate stay in document order, the two zeros being one coordinate. A case sits at one step, and
ids are distinct, so it is in one column at most.
-/

namespace CaseFlow

/-! ## Sorting by a key -/

section Keys

variable {α κ : Type} [LinearOrder κ] {key : α → κ} {xs : List α}

/-- A list sorted by a key has its keys in order. -/
theorem pairwise_mergeSort_key :
    (xs.mergeSort fun a b => key a ≤ key b).Pairwise fun a b => key a ≤ key b := by
  refine (List.pairwise_mergeSort ?_ ?_ xs).imp of_decide_eq_true
  · simpa using fun a b c => le_trans
  · simpa using fun a b => le_total (key a) (key b)

/-- Items with one key stay in order. -/
theorem filter_mergeSort_key {p : α → Bool}
    (hkey : ∀ a ∈ xs, ∀ b ∈ xs, p a → p b → key a = key b) :
    (xs.mergeSort fun a b => key a ≤ key b).filter p = xs.filter p := by
  have hsorted : (xs.filter p).Pairwise fun a b => decide (key a ≤ key b) = true := by
    refine List.pairwise_of_forall_mem_list fun a ha b hb => ?_
    obtain ⟨ha, hpa⟩ := List.mem_filter.mp ha
    obtain ⟨hb, hpb⟩ := List.mem_filter.mp hb
    exact decide_eq_true (hkey a ha b hb hpa hpb).le
  -- A stable sort keeps what is sorted in order, and drops and adds nothing.
  have hsub : (xs.filter p).Sublist (xs.mergeSort fun a b => key a ≤ key b) := by
    refine List.sublist_mergeSort ?_ ?_ hsorted List.filter_sublist
    · simpa using fun a b c => le_trans
    · simpa using fun a b => le_total (key a) (key b)
  have hfilter : (xs.filter p).Sublist ((xs.mergeSort fun a b => key a ≤ key b).filter p) := by
    simpa using hsub.filter p
  exact (hfilter.eq_of_length ((List.mergeSort_perm xs _).filter p).length_eq.symm).symm

end Keys

variable {d : Document} {cases : List Case} {n : Node}

/-- The columns of a board show document `d` and the cases that sit at its steps. -/
structure Document.Shown (d : Document) (cases : List Case) (columns : List Column) : Prop where
  /-- The starts, tasks and ends have one column each. -/
  nodes_perm :
    (columns.map (·.node)).Perm (d.nodes.filter (·.type ∈ [.start, .task, .finish]))
  /-- No column is to the left of one before it. -/
  left_to_right : columns.Pairwise fun a b => a.node.position.x ≤ b.node.position.x
  /-- The columns at one coordinate are in document order. -/
  document_order : ∀ x : Float, (columns.map (·.node)).filter (·.position.x == x) =
    d.nodes.filter fun n => n.type ∈ [.start, .task, .finish] ∧ n.position.x == x
  /-- A column has the cases that sit at its step, as often and in the order in which they are
  given. -/
  cases_eq : ∀ c ∈ columns, c.cases = cases.filter (·.currentStep == some c.node.id)
  /-- A case that sits at a start, a task or an end is in the column of that node, -/
  at_step : ∀ k ∈ cases, ∀ n ∈ d.nodes, n.type ∈ [.start, .task, .finish] →
    k.currentStep = some n.id → ∃ c ∈ columns, c.node = n ∧ k ∈ c.cases
  /-- and in no other column. -/
  apart : columns.Pairwise fun a b => a.cases.Disjoint b.cases
  /-- A case that sits elsewhere is in no column. -/
  elsewhere : ∀ k, (∀ n ∈ d.nodes, n.type ∈ [.start, .task, .finish] →
    k.currentStep ≠ some n.id) → ∀ c ∈ columns, k ∉ c.cases

/-- Starts, tasks and final steps have columns, and no other steps. -/
theorem NodeType.hasColumn_iff {t : NodeType} :
    t.hasColumn = true ↔ t ∈ [.start, .task, .finish] := by
  cases t <;> simp [hasColumn]

/-- The cases at a step are those whose current step it is. -/
theorem mem_casesAt {k : Case} {id : String} :
    k ∈ casesAt cases id ↔ k ∈ cases ∧ k.currentStep = some id := by
  simp [casesAt]

/-- The id of a node with the key of its coordinate. -/
def Node.keyed (n : Node) : String × Int := (n.id, Decimal.orderKey n.position.x)

namespace Document

/-- The steps with columns, in the order of the document. -/
theorem columnNodes_eq : d.columnNodes = d.nodes.filter (·.type ∈ [.start, .task, .finish]) :=
  List.filter_congr fun _ _ => Bool.eq_iff_iff.mpr (by simp [NodeType.hasColumn_iff])

/-! ## Columns from left to right -/

/-- Columns are arranged by their keys if no coordinate is NaN. -/
theorem columns_eq_mergeSort (hx : ∀ n ∈ d.nodes, n.position.x.isNaN = false) :
    d.columns = d.columnNodes.mergeSort fun a b =>
      Decimal.orderKey a.position.x ≤ Decimal.orderKey b.position.x := by
  have hnumbers : d.columnNodes.any (fun n => Decimal.isNaN n.position.x) = false := by
    rw [List.any_eq_false]
    intro n hn
    rw [Decimal.isNaN_eq, hx n (List.mem_of_mem_filter hn)]
    exact Bool.false_ne_true
  rw [columns, leftToRight, hnumbers]
  rfl

/-- Where no position is NaN the columns are the steps with columns in another order. -/
theorem columns_perm (hx : ∀ n ∈ d.nodes, n.position.x.isNaN = false) :
    d.columns.Perm d.columnNodes := by
  rw [columns_eq_mergeSort hx]
  exact List.mergeSort_perm _ _

/-- A column stands for each start, task and final step. -/
theorem mem_columns (hx : ∀ n ∈ d.nodes, n.position.x.isNaN = false) :
    n ∈ d.columns ↔ n ∈ d.nodes ∧ n.type ∈ [.start, .task, .finish] := by
  rw [(columns_perm hx).mem_iff, columnNodes, List.mem_filter, NodeType.hasColumn_iff]

/-- Columns stand from left to right. -/
private theorem columns_pairwise_le (hx : ∀ n ∈ d.nodes, n.position.x.isNaN = false) :
    d.columns.Pairwise fun a b => a.position.x ≤ b.position.x := by
  have hsorted : d.columns.Pairwise fun a b =>
      Decimal.orderKey a.position.x ≤ Decimal.orderKey b.position.x := by
    rw [columns_eq_mergeSort hx]
    exact pairwise_mergeSort_key
  refine hsorted.imp_of_mem fun ha hb hle => ?_
  have hxa := hx _ ((mem_columns hx).mp ha).1
  have hxb := hx _ ((mem_columns hx).mp hb).1
  exact (Decimal.orderKey_le_iff hxa hxb).mp hle

/-- Columns with their keys come out of one stable sort by key. -/
private theorem map_keyed_columns (hx : ∀ n ∈ d.nodes, n.position.x.isNaN = false) :
    d.columns.map Node.keyed = (d.columnNodes.map Node.keyed).mergeSort fun a b => a.2 ≤ b.2 := by
  rw [columns_eq_mergeSort hx]
  exact List.map_mergeSort fun _ _ _ _ => rfl

/-- Columns at one coordinate are in document order. -/
private theorem filter_columns (hx : ∀ n ∈ d.nodes, n.position.x.isNaN = false) (x : Float) :
    d.columns.filter (·.position.x == x) = d.columnNodes.filter (·.position.x == x) := by
  rw [columns_eq_mergeSort hx]
  refine filter_mergeSort_key fun a ha b hb hax hbx => ?_
  have hxa := hx a (List.mem_of_mem_filter ha)
  have hxb := hx b (List.mem_of_mem_filter hb)
  -- What equals a coordinate is a number, so its key is the one that both coordinates have.
  have hxx := Decimal.isNaN_eq_false_of_beq hax
  rw [(Decimal.orderKey_eq_iff hxa hxx).mpr hax, (Decimal.orderKey_eq_iff hxb hxx).mpr hbx]

/-! ## Cases in columns -/

/-- The board shows each column with the cases at it. -/
theorem board_eq : d.board cases = d.columns.map fun n => ⟨n, casesAt cases n.id⟩ := by
  simp [board, board?_eq]

/-- Each entry of the board is a column with the cases at its step. -/
theorem mem_board {c : Column} :
    c ∈ d.board cases ↔ ∃ n ∈ d.columns, c = ⟨n, casesAt cases n.id⟩ := by
  simp [board_eq, eq_comm]

/-- The steps on the board are the columns, in the same order. -/
theorem map_node_board : (d.board cases).map (·.node) = d.columns := by
  simp [board_eq, Function.comp_def]

/-- No case sits at two columns. -/
private theorem board_pairwise_disjoint (hd : d.Sound)
    (hx : ∀ n ∈ d.nodes, n.position.x.isNaN = false) :
    (d.board cases).Pairwise fun a b => a.cases.Disjoint b.cases := by
  have hids : (d.columnNodes.map (·.id)).Nodup :=
    hd.nodeIds_nodup.sublist (List.filter_sublist.map _)
  have hne : d.columns.Pairwise (·.id ≠ ·.id) :=
    List.pairwise_map.mp (((columns_perm hx).map _).nodup_iff.mpr hids)
  rw [board_eq, List.pairwise_map]
  refine hne.imp fun hab k ha hb => hab ?_
  exact Option.some.inj ((mem_casesAt.mp ha).2.symm.trans (mem_casesAt.mp hb).2)

/-- The board is made, and shows the starts, tasks and ends from left to right and the cases at each
of them. -/
theorem board_faithful (hd : d.Accepted) (hx : ∀ n ∈ d.nodes, n.position.x.isNaN = false)
    (cases : List Case) :
    d.board? cases = some (d.board cases) ∧ d.Shown cases (d.board cases) := by
  refine ⟨(Option.some_get _).symm, ?_⟩
  exact {
    nodes_perm := by
      rw [map_node_board, ← columnNodes_eq]
      exact columns_perm hx
    left_to_right := by
      rw [board_eq, List.pairwise_map]
      exact columns_pairwise_le hx
    document_order := fun x => by
      rw [map_node_board, filter_columns hx, columnNodes_eq, List.filter_filter]
      exact List.filter_congr fun n _ => by simp [Bool.and_comm]
    -- A column is made of its node, so what it shows can be read off the node.
    cases_eq := by
      intro c hc
      obtain ⟨n, -, rfl⟩ := mem_board.mp hc
      rfl
    at_step := by
      intro k hk n hn htype hstep
      exact ⟨_, mem_board.mpr ⟨n, (mem_columns hx).mpr ⟨hn, htype⟩, rfl⟩, rfl,
        mem_casesAt.mpr ⟨hk, hstep⟩⟩
    apart := board_pairwise_disjoint hd.sound hx
    -- A case that is shown sits at a node of a shown kind, so a case that does not is in no column.
    elsewhere := by
      intro k hk c hc hmem
      obtain ⟨n, hn, rfl⟩ := mem_board.mp hc
      obtain ⟨hn, htype⟩ := (mem_columns hx).mp hn
      exact hk n hn htype (mem_casesAt.mp hmem).2 }

end Document

/-! ## A sample board -/

namespace Sample

/-- A workflow drawn from right to left, with a start and a task at the two zeros. -/
def scattered : Document where
  nodes :=
    [{ id := "end", type := .finish, label := "Done", position := { x := 300 } },
      { id := "draft", type := .task, label := "Draft", position := { x := 0 } },
      { id := "split", type := .gateway, label := "Any?", position := { x := 100 } },
      { id := "start", type := .start, label := "Request", position := { x := -0 } },
      { id := "review", type := .task, label := "Review", position := { x := 200 } }]

/-- Cases at steps with and without a column, at an unknown step, and at none; one is listed
twice. -/
def scatteredCases : List Case :=
  [("c1", some "draft"), ("c2", some "split"), ("c3", none), ("c4", some "review"),
    ("c5", some "gone"), ("c6", some "draft"), ("c1", some "draft")].map fun (id, step) =>
      { id, appId := "app", title := id, currentStep := step, createdAt := default }

end Sample

/-- Of the scattered workflow the task comes before the start, as in the document, and the case that
is listed twice is twice in its column. -/
theorem Document.board_faithful_sample :
    (Sample.scattered.board Sample.scatteredCases).map
        (fun c => (c.node.id, c.cases.map (·.id))) =
      [("draft", ["c1", "c6", "c1"]), ("start", []), ("review", ["c4"]), ("end", [])] ∧
    Sample.scattered.Shown Sample.scatteredCases
      (Sample.scattered.board Sample.scatteredCases) := by
  have hx : ∀ n ∈ Sample.scattered.nodes, n.position.x.isNaN = false := by decide +kernel
  -- The abscissas are floating-point numbers, so the columns are sorted by the bits of them.
  have hkeyed : Sample.scattered.columnNodes.map Node.keyed = [("end", 4643985272004935680),
      ("draft", 0), ("start", 0), ("review", 4641240890982006784)] := by decide +kernel
  have hsorted : Sample.scattered.columns.map Node.keyed = [("draft", 0), ("start", 0),
      ("review", 4641240890982006784), ("end", 4643985272004935680)] := by
    rw [map_keyed_columns hx, hkeyed]
    cbv
  -- Which cases stand in a column is a matter of its node alone, so the sorted keys settle it.
  refine ⟨?_, (board_faithful ⟨Sample.scattered.toValue, rfl⟩ hx _).2⟩
  calc (Sample.scattered.board Sample.scatteredCases).map
        (fun c => (c.node.id, c.cases.map (·.id)))
    _ = (Sample.scattered.columns.map Node.keyed).map
        (fun column => (column.1, (casesAt Sample.scatteredCases column.1).map (·.id))) := by
        rw [board_eq, List.map_map, List.map_map]
        rfl
    _ = _ := by
        rw [hsorted]
        decide

end CaseFlow
