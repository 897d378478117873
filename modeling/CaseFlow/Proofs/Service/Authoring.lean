import CaseFlow.Proofs.Service.Lasting

/-!
# Authored installations

The workflows of an installation come into it in three ways: an app is created with one, one is
taken over as a whole, or an editor saves one. The first two are checked, and an editor starts from
what is stored; so no stored workflow has an edge without its nodes, and no editor holds one
(`World.Authored.linked`), whatever else happens and whichever operations fail.

A workflow is stored as it is given and read again later, so the invariant speaks of stored rows;
`Document.Linked.of_read` takes it over to what is read from them.
-/

namespace CaseFlow

variable {w : World} {id : Option String} {d : Document}

/-! ## Links last -/

/-- What is kept of a document has the same ids of nodes. -/
@[simp]
theorem Document.nodeIds_kept : d.kept.nodeIds = d.nodeIds := by
  rw [nodeIds, kept, List.map_map]
  rfl

/-- That every edge has its nodes is not lost. -/
theorem Document.lasting_linked : Lasting Linked where
  kept hd e he := by
    rw [nodeIds_kept]
    exact hd e he
  of_read := Linked.of_read
  revised _ hd h := h.1.linked hd

/-- A world that operations lead to from an empty store, with the editors that were opened on the
way, each for an app. Every editor may be given commands at any time, and holds what it held after
the last of them. Between two steps the source of ids, the clock, the rules chosen and the log may
become anything. -/
inductive World.Authored : World → List (Option String × Editor) → Prop where
  /-- Nothing is stored. -/
  | empty {w : World} (h : w.store = {}) : Authored w []
  /-- An operation is performed, whether it fails or not. -/
  | after {w w₁ : World} {held : List (Option String × Editor)} (h : Authored w held)
      (hstore : w₁.store = w.store) (op : Operation) (hop : op.checksWorkflows = true) :
      Authored (w₁.after op) held
  /-- An editor is opened. -/
  | opened {w w₁ w₂ : World} {held : List (Option String × Editor)} {id : Option String}
      {ed : Editor} (h : Authored w held) (hstore : w₁.store = w.store)
      (hopen : (Apps.editorFor id).perform w₁ = (.ok ed, w₂)) : Authored w₂ ((id, ed) :: held)
  /-- An editor is given a command, which may fail. -/
  | commanded {w w₁ w₂ : World} {held : List (Option String × Editor)} {id : Option String}
      {ed ed' : Editor} {c : Command} {r : Except Failure (Document × Made)} (h : Authored w held)
      (hstore : w₁.store = w.store) (hheld : (id, ed) ∈ held)
      (hcommand : (Apps.command id ed c).perform w₁ = (.ok (r, ed'), w₂)) :
      Authored w₂ ((id, ed') :: held)

/-- In every authored world no stored workflow, and no document of an editor, has an edge without
its nodes. -/
theorem World.Authored.linked {held : List (Option String × Editor)} (h : w.Authored held) :
    w.Sustains Document.Linked held := by
  have hlasting := Document.lasting_linked
  induction h with
  | empty h => exact .empty _ h
  | after _ hstore op hop ih => exact ih.after hlasting (fun h => h) hop (fun _ _ h => h) hstore
  | opened _ hstore hopen ih => exact ih.opened hlasting hstore hopen
  | commanded _ hstore hheld hcommand ih => exact ih.commanded hlasting hstore hheld hcommand

end CaseFlow
