import CaseFlow.Proofs.Service.Operation

/-!
# Who leaves the users alone

An operation makes five kinds of writes, and only one of them is a write to the users. The services
on apps and on cases make the other four only, so they leave the users as they are, whether they
succeed or not (`Operation.sparesUsers`). This is an instance of `Operation.leads_of_writes`:
`World.SparesUsers` says what is left alone, and each kind of write is looked at once.

What the four services of the directory do to the users is told by `Directory.invite_yields`,
`Directory.update_yields`, `Directory.remove_yields` and `Directory.seed_yields`.
-/

namespace CaseFlow

open Service

variable {w w' : World}

/-- World `w'` has the users of world `w`, and its store is as usable. -/
structure World.SparesUsers (w w' : World) : Prop where
  /-- The users stay. -/
  users_eq : w'.store.users = w.store.users
  /-- The store stays as usable as it was. -/
  condition_eq : w'.store.condition = w.store.condition

namespace World

theorem sequential_sparesUsers : Sequential SparesUsers where
  becomes h := ⟨congrArg Store.users h.store_eq, congrArg Store.condition h.store_eq⟩
  trans h h₁ := ⟨h₁.users_eq.trans h.users_eq, h₁.condition_eq.trans h.condition_eq⟩

theorem Keeps.sparesUsers {c : Case} (h : w.Keeps c w') : w.SparesUsers w' where
  users_eq := by
    rw [h.store_eq]
    unfold Store.keepCase
    split <;> rfl
  condition_eq := h.changes.condition_eq

end World

/-- An operation on apps or cases spares the users. -/
theorem Operation.sparesUsers (op : Operation) (hop : op.onUsers = false) :
    op.service.Leads World.SparesUsers := by
  refine leads_of_writes World.sequential_sparesUsers fun {w w'} h => ?_
  cases h with
  | enrols husers => rw [hop] at husers; cases husers
  | addApp _ hstore => exact ⟨by rw [hstore]; rfl, by rw [hstore]; rfl⟩
  | replaceApp _ _ hstore => exact ⟨by rw [hstore]; rfl, by rw [hstore]; rfl⟩
  | removeApp _ hstore => exact ⟨by rw [hstore]; rfl, by rw [hstore]; rfl⟩
  | keeps _ hkeeps => exact hkeeps.sparesUsers

end CaseFlow
