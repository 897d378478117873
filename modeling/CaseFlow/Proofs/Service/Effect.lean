import CaseFlow.Proofs.Calendar.Written
import CaseFlow.Proofs.Store.Rows
import CaseFlow.Service.Basic

/-!
# What services do to the world

Most parts of a service only look: they draw ids, read the clock and write notes, but leave the
store as it is (`Service.Reads`). A service that commits does nothing that can fail once it has, so
where it fails the store is as it was. `Service.Yields` says so of a service at a world, together
with what holds of its result and of the world after it.

The rules of this file build both facts along the parts of a service: the lemma about a service is
put together from those about the services that it calls, and no service is unfolded twice.
-/

namespace CaseFlow

open Service

variable {α β : Type} {w w₁ w₂ : World} {m : Service α} {f : α → Service β}

/-! ## Performing the parts -/

namespace Service

@[simp]
theorem perform_pure (a : α) (w : World) : (pure a : Service α).perform w = (.ok a, w) := rfl

@[simp]
theorem perform_refuse (e : Error) (w : World) :
    (refuse e : Service α).perform w = (.error (.refused e), w) := rfl

@[simp]
theorem perform_settle (x : Except Failure α) (w : World) : (settle x).perform w = (x, w) := by
  cases x <;> rfl

@[simp]
theorem perform_get (w : World) : (get : Service World).perform w = (.ok w, w) := rfl

@[simp]
theorem perform_write (notes : List Note) (w : World) :
    (write notes).perform w = (.ok (), { w with notes := w.notes ++ notes }) := rfl

@[simp]
theorem perform_note (l : Logger) (level : Level) (message : String) (w : World) :
    (note l level message).perform w
      = (.ok (), { w with notes := w.notes ++ [l.note level message] }) := rfl

@[simp]
theorem perform_draw (f : IdSource → α × IdSource) (w : World) :
    (draw f).perform w = (.ok (f w.ids).1, { w with ids := (f w.ids).2 }) := rfl

@[simp]
theorem perform_readClock (w : World) :
    readClock.perform w = (.ok w.clock.now, { w with clock := w.clock.tick }) := rfl

@[simp]
theorem perform_commit (change : Store → Store) (w : World) :
    (commit change).perform w = (.ok (), { w with store := change w.store }) := rfl

/-- The outcome of a service is a result. -/
@[simp]
theorem perform_attempt (m : Service α) (w : World) :
    (attempt m).perform w = (.ok (m.perform w).1, (m.perform w).2) := rfl

/-- A sequence goes on from the world that its first part leaves, unless that fails. -/
theorem perform_bind (m : Service α) (f : α → Service β) (w : World) :
    (m >>= f).perform w =
      match m.perform w with
      | (.ok a, w') => (f a).perform w'
      | (.error e, w') => (.error e, w') := by
  have h : (m >>= f).perform w =
      (fun p : Except Failure α × World => (ExceptT.bindCont f p.1).run p.2) (m.perform w) := rfl
  rw [h]
  rcases m.perform w with ⟨x | x, w'⟩ <;> rfl

/-- After a success the rest is performed in the world that it left. -/
theorem perform_bind_of_ok {a : α} (h : m.perform w = (.ok a, w₁)) :
    (m >>= f).perform w = (f a).perform w₁ := by
  rw [perform_bind, h]

/-- After a failure nothing more is performed. -/
theorem perform_bind_of_error {e : Failure} (h : m.perform w = (.error e, w₁)) :
    (m >>= f).perform w = (.error e, w₁) := by
  rw [perform_bind, h]

/-- A sequence succeeds exactly if each part does, in the world that the one before left. -/
theorem perform_bind_eq_ok {b : β} :
    (m >>= f).perform w = (.ok b, w₂) ↔
      ∃ a w₁, m.perform w = (.ok a, w₁) ∧ (f a).perform w₁ = (.ok b, w₂) := by
  rw [perform_bind]
  rcases m.perform w with ⟨x | a, w₁⟩ <;> simp

theorem fst_perform_eq_ok {a : α} :
    (m.perform w).1 = .ok a ↔ ∃ w', m.perform w = (.ok a, w') := by
  rcases m.perform w with ⟨x, w'⟩
  simp

@[simp]
theorem perform_map (g : α → β) (m : Service α) (w : World) :
    (g <$> m).perform w = ((m.perform w).1.map g, (m.perform w).2) := by
  have h : (g <$> m).perform w = (m >>= fun a => pure (g a)).perform w := rfl
  rw [h, perform_bind]
  rcases m.perform w with ⟨x | x, w'⟩ <;> rfl

/-- A recast result comes from one of the service itself. -/
theorem perform_map_eq_ok {g : α → β} {b : β} :
    (g <$> m).perform w = (.ok b, w₁) ↔ ∃ a, m.perform w = (.ok a, w₁) ∧ g a = b := by
  rw [perform_map]
  rcases m.perform w with ⟨x | a, w'⟩
  · simp [Except.map]
  · simp [Except.map, and_comm]

/-- The store answers a query exactly when it is ready, and the query changes nothing then. -/
theorem perform_query_eq_ok {a : StoreAction} {s : Store} :
    (query a).perform w = (.ok s, w₁) ↔ w.store.condition = .ready ∧ s = w.store ∧ w₁ = w := by
  have h : (query a).perform w =
      (if w.store.condition == .ready then pure w.store else storageFails a : Service Store).perform
        w := rfl
  rw [h]
  by_cases hready : w.store.condition = .ready
  · simp [hready, eq_comm]
  · simp [hready, storageFails, perform_bind]

/-- A store that is not ready refuses a query. -/
theorem perform_query_of_ne {a : StoreAction} (h : w.store.condition ≠ .ready) :
    ∃ w₁, (query a).perform w = (.error (.refused (.storage a)), w₁) := by
  have hquery : (query a).perform w =
      (if w.store.condition == .ready then pure w.store else storageFails a : Service Store).perform
        w := rfl
  rw [hquery, if_neg (by simpa using h)]
  exact ⟨_, rfl⟩

end Service

/-! ## Worlds that become others -/

/-- A clock on universal time that shows times of day. -/
def Clock.Universal (c : Clock) : Prop := c.now.Universal

/-- A clock in universal time stays in universal time. -/
theorem Clock.Universal.tick {c : Clock} (h : c.Universal) : c.tick.Universal :=
  h.plusSeconds c.step

/-- World `w'` is what becomes of world `w` when ids are drawn, the clock is read and notes are
written. -/
structure World.Becomes (w w' : World) : Prop where
  /-- The store stays. -/
  store_eq : w'.store = w.store
  /-- A clock on universal time stays on it. -/
  universal : w.clock.Universal → w'.clock.Universal

namespace World.Becomes

theorem refl (w : World) : w.Becomes w := ⟨rfl, id⟩

theorem trans (h : w.Becomes w₁) (h₁ : w₁.Becomes w₂) : w.Becomes w₂ :=
  ⟨h₁.store_eq.trans h.store_eq, h₁.universal ∘ h.universal⟩

end World.Becomes

/-- World `w'` is what becomes of world `w` when users and apps are changed besides. -/
structure World.SparesCases (w w' : World) : Prop where
  /-- The cases stay. -/
  cases_eq : w'.store.cases = w.store.cases
  /-- The store stays as usable as it was. -/
  condition_eq : w'.store.condition = w.store.condition
  /-- A clock on universal time stays on it. -/
  universal : w.clock.Universal → w'.clock.Universal

/-- World `w'` is what becomes of world `w` when users are changed besides. -/
structure World.ChangesUsers (w w' : World) : Prop where
  /-- The apps stay. -/
  apps_eq : w'.store.apps = w.store.apps
  /-- So do the cases. -/
  sparesCases : w.SparesCases w'

/-- World `w'` is what becomes of world `w` when apps are changed besides, each under its id. -/
structure World.ChangesApps (w w' : World) : Prop where
  /-- The users stay. -/
  users_eq : w'.store.users = w.store.users
  /-- So do the ids of the apps, -/
  appIds_eq : w'.store.appIds = w.store.appIds
  /-- and the cases. -/
  sparesCases : w.SparesCases w'

/-- A relation to the worlds that services lead to: it holds of a world that services only look at,
and its steps make up one. -/
structure World.Sequential (R : World → World → Prop) : Prop where
  becomes {w w' : World} (h : w.Becomes w') : R w w'
  trans {w w₁ w₂ : World} (h : R w w₁) (h₁ : R w₁ w₂) : R w w₂

/-- A relation that holds as long as a property of the store lasts. -/
theorem World.Sequential.within {R : World → World → Prop} (hR : World.Sequential R)
    {P : World → Prop} (hP : ∀ {w w' : World}, w.Becomes w' → P w → P w') :
    World.Sequential fun w w' => P w → P w' ∧ R w w' where
  becomes h hw := ⟨hP h hw, hR.becomes h⟩
  trans h h₁ hw := by
    obtain ⟨hw₁, hfirst⟩ := h hw
    obtain ⟨hw₂, hsecond⟩ := h₁ hw₁
    exact ⟨hw₂, hR.trans hfirst hsecond⟩

theorem World.sequential_sparesCases : World.Sequential World.SparesCases where
  becomes h := ⟨congrArg Store.cases h.store_eq, congrArg Store.condition h.store_eq, h.universal⟩
  trans h h₁ := ⟨h₁.cases_eq.trans h.cases_eq, h₁.condition_eq.trans h.condition_eq,
    h₁.universal ∘ h.universal⟩

theorem World.SparesCases.trans (h : w.SparesCases w₁) (h₁ : w₁.SparesCases w₂) :
    w.SparesCases w₂ :=
  sequential_sparesCases.trans h h₁

theorem World.Becomes.sparesCases (h : w.Becomes w₁) : w.SparesCases w₁ :=
  sequential_sparesCases.becomes h

theorem World.Becomes.changesApps (h : w.Becomes w₁) (h₁ : w₁.ChangesApps w₂) : w.ChangesApps w₂ :=
  ⟨h₁.users_eq.trans (congrArg Store.users h.store_eq),
    h₁.appIds_eq.trans (congrArg Store.appIds h.store_eq), h.sparesCases.trans h₁.sparesCases⟩

namespace Service

/-! ## Services that only look -/

/-- From every world a service leads to one that `R` relates to it, whether it gives a result or
fails. -/
def Leads (m : Service α) (R : World → World → Prop) : Prop := ∀ w, R w (m.perform w).2

/-- From a world a sequence leads where its first part does, if the second leads on from there. -/
theorem leads_bind {R : World → World → Prop} (hR : World.Sequential R)
    (hm : R w (m.perform w).2) (hf : ∀ a, (f a).Leads R) : R w ((m >>= f).perform w).2 := by
  rw [perform_bind]
  rcases hmw : m.perform w with ⟨x | a, w₁⟩ <;> rw [hmw] at hm
  · exact hm
  · exact hR.trans hm (hf a w₁)

/-- A sequence leads where both of its parts do, if steps of the relation make up one. -/
theorem Leads.bind {R : World → World → Prop} (hR : World.Sequential R) (hm : m.Leads R)
    (hf : ∀ a, (f a).Leads R) : (m >>= f).Leads R :=
  fun w => leads_bind hR (hm w) hf

/-- A service leads where it does with its result recast. -/
theorem Leads.map {R : World → World → Prop} (h : m.Leads R) (g : α → β) : (g <$> m).Leads R := by
  intro w
  rw [perform_map]
  exact h w

/-- A service leads where it does with its outcome as a result. -/
theorem Leads.attempt {R : World → World → Prop} (h : m.Leads R) : (attempt m).Leads R :=
  fun w => h w

/-- A service that leaves the store as it is, whether it gives a result or fails. -/
def Reads (m : Service α) : Prop := m.Leads World.Becomes

namespace Reads

theorem pure (a : α) : Reads (Pure.pure a : Service α) := fun w => .refl w

theorem throw (f : Failure) : Reads (MonadExcept.throw f : Service α) := fun w => .refl w

theorem refuse (e : Error) : Reads (refuse e : Service α) := fun w => .refl w

/-- What follows a refusal is not done. -/
theorem refuse_bind (e : Error) : Reads (Service.refuse e >>= f) := fun w => .refl w

theorem settle (x : Except Failure α) : Reads (settle x) := fun w => by
  rw [perform_settle]
  exact .refl w

theorem write (notes : List Note) : Reads (write notes) := fun _ => ⟨rfl, id⟩

theorem note (l : Logger) (level : Level) (message : String) : Reads (note l level message) :=
  write _

theorem draw (f : IdSource → α × IdSource) : Reads (draw f) := fun _ => ⟨rfl, id⟩

theorem readClock : Reads readClock := fun _ => ⟨rfl, Clock.Universal.tick⟩

/-- A sequence of services that only look only looks. -/
theorem bind (hm : m.Reads) (hf : ∀ a, (f a).Reads) : (m >>= f).Reads :=
  Leads.bind ⟨id, .trans⟩ hm hf

/-- A service that only looks leads wherever such services do. -/
theorem leads {R : World → World → Prop} (hm : m.Reads) (hR : World.Sequential R) : m.Leads R :=
  fun w => hR.becomes (hm w)

theorem attempt (hm : m.Reads) : (attempt m).Reads := fun w => hm w

theorem storageFails (a : StoreAction) : (storageFails a : Service α).Reads :=
  bind (note _ _ _) fun _ => refuse _

theorem query (a : StoreAction) : (query a).Reads := by
  intro w
  have h : ((Service.query a).perform w) = (if w.store.condition == .ready then Pure.pure w.store
      else Service.storageFails a : Service Store).perform w := rfl
  rw [h]
  split
  · exact .refl w
  · exact storageFails a w

end Reads

/-! ## Services that commit -/

/-- From world `w` a service gives a result, of which `Q` holds with the world after it, or fails
and leaves the store as it was. -/
structure Yields (m : Service α) (w : World) (Q : α → World → Prop) : Prop where
  /-- Of a result `Q` holds with the world after it. -/
  of_ok {a : α} {w₁ : World} (h : m.perform w = (.ok a, w₁)) : Q a w₁
  /-- A failure leaves the store as it was. -/
  of_error {e : Failure} {w₁ : World} (h : m.perform w = (.error e, w₁)) : w.Becomes w₁

section Yields

variable {Q Q₁ : α → World → Prop} {R : β → World → Prop} {a : α} {e : Failure}

/-- What is known to succeed need only be looked at in its result. -/
theorem yields_of_ok (hm : m.perform w = (.ok a, w₁)) (h : Q a w₁) : m.Yields w Q where
  of_ok hm' := by
    rw [hm, Prod.mk.injEq, Except.ok.injEq] at hm'
    obtain ⟨rfl, rfl⟩ := hm'
    exact h
  of_error hm' := by
    rw [hm, Prod.mk.injEq] at hm'
    cases hm'.1

/-- What is known to fail need only leave the store as it was. -/
theorem yields_of_error (hm : m.perform w = (.error e, w₁)) (h : w.Becomes w₁) :
    m.Yields w Q where
  of_ok hm' := by
    rw [hm, Prod.mk.injEq] at hm'
    cases hm'.1
  of_error hm' := by
    rw [hm, Prod.mk.injEq] at hm'
    exact hm'.2 ▸ h

theorem yields_refuse (e : Error) : (refuse e : Service α).Yields w Q :=
  yields_of_error (perform_refuse e w) (.refl w)

/-- What follows a refusal is not done. -/
theorem yields_refuse_bind (e : Error) : (refuse e >>= f).Yields w R :=
  yields_of_error (perform_bind_of_error (perform_refuse e w)) (.refl w)

/-- What follows a refusal of the store is not done. -/
theorem yields_storageFails_bind (action : StoreAction) :
    (storageFails action >>= f).Yields w R :=
  yields_of_error (e := .refused (.storage action)) rfl ⟨rfl, id⟩

/-- A weaker fact about the outcome. -/
theorem Yields.mono (h : m.Yields w Q) (hQ : ∀ a w₁, Q a w₁ → Q₁ a w₁) : m.Yields w Q₁ :=
  ⟨fun hm => hQ _ _ (h.of_ok hm), h.of_error⟩

/-- What a service yields after its result is recast. -/
theorem Yields.map {g : α → β} (h : m.Yields w Q) (hR : ∀ a w', Q a w' → R (g a) w') :
    (g <$> m).Yields w R := by
  have hmap := perform_map g m w
  rcases hm : m.perform w with ⟨f | a, w₁⟩ <;> rw [hm] at hmap
  · exact yields_of_error hmap (h.of_error hm)
  · exact yields_of_ok hmap (hR a w₁ (h.of_ok hm))

/-- A service that yields worlds in a relation from one leads to such a world from there. -/
theorem Yields.leads_from {S : World → World → Prop} (hS : World.Sequential S)
    (h : m.Yields w fun _ w' => S w w') : S w (m.perform w).2 := by
  rcases hm : m.perform w with ⟨f | a, w₁⟩
  · exact hS.becomes (h.of_error hm)
  · exact h.of_ok hm

/-- A service that yields worlds in a relation leads to them. -/
theorem Leads.of_yields {S : World → World → Prop} (hS : World.Sequential S)
    (h : ∀ w, m.Yields w fun _ w' => S w w') : m.Leads S :=
  fun w => (h w).leads_from hS

/-- What follows a service that yields worlds in a relation leads on from them. -/
theorem Yields.bind_leads {S : World → World → Prop} (hS : World.Sequential S) (hm : m.Yields w Q)
    (hQ : ∀ a w', Q a w' → S w w') (hf : ∀ a, (f a).Leads S) : S w ((m >>= f).perform w).2 :=
  leads_bind hS ((hm.mono hQ).leads_from hS) hf

/-- What follows a service that only looks starts from the same store. -/
theorem Reads.bind_yields (hm : m.Reads)
    (hf : ∀ a w₁, m.perform w = (.ok a, w₁) → w.Becomes w₁ → (f a).Yields w₁ R) :
    (m >>= f).Yields w R := by
  have hfirst := hm w
  rcases hmw : m.perform w with ⟨x | a, w₁⟩
  · rw [hmw] at hfirst
    exact yields_of_error (perform_bind_of_error hmw) hfirst
  · -- The store that the second part leaves alone when it fails is still the first one.
    rw [hmw] at hfirst
    have hrest := hf a w₁ hmw hfirst
    rcases hfw : (f a).perform w₁ with ⟨y | b, w₂⟩
    · exact yields_of_error ((perform_bind_of_ok hmw).trans hfw)
        (hfirst.trans (hrest.of_error hfw))
    · exact yields_of_ok ((perform_bind_of_ok hmw).trans hfw) (hrest.of_ok hfw)

/-- What follows a decision is done where it succeeded. -/
theorem yields_settle_bind {x : Except Failure α} (hf : ∀ a, x = .ok a → (f a).Yields w R) :
    (settle x >>= f).Yields w R := by
  refine (Reads.settle x).bind_yields fun a w₁ hx _ => ?_
  rw [perform_settle, Prod.mk.injEq] at hx
  exact hx.2 ▸ hf a hx.1

/-- What follows a query starts from the store that the query gave. -/
theorem yields_query_bind {action : StoreAction} {f : Store → Service β}
    (hf : w.store.condition = .ready → (f w.store).Yields w R) :
    (query action >>= f).Yields w R := by
  refine (Reads.query action).bind_yields fun s w₁ hs _ => ?_
  obtain ⟨hready, rfl, rfl⟩ := perform_query_eq_ok.mp hs
  exact hf hready

/-- After a service that commits nothing may follow that can fail. -/
theorem Yields.bind_sure (hm : m.Yields w Q)
    (hf : ∀ a w₁, Q a w₁ → ∃ b w₂, (f a).perform w₁ = (.ok b, w₂) ∧ R b w₂) :
    (m >>= f).Yields w R := by
  rcases hmw : m.perform w with ⟨x | a, w₁⟩
  · exact yields_of_error (perform_bind_of_error hmw) (hm.of_error hmw)
  · obtain ⟨b, w₂, hb, hR⟩ := hf a w₁ (hm.of_ok hmw)
    exact yields_of_ok ((perform_bind_of_ok hmw).trans hb) hR

end Yields

end Service

end CaseFlow
