import CaseFlow.Proofs.Service.Users
import CaseFlow.Proofs.Text.Lowercase
import Mathlib.Data.List.Pairwise

/-!
# Addresses of users

An invitation is refused where the store finds the new address, lowered by the Unicode tables, among
the stored ones, of which it lowers the ASCII letters. So a stored address is found again whatever
the case in which it is given, unless it has a capital letter outside ASCII: that one is found by no
invitation at all. Seeding looks at ids only, and adds a default user whose address is taken.

These are the only two ways in which two users come to have addresses that differ in case at most
(`World.Staffed.addresses_apart`).
-/

namespace CaseFlow

open CaseFlow.Text Service

variable {w w' w₁ : World} {u v : User}

/-! ## Users apart -/

/-- A user has the id and the address of a default one. -/
def User.IsDefault (u : User) : Prop := ∃ s ∈ Seed.users, s.id = u.id ∧ s.email = u.email

instance (u : User) : Decidable u.IsDefault := inferInstanceAs (Decidable (∃ _ ∈ _, _))

/-- The addresses of two users, of which the second came later, differ in more than case, unless the
first cannot be found or the second is a default one. -/
def User.Apart (u v : User) : Prop :=
  lower u.email = lower v.email → hasForeignCapital u.email = true ∨ v.IsDefault

/-- The users of a store have ids of their own, and are apart in the order in which they came. -/
def Store.UsersApart (s : Store) : Prop := s.users.Pairwise fun u v => u.id ≠ v.id ∧ u.Apart v

/-- An address that the store finds nowhere is apart from all that are stored. -/
private theorem User.apart_of_not_holdsEmail (h : Directory.holdsEmail v.email u = false) :
    u.Apart v := by
  intro hsame
  refine .inl ?_
  -- The store finds every address that is the same in lower case and has no such letter.
  by_contra hplain
  rw [Bool.not_eq_true] at hplain
  rw [Directory.holdsEmail, beq_eq_false_iff_ne] at h
  exact h (lowerAscii_eq_lower_iff.mpr ⟨hsame, hplain⟩)

namespace Store

variable {s : Store}

/-- A user who is not found by an id does not have it. -/
theorem id_ne_of_user? {id : String} (h : s.user? id = none) (hu : u ∈ s.users) : u.id ≠ id := by
  simpa using List.find?_eq_none.mp h u hu

/-- Users that stand apart are told apart by their ids. -/
theorem UsersApart.eq_of_id (h : s.UsersApart) (hu : u ∈ s.users) (hv : v ∈ s.users)
    (hid : u.id = v.id) : u = v := by
  have hids : (s.users.map (·.id)).Nodup := List.pairwise_map.mpr (h.imp And.left)
  exact List.inj_on_of_nodup_map hids hu hv hid

/-- Users who join are to be apart from all who are there, and from each other. -/
theorem UsersApart.append {us : List User} (h : s.UsersApart)
    (hus : us.Pairwise fun u v => u.id ≠ v.id ∧ u.Apart v)
    (hjoin : ∀ u ∈ s.users, ∀ v ∈ us, u.id ≠ v.id ∧ u.Apart v) :
    ({ s with users := s.users ++ us } : Store).UsersApart :=
  List.pairwise_append.mpr ⟨h, hus, hjoin⟩

/-- Changing a user otherwise than by id and address leaves the users apart. -/
theorem UsersApart.replaceUser (h : s.UsersApart) (hv : v ∈ s.users) (hid : u.id = v.id)
    (hemail : u.email = v.email) : (s.replaceUser u).UsersApart := by
  let f (x : User) : User := if x.id == u.id then u else x
  have hsame : ∀ x ∈ s.users, (f x).id = x.id ∧ (f x).email = x.email := by
    intro x hx
    by_cases hxu : x.id = u.id
    · -- The only user with the id is the one who is changed.
      obtain rfl := h.eq_of_id hx hv (hxu.trans hid)
      simp [f, hid, hemail]
    · simp [f, hxu]
  refine List.pairwise_map.mpr (h.imp_of_mem fun {x y} hx hy hxy => ?_)
  obtain ⟨hxid, hxemail⟩ := hsame x hx
  obtain ⟨hyid, hyemail⟩ := hsame y hy
  unfold User.Apart User.IsDefault at hxy ⊢
  show (f x).id ≠ (f y).id ∧ (lower (f x).email = lower (f y).email →
    hasForeignCapital (f x).email = true ∨
      ∃ s ∈ Seed.users, s.id = (f y).id ∧ s.email = (f y).email)
  rw [hxid, hxemail, hyid, hyemail]
  exact hxy

/-- Users stand apart after one of them is removed. -/
theorem UsersApart.removeUser (h : s.UsersApart) (id : String) : (s.removeUser id).UsersApart :=
  h.filter _

end Store

namespace World

/-- The users of world `w'` are apart if those of world `w` are, and its store is as usable. -/
structure KeepsApart (w w' : World) : Prop where
  /-- Users who are apart stay so. -/
  apart : w.store.UsersApart → w'.store.UsersApart
  /-- The store stays as usable as it was. -/
  condition_eq : w'.store.condition = w.store.condition

theorem SparesUsers.keepsApart (h : w.SparesUsers w') : w.KeepsApart w' where
  apart hw := by rwa [Store.UsersApart, h.users_eq]
  condition_eq := h.condition_eq

theorem sequential_keepsApart : Sequential KeepsApart where
  becomes h := (sequential_sparesUsers.becomes h).keepsApart
  trans h h₁ := ⟨h₁.apart ∘ h.apart, h₁.condition_eq.trans h.condition_eq⟩

/-- The users who are there afterwards have to be apart. -/
theorem Enrols.keepsApart {us : List User} (h : w.Enrols us w')
    (hus : w.store.UsersApart → ({ w.store with users := us } : Store).UsersApart) :
    w.KeepsApart w' where
  apart hw := by
    rw [h.store_eq]
    exact hus hw
  condition_eq := by rw [h.store_eq]

end World

/-! ## What services do to them -/

namespace Directory

/-- The default users are apart from everybody who is there without their ids. -/
private theorem seed_keepsApart : (seed Seed.users).Leads World.KeepsApart := by
  refine .of_yields World.sequential_keepsApart fun w => (seed_yields _).mono ?_
  refine fun _ w' h => h.keepsApart fun hw => hw.append ?_ fun u hu v hv => ?_
  · -- Whoever is seeded is a default user, so only the ids have to differ.
    have hdefault : Seed.users.Pairwise fun u v => u.id ≠ v.id ∧ u.Apart v := by
      refine List.Pairwise.imp_of_mem (R := fun u v => u.id ≠ v.id) ?_ (by decide)
      exact fun _ hv hne => ⟨hne, fun _ => .inr ⟨_, hv, rfl, rfl⟩⟩
    exact hdefault.filter _
  · obtain ⟨hdefault, hfree⟩ := List.mem_filter.mp hv
    rw [Option.isNone_iff_eq_none] at hfree
    exact ⟨Store.id_ne_of_user? hfree hu, fun _ => .inr ⟨v, hdefault, rfl, rfl⟩⟩

/-- Whoever is invited is apart from all who are there. -/
private theorem invite_keepsApart (email : Option String) (role : Value) (name : Option String) :
    (invite email role name).Leads World.KeepsApart := by
  refine .of_yields World.sequential_keepsApart fun w => (invite_yields email role name).mono ?_
  rintro u w' ⟨henrols, hfree, hunheld⟩
  refine henrols.keepsApart fun hw => hw.append (List.pairwise_singleton _ u) fun v hv x hx => ?_
  obtain rfl := List.mem_singleton.mp hx
  exact ⟨Store.id_ne_of_user? hfree hv, User.apart_of_not_holdsEmail (hunheld v hv)⟩

/-- An update leaves the email of a user, so the users stay apart. -/
private theorem update_keepsApart (id name : Option String) (role : Value) :
    (update id name role).Leads World.KeepsApart := by
  refine .of_yields World.sequential_keepsApart fun w => (update_yields name role).mono ?_
  rintro u w' ⟨henrols, v, hv, hid, hemail⟩
  exact henrols.keepsApart fun hw => hw.replaceUser (Store.mem_of_user? hv) hid hemail

private theorem remove_keepsApart (id actingUser : Option String) :
    (remove id actingUser).Leads World.KeepsApart :=
  remove_leads World.sequential_keepsApart
    (fun henrols => henrols.keepsApart fun hw => hw.removeUser _) actingUser

end Directory

namespace Operation

/-- Whether an operation seeds the default users, if it seeds users at all. -/
def seedsDefaults : Operation → Bool
  | seedUsers us => us == Seed.users
  | _ => true

/-- Every operation that seeds the default users at most leaves the users apart. -/
theorem keepsApart (op : Operation) (hop : op.seedsDefaults = true) :
    op.service.Leads World.KeepsApart := by
  cases op with
  | seedUsers us =>
    obtain rfl : us = Seed.users := by simpa [seedsDefaults] using hop
    exact Directory.seed_keepsApart.map _
  | inviteUser email role name => exact (Directory.invite_keepsApart email role name).map _
  | updateUser id name role => exact (Directory.update_keepsApart id name role).map _
  | deleteUser id actingUser => exact (Directory.remove_keepsApart id actingUser).map _
  | _ => exact fun w => (sparesUsers _ rfl w).keepsApart

end Operation

/-! ## Invitations -/

/-- What is told about a new user is read as that user. -/
private theorem User.read_new (id name email url : String) (role : Role) :
    ((User.readFields [("id", .text id), ("name", .text name), ("email", .text email),
      ("role", .text (Worded.word role)), ("avatar_url", .text url)]).toExcept
        User.recordName).mapError Failure.rejected = .ok ⟨id, name, email, role, some url⟩ := by
  cases role <;> rfl

/-- In a store that is ready, an invitation is refused for its address exactly where it has one and
the store finds it. -/
private theorem Directory.invite_eq_takenEmail (hready : w.store.condition = .ready)
    (email : Option String) (role : Role) (name : Option String) :
    ((invite email (.text (Worded.word role)) name).perform w).1 = .error (.refused .takenEmail) ↔
      '@' ∈ (trim (email.getD "")).toList ∧
        ∃ u ∈ w.store.users, holdsEmail (trim (email.getD "")) u = true := by
  unfold invite
  simp only
  split
  · next hat =>
    simp only [Bool.not_eq_true', List.contains_eq_mem, decide_eq_false_iff_not] at hat
    rw [perform_bind_of_error (perform_refuse _ w)]
    simp [hat]
  · next hat =>
    simp only [Bool.not_eq_true', Bool.not_eq_false, List.contains_eq_mem, decide_eq_true_eq] at hat
    -- An id is drawn and a user read, both of which succeed for a role.
    have hdraw : (drawId "user" 8).perform w = (.ok (w.ids.draw "user" 8).1,
        { w with ids := (w.ids.draw "user" 8).2 }) := perform_draw _ w
    have hquery (ids : IdSource) :
        (query inviting).perform { w with ids } = (.ok w.store, { w with ids }) :=
      perform_query_eq_ok.mpr ⟨hready, rfl, rfl⟩
    rw [perform_bind_of_ok hdraw, User.read_new, perform_bind_of_ok (perform_settle _ _),
      perform_bind_of_ok (hquery _)]
    split
    · next htaken =>
      rw [perform_bind_of_error (perform_refuse _ _)]
      simpa [hat] using htaken
    · next hfree =>
      -- Whatever happens to a new address, it is not refused.
      have hfree : ¬∃ u ∈ w.store.users, holdsEmail (trim (email.getD "")) u = true := by
        simpa using hfree
      simp only [hat, hfree, and_false, iff_false]
      split <;> exact fun h => by cases h

/-! ## Staffed installations -/

/-- A world that operations lead to from an empty store, where no others than the default users are
seeded. Between two operations the source of ids, the clock, the rules chosen and the log may become
anything. -/
inductive World.Staffed : World → Prop where
  /-- Nothing is stored. -/
  | empty {w : World} (h : w.store = {}) : Staffed w
  /-- An operation is performed, whether it fails or not. -/
  | after {w w₁ : World} (h : Staffed w) (hstore : w₁.store = w.store) (op : Operation)
      (hop : op.seedsDefaults = true) : Staffed (w₁.after op)

/-- In a staffed world the users stand apart and the store is ready. -/
theorem World.Staffed.apart (h : w.Staffed) :
    w.store.UsersApart ∧ w.store.condition = .ready := by
  induction h with
  | empty h =>
    rw [h]
    exact ⟨.nil, rfl⟩
  | after _ hstore op hop ih =>
    have hkeeps := op.keepsApart hop
    exact ⟨(hkeeps _).apart (hstore ▸ ih.1), (hkeeps _).condition_eq.trans (hstore ▸ ih.2)⟩

/-- Of two users of a staffed installation whose addresses are the same in lower case, the first one
has a capital letter outside ASCII in it, or the second came with the default users. And whoever
brings an address that is the same in lower case as a stored one is refused, in that store, exactly
if the stored one has no capital letter outside ASCII. -/
theorem World.Staffed.addresses_apart (h : w.Staffed) :
    (w.store.users.Pairwise fun u v => lower u.email = lower v.email →
      hasForeignCapital u.email = true ∨ v.IsDefault) ∧
    ∀ w₁ : World, w₁.store = w.store → ∀ (email : Option String) (role : Role)
      (name : Option String),
      ((Directory.invite email (.text (Worded.word role)) name).perform w₁).1
          = .error (.refused .takenEmail) ↔
        '@' ∈ (trim (email.getD "")).toList ∧ ∃ u ∈ w.store.users,
          lower u.email = lower (trim (email.getD "")) ∧ hasForeignCapital u.email = false := by
  obtain ⟨hapart, hready⟩ := h.apart
  refine ⟨hapart.imp And.right, fun w₁ hstore email role name => ?_⟩
  rw [Directory.invite_eq_takenEmail (hstore ▸ hready), hstore]
  -- The store lowers ASCII letters only, so that it finds an address unless another letter is
  -- capital.
  simp only [Directory.holdsEmail, beq_iff_eq, lowerAscii_eq_lower_iff]

/-! ## Two addresses twice -/

namespace Sample

/-- Three users are invited, and the default ones are seeded then. -/
def staffedWorld : World :=
  (((emptyWorld.after (.inviteUser (some "Émile@example.com") (.text "Member") none)).after
    (.inviteUser (some "émile@Example.com") (.text "Member") none)).after
      (.inviteUser (some "BEN.CARTER@example.com") (.text "Member") none)).after
        (.seedUsers Seed.users)

private theorem staffed_staffedWorld : staffedWorld.Staffed :=
  .after (.after (.after (.after (.empty rfl) rfl _ rfl) rfl _ rfl) rfl _ rfl) rfl _ (by decide)

end Sample

/-- The sample has two addresses twice: one has a capital letter outside ASCII where it came first,
the other came a second time with the default users. The address of a third user is refused. -/
theorem World.Staffed.addresses_apart_sample :
    (Sample.staffedWorld.store.users.map (·.email) =
      ["Émile@example.com", "émile@Example.com", "BEN.CARTER@example.com",
        "alina.petrova@example.com", "ben.carter@example.com", "chen.lin@example.com"] ∧
      lower "Émile@example.com" = lower "émile@Example.com") ∧
    (Sample.staffedWorld.store.users.Pairwise fun u v => lower u.email = lower v.email →
      hasForeignCapital u.email = true ∨ v.IsDefault) ∧
    ((Directory.invite (some " CHEN.lin@example.com ") (.text (Worded.word Role.member))
      none).perform Sample.staffedWorld).1 = .error (.refused .takenEmail) := by
  obtain ⟨hapart, hrefused⟩ := addresses_apart Sample.staffed_staffedWorld
  exact ⟨by decide +kernel, hapart, (hrefused _ rfl _ _ _).mpr (by decide +kernel)⟩

end CaseFlow
