import CaseFlow.Proofs.Service.Lasting
import CaseFlow.Proofs.Service.Users

/-!
# Names of users and apps, titles of cases

The name of a new app and the title of a new case are checked against blanks and trimmed, and so is
the new name of an app or a user; nothing else names them. Only an invitation may take a name from
an address, and what stands before the at sign there is neither checked nor trimmed.

So every name that operations bring into a store is trimmed and not blank, but for those of users
who are invited without a name to an address that does not start with one (`World.Ran.named`).
-/

namespace CaseFlow

open CaseFlow.Text Service

variable {w w' : World}

/-! ## Names that are given -/

/-- An invited user has a name exactly if one is given that is not blank, or the address starts
with one. -/
theorem Directory.isName_invitedName {email : String} {name : Option String} :
    IsName (invitedName email name) ↔ name.any (!blank ·) = true ∨ IsName (localPart email) := by
  unfold invitedName
  cases name with
  | none =>
    have hempty : (trim "").isEmpty = true := rfl
    simp [hempty]
  | some s =>
    -- A name that is given counts only if it is not blank.
    cases hblank : blank s with
    | true =>
      have hempty : (trim s).isEmpty = true := hblank
      simp [hempty, hblank]
    | false =>
      have hfull : (trim s).isEmpty = false := hblank
      simp [hfull, hblank, isName_trim hblank]

/-- A case that is opened has a title that is not blank. -/
theorem Case.OpenedIn.isName_title {d : Document} {c : Case} (h : c.OpenedIn d) :
    IsName c.title := by
  obtain ⟨o, now, ids, ids', h⟩ := h
  unfold opened at h
  cases hstarts : d.starts with
  | nil => simp [hstarts] at h
  | cons start rest =>
    simp only [hstarts, Prod.mk.injEq, bind_eq_ok, mapError_eq_ok, Checked.toExcept_eq_ok] at h
    obtain ⟨⟨tags, -, hread⟩, -⟩ := h
    exact (readFields_eq_ok.mp hread).title_isName

/-- A case that is read from its row has a title that is not blank. -/
theorem CaseRow.isName_title_of_read {r : CaseRow} {c : Case} (h : r.read = .ok c) :
    IsName c.title := by
  rw [read, Checked.toExcept_eq_ok, Case.readFields_eq_ok] at h
  exact h.title_isName

/-! ## Names in a store -/

namespace Store

variable {s : Store}

/-- The names of all users. -/
def userNames (s : Store) : List String := s.users.map (·.name)

/-- The names of all apps. -/
def appNames (s : Store) : List String := s.apps.map (·.name)

/-- The titles of all cases. -/
def titles (s : Store) : List String := s.cases.map (·.title)

private theorem mem_replaceApp {q r : AppRow} (h : q ∈ (s.replaceApp r).apps) :
    q ∈ s.apps ∨ q = r := by
  obtain ⟨p, hp, rfl⟩ := List.mem_map.mp h
  split
  · exact .inr rfl
  · exact .inl hp

private theorem mem_replaceUser {u v : User} (h : v ∈ (s.replaceUser u).users) :
    v ∈ s.users ∨ v = u := by
  obtain ⟨p, hp, rfl⟩ := List.mem_map.mp h
  split
  · exact .inr rfl
  · exact .inl hp

end Store

/-- Every name in world `w'` is one in world `w`, or is trimmed and not blank. -/
def World.AddsNames (names : Store → List String) (w w' : World) : Prop :=
  ∀ x ∈ names w'.store, x ∈ names w.store ∨ IsName x

namespace World

variable {names : Store → List String}

theorem sequential_addsNames (names : Store → List String) : Sequential (AddsNames names) where
  becomes h x hx := by
    rw [h.store_eq] at hx
    exact .inl hx
  trans h h₁ x hx := (h₁ x hx).elim (h x) .inr

/-- Where all had names before, all have afterwards. -/
theorem AddsNames.isName (h : w.AddsNames names w') (hw : ∀ x ∈ names w.store, IsName x) :
    ∀ x ∈ names w'.store, IsName x :=
  fun x hx => (h x hx).elim (hw x) id

/-- Users that are enrolled add their names only. -/
theorem Enrols.addsNames {us : List User} (h : w.Enrols us w')
    (hus : ∀ u ∈ us, u.name ∈ w.store.userNames ∨ IsName u.name) :
    w.AddsNames Store.userNames w' := by
  refine List.forall_mem_map.mpr ?_
  rw [h.store_eq]
  exact hus

/-- A change to the cases adds no title but that of the case which is kept. -/
theorem Changes.addsTitles {change : CaseChange} (h : w.Changes change w')
    (hkept : ∀ c, change = .keep c → IsName c.title) : w.AddsNames Store.titles w' := by
  refine List.forall_mem_map.mpr fun r hr => ?_
  rw [h.cases_eq] at hr
  rcases Store.mem_casesAfter hr with hold | ⟨c, hc, rfl⟩
  · exact .inl (List.mem_map_of_mem hold)
  · exact .inr (hkept c hc)

end World

/-! ## What operations name -/

namespace Operation

/-- An operation gives apps names only that are trimmed and not blank. -/
private theorem addsAppNames (op : Operation) :
    op.service.Leads (World.AddsNames Store.appNames) := by
  refine leads_of_writes (World.sequential_addsNames _) fun {w w'} h =>
    List.forall_mem_map.mpr fun q hq => ?_
  -- Of the writes only those to apps touch names of apps.
  cases h with
  | enrols _ henrols =>
    rw [henrols.store_eq] at hq
    exact .inl (List.mem_map_of_mem hq)
  | addApp _ hstore _ hname =>
    rw [hstore] at hq
    rcases List.mem_append.mp hq with hq | hq
    · exact .inl (List.mem_map_of_mem hq)
    · rw [List.mem_singleton.mp hq]
      exact .inr hname
  | replaceApp _ hr hstore _ hname =>
    rw [hstore] at hq
    rcases Store.mem_replaceApp hq with hq | rfl
    · exact .inl (List.mem_map_of_mem hq)
    · -- The row that was there has the name, where none is given.
      refine hname.imp_left fun hsame => ?_
      rw [hsame]
      exact List.mem_map_of_mem (Store.app?_eq_some hr)
  | removeApp _ hstore =>
    rw [hstore] at hq
    exact .inl (List.mem_map_of_mem (List.mem_filter.mp hq).1)
  | keeps _ hkeeps =>
    rw [hkeeps.store_eq, Store.apps_keepCase] at hq
    exact .inl (List.mem_map_of_mem hq)

/-- Whether the users whom an operation brings have names: those that are seeded have, and one who
is invited has one given, or an address that starts with one. -/
def NamesUsers : Operation → Prop
  | seedUsers us => ∀ u ∈ us, IsName u.name
  | inviteUser email _ name =>
    name.any (!blank ·) = true ∨ IsName (Directory.localPart (trim (email.getD "")))
  | _ => True

instance : DecidablePred NamesUsers
  | seedUsers us => inferInstanceAs (Decidable (∀ u ∈ us, IsName u.name))
  | inviteUser .. => inferInstanceAs (Decidable (_ ∨ _))
  | updateUser .. | deleteUser .. | seedApps _ | createApp _ | updateApp .. | deleteApp _
  | saveWorkflow .. | replaceWorkflow .. | command .. | edit .. | seedCases _ | saveCase _
  | createCase .. | completeStep .. | setStep .. => .isTrue trivial

/-- Whether the cases that an operation is handed have titles. -/
def TitlesCases : Operation → Prop
  | seedCases cs => ∀ c ∈ cs, IsName c.title
  | saveCase c => IsName c.title
  | _ => True

instance : DecidablePred TitlesCases
  | seedCases cs => inferInstanceAs (Decidable (∀ c ∈ cs, IsName c.title))
  | saveCase _ => inferInstanceAs (Decidable (IsName _))
  | seedUsers _ | inviteUser .. | updateUser .. | deleteUser .. | seedApps _ | createApp _
  | updateApp .. | deleteApp _ | saveWorkflow .. | replaceWorkflow .. | command .. | edit ..
  | createCase .. | completeStep .. | setStep .. => .isTrue trivial

/-- An operation that names the users it brings adds no others. -/
private theorem addsUserNames (op : Operation) (hop : op.NamesUsers) :
    op.service.Leads (World.AddsNames Store.userNames) := by
  by_cases husers : op.onUsers = false
  · intro w x hx
    rw [Store.userNames, (op.sparesUsers husers w).users_eq] at hx
    exact .inl hx
  -- Four operations work on the directory, and each has a lemma that says what users it leaves.
  have hseq := World.sequential_addsNames Store.userNames
  unfold service
  cases op with
  | seedUsers us =>
    refine (Leads.of_yields hseq fun w => (Directory.seed_yields us).mono ?_).map _
    refine fun _ w' henrols => henrols.addsNames fun u hu => ?_
    rcases List.mem_append.mp hu with hu | hu
    · exact .inl (List.mem_map_of_mem hu)
    · exact .inr (hop u (List.mem_filter.mp hu).1)
  | inviteUser email role name =>
    refine (Leads.of_yields hseq fun w => (Directory.invite_spec email role name).mono ?_).map _
    rintro u w' ⟨⟨henrols, -⟩, hemail, hname⟩
    refine henrols.addsNames fun v hv => ?_
    rcases List.mem_append.mp hv with hv | hv
    · exact .inl (List.mem_map_of_mem hv)
    · -- Nothing checks the new name, so this is where the invitation has to give one.
      rw [List.mem_singleton.mp hv, hname, hemail]
      exact .inr (Directory.isName_invitedName.mpr hop)
  | updateUser id name role =>
    refine (Leads.of_yields hseq fun w => (Directory.update_spec name role).mono ?_).map _
    rintro u w' ⟨henrols, hname, v, r, hv, rfl⟩
    refine henrols.addsNames fun q hq => ?_
    rcases Store.mem_replaceUser hq with hq | rfl
    · exact .inl (List.mem_map_of_mem hq)
    · -- The user had a name before, which stays where no other is given.
      refine (isName_renamed hname v.name).imp_left fun hsame => ?_
      rw [hsame]
      exact List.mem_map.mpr ⟨v, Store.mem_of_user? hv, rfl⟩
  | deleteUser id actingUser =>
    refine (Directory.remove_leads hseq (fun henrols => ?_) actingUser).map _
    exact henrols.addsNames fun u hu => .inl (List.mem_map_of_mem (List.mem_filter.mp hu).1)
  | _ => exact absurd rfl husers

/-- A case that is kept has a title, if one that is handed over has. -/
theorem KeepsCase.isName_title {op : Operation} {c : Case} (h : op.KeepsCase w c)
    (hop : op.TitlesCases) : IsName c.title := by
  cases h with
  | saved => exact hop
  | created hcreated =>
    obtain ⟨-, d, now, ids, ids', -, hopened⟩ := (Cases.create_yields _ _).of_ok hcreated
    exact Case.OpenedIn.isName_title ⟨_, now, ids, ids', hopened⟩
  | completed hcompleted =>
    -- The case that moves was read from its row, and moving leaves its title.
    obtain ⟨-, row, c₀, d, r, now, -, -, hread, hcomplete⟩ :=
      (Cases.complete_yields _).of_ok hcompleted
    obtain ⟨n, next, userId, user, vs, -, rfl⟩ := Rules.complete_eq_ok.mp hcomplete
    exact (CaseRow.isName_title_of_read hread : IsName c₀.title)
  | placed hplaced =>
    obtain ⟨-, row, c₀, d, -, hread, hplace⟩ := (Cases.setStep_yields _).of_ok hplaced
    obtain ⟨n, -, rfl⟩ := Case.place_eq_ok.mp hplace
    exact (CaseRow.isName_title_of_read hread : IsName c₀.title)

/-- An operation that is handed cases with titles adds no other ones. -/
theorem addsTitles (op : Operation) (hop : op.TitlesCases) :
    op.service.Leads (World.AddsNames Store.titles) := by
  cases hseeds : op.seedsCases with
  | false =>
    intro w
    exact (op.service_changes hseeds w).addsTitles fun c hc =>
      (keepsCase_of_change hc).isName_title hop
  | true =>
    -- Seeding does not tell which cases it keeps, but they are among those handed over.
    cases op with
    | seedCases cs =>
      refine (Cases.seed_leads (World.sequential_addsNames _) ?_).map _
      intro c hc w w' _ hkeeps
      refine hkeeps.changes.addsTitles fun c' hsame => ?_
      rw [← CaseChange.keep.inj hsame]
      exact hop c hc
    | _ => cases hseeds

end Operation

/-! ## Runs of operations -/

/-- A run of operations from an empty store has led to a world; the last one comes first. Between
two of them the source of ids, the clock, the rules chosen and the log may become anything. -/
inductive World.Ran : World → List Operation → Prop where
  /-- Nothing is stored. -/
  | empty {w : World} (h : w.store = {}) : Ran w []
  /-- An operation is performed, whether it fails or not. -/
  | after {w w₁ : World} {ops : List Operation} (h : Ran w ops) (hstore : w₁.store = w.store)
      (op : Operation) : Ran (w₁.after op) (op :: ops)

variable {ops : List Operation}

/-- What every operation of a run adds under names only has names at its end. -/
theorem World.Ran.isName (h : w.Ran ops) {names : Store → List String} (hempty : names {} = [])
    (hops : ∀ op ∈ ops, op.service.Leads (World.AddsNames names)) :
    ∀ x ∈ names w.store, IsName x := by
  induction h with
  | empty h =>
    rw [h, hempty]
    exact fun x hx => by cases hx
  | after _ hstore op ih =>
    -- The last operation starts from the store of the run before it, where all have names.
    rw [List.forall_mem_cons] at hops
    refine (hops.1 _).isName ?_
    rw [hstore]
    exact ih hops.2

/-- After every run of operations the names of apps are trimmed and not blank. So are the titles of
cases, if those of the cases that were handed over are; and so are the names of users, if those of
the seeded ones are and every invitation gives one or goes to an address that starts with one. No
less can be asked of invitations: one that succeeds adds such a name in these two cases only. -/
theorem World.Ran.named (h : w.Ran ops) :
    (∀ x ∈ w.store.appNames, IsName x) ∧
    ((∀ op ∈ ops, op.TitlesCases) → ∀ x ∈ w.store.titles, IsName x) ∧
    ((∀ op ∈ ops, op.NamesUsers) → ∀ x ∈ w.store.userNames, IsName x) ∧
    ∀ w₁ : World, w₁.store = w.store → ∀ email role name u w',
      (Directory.invite email role name).perform w₁ = (.ok u, w') →
        w'.store.userNames = w.store.userNames ++ [u.name] ∧
          (IsName u.name ↔ name.any (!blank ·) = true ∨
            IsName (Directory.localPart (trim (email.getD "")))) := by
  refine ⟨h.isName rfl fun op _ => op.addsAppNames,
    fun hops => h.isName rfl fun op hop => op.addsTitles (hops op hop),
    fun hops => h.isName rfl fun op hop => op.addsUserNames (hops op hop), ?_⟩
  intro w₁ hstore email role name u w' hinvited
  obtain ⟨⟨henrols, -⟩, hemail, hname⟩ := (Directory.invite_spec email role name).of_ok hinvited
  constructor
  · rw [henrols.store_eq, hstore, Store.userNames, List.map_append]
    rfl
  · rw [hname, hemail, Directory.isName_invitedName]

/-! ## Two names that are none -/

namespace Sample

/-- An installation with the default users, apps and cases, in which an app and a case were made
and all three kinds were changed, and a user was invited without a name. The last operation comes
first. -/
def namingOps : List Operation :=
  [.setStep (some "case-9") (some "triage"),
    .completeStep (some "case-1") { stepId := some "start", userId := some "user-1" },
    .createCase (some "app-9") { opening with title := .text " Audit\n", caseId := .text "case-9" },
    .updateUser (some "user-2") (some "\tBen ") .null,
    .inviteUser (some " dana.ortiz@example.com ") (.text "Member") (some " "),
    .updateApp (some "app-9") (some " Audits ") none none,
    .createApp { name := .text " Reports ", id := some "app-9" },
    .seedCases Seed.cases, .seedApps Seed.apps, .seedUsers Seed.users]

/-- The world to which a run from the empty store leads. -/
def ranWorld (ops : List Operation) : World := ops.foldr (fun op w => w.after op) emptyWorld

theorem ran_ranWorld (ops : List Operation) : (ranWorld ops).Ran ops := by
  induction ops with
  | nil => exact .empty rfl
  | cons op ops ih => exact .after ih rfl op

end Sample

/-- All that the sample stores is named, and most of it is known by the names that were given. -/
theorem World.Ran.named_sample :
    ((∀ x ∈ (Sample.ranWorld Sample.namingOps).store.appNames, IsName x) ∧
      (∀ x ∈ (Sample.ranWorld Sample.namingOps).store.titles, IsName x) ∧
      ∀ x ∈ (Sample.ranWorld Sample.namingOps).store.userNames, IsName x) ∧
    (Sample.ranWorld Sample.namingOps).store.appNames
      = ["Support Desk", "Dev Projects", "HR Onboarding", "Audits"] ∧
    (Sample.ranWorld Sample.namingOps).store.titles.getLast? = some "Audit" ∧
    (Sample.ranWorld Sample.namingOps).store.userNames
      = ["Alina Petrova", "Ben", "Chen Lin", "dana.ortiz"] := by
  obtain ⟨happs, htitles, husers, -⟩ := named (Sample.ran_ranWorld Sample.namingOps)
  exact ⟨⟨happs, htitles (by decide +kernel), husers (by decide +kernel)⟩, by decide +kernel⟩

/-- Two invitations take their names from the addresses: the one is empty, and the other one ends
with a blank. -/
theorem World.Ran.not_named : ∃ w : World,
    w.Ran [.inviteUser (some "ben @example.com") (.text "Member") none,
      .inviteUser (some "@example.com") (.text "Member") none] ∧
    w.store.userNames = ["", "ben "] ∧ ¬IsName "" ∧ ¬IsName "ben " :=
  ⟨_, Sample.ran_ranWorld _, by decide +kernel⟩

end CaseFlow
