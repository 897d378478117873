import CaseFlow.Proofs.Service.Operation

/-!
# Creating users, apps and cases

An invitation, the creation of an app and the opening of a case each store something under an id
that is given or drawn (`Operation.newId`). Nothing keeps the source of ids from drawing one that
is stored already. The directory leaves such a clash to the key of its table and the apps look for
it, so that both refuse; a case is kept as if it had been there before, and takes the place of the
case whose id it shares.

`Operation.creation_adds` tells the two apart for every store and every source of ids, and
`Operation.creation_overwrites` is an opening that loses a case.
-/

namespace CaseFlow

open Service

/-! ## The id of something new -/

/-- The id under which an app is founded: the one given, or else the one drawn next. -/
def Apps.Founding.newId (o : Founding) (ids : IdSource) : String :=
  (o.id.filter (!·.isEmpty)).getD (ids.draw "app" 8).1

/-- The id under which a case is opened: the one given, if it is a text, or else the one drawn
next. -/
def Case.Opening.newId (o : Opening) (ids : IdSource) : Option String :=
  if o.caseId.truthy then o.caseId.text? else some (ids.draw "case" 12).1

/-- The id of what an operation gives: a user, an app or a case. -/
def Answer.id? : Answer → Option String
  | .user u => some u.id
  | .app a => some a.id
  | .case c => some c.id
  | _ => none

namespace Operation

/-- Whether an operation makes something new: a user, an app or a case. -/
def creates : Operation → Bool
  | inviteUser .. | createApp _ | createCase .. => true
  | _ => false

/-- The id under which an operation stores something new. -/
def newId (ids : IdSource) : Operation → Option String
  | inviteUser .. => some (ids.draw "user" 8).1
  | createApp o => some (o.newId ids)
  | createCase _ o => o.newId ids
  | _ => none

/-- Whether the table to which an operation adds has a row under an id. -/
def holds (s : Store) (id : String) : Operation → Bool
  | inviteUser .. => (s.user? id).isSome
  | createApp _ => (s.app? id).isSome
  | createCase .. => (s.case? id).isSome
  | _ => false

/-- Whether the id under which an operation stores something new is stored already. -/
def clashes (w : World) (op : Operation) : Bool :=
  (op.newId w.ids).any fun id => op.holds w.store id

end Operation

/-- Store `s'` is store `s` with one more row, which is that of an answer and has an id that was
not in its table. -/
inductive Store.Gains (s : Store) : Answer → Store → Prop where
  /-- A user is added. -/
  | user {u : User} (hfree : s.user? u.id = none) :
      Gains s (.user u) { s with users := s.users ++ [u] }
  /-- An app is added. -/
  | app {a : App} (hfree : s.app? a.id = none) :
      Gains s (.app a) { s with apps := s.apps ++ [.ofApp a] }
  /-- A case is added. -/
  | case {c : Case} (hfree : s.case? c.id = none) :
      Gains s (.case c) { s with cases := s.cases ++ [.ofCase c] }

/-- The store with a case in the place of what is stored under its id. -/
def Store.overwrite (s : Store) (c : Case) : Store :=
  { s with cases := s.cases.map fun r => if r.id == c.id then .ofCase c else r }

/-- A case is kept in a new row, or in the place of what is stored under its id. -/
theorem Store.keepCase_eq (s : Store) (c : Case) : s.keepCase c =
    if (s.case? c.id).isSome then s.overwrite c
    else { s with cases := s.cases ++ [.ofCase c] } := by
  have hany : (s.case? c.id).isSome = s.cases.any (·.id == c.id) := by
    rw [case?, List.isSome_find?]
  rw [hany, keepCase, overwrite]

variable {w w₁ : World}

/-- What is known of an outcome in two ways. -/
theorem Service.Yields.and {α : Type} {m : Service α} {Q Q₁ : α → World → Prop}
    (h : m.Yields w Q) (h₁ : m.Yields w Q₁) : m.Yields w fun a w' => Q a w' ∧ Q₁ a w' :=
  ⟨fun hm => ⟨h.of_ok hm, h₁.of_ok hm⟩, h.of_error⟩

/-! ## Users -/

namespace Directory

/-- Looking up a user changes nothing. -/
private theorem eq_of_resolve? {id : Option String} {u : Option User}
    (h : (resolve? id).perform w = (.ok u, w₁)) : w₁ = w := by
  unfold resolve? at h
  split at h
  · exact (Prod.mk.inj h).2.symm
  · obtain ⟨s, w₂, hquery, h⟩ := perform_bind_eq_ok.mp h
    obtain ⟨-, rfl, rfl⟩ := perform_query_eq_ok.mp hquery
    rw [perform_pure, Prod.mk.injEq] at h
    exact h.2.symm

/-- A user who is invited has the id that is drawn next. -/
private theorem invite_id (email : Option String) (role : Value) (name : Option String) :
    (invite email role name).Yields w fun u _ => u.id = (w.ids.draw "user" 8).1 := by
  unfold invite
  simp only
  split
  · exact yields_refuse_bind _
  · refine (Reads.draw _).bind_yields fun id w₁ hdraw _ => ?_
    refine yields_settle_bind fun u hu => yields_query_bind fun _ => ?_
    -- The id is drawn before anything is checked.
    rw [perform_draw, Prod.mk.injEq, Except.ok.injEq] at hdraw
    have hid : u.id = id := (Value.text.inj (Option.some.inj (texts_of_read hu).1)).symm
    split
    · exact yields_refuse_bind _
    · split
      · exact yields_storageFails_bind _
      · exact yields_of_ok rfl (hid.trans hdraw.1.symm)

end Directory

/-! ## Apps -/

namespace Apps

/-- The id that is settled is the one given or the one drawn next. -/
private theorem Founding.newId_of_settleId {o : Founding} {appId : String}
    (h : o.settleId.perform w = (.ok appId, w₁)) : appId = o.newId w.ids := by
  unfold Founding.settleId at h
  unfold Founding.newId
  split at h
  · next id hid =>
    rw [perform_pure, Prod.mk.injEq, Except.ok.injEq] at h
    rw [hid, Option.getD_some, h.1]
  · next hid =>
    rw [drawId, perform_draw, Prod.mk.injEq, Except.ok.injEq] at h
    rw [hid, Option.getD_none, h.1]

/-- An app that is created has the id under which it is founded. -/
theorem create_id (o : Founding) : (create o).Yields w fun a _ => a.id = o.newId w.ids := by
  refine (settleId_reads o).bind_yields fun id w₁ hid _ => yields_settle_bind fun a ha => ?_
  refine checkDocument_reads.bind_yields fun _ w₂ _ _ => ?_
  refine (Reads.note _ _ _).bind_yields fun _ w₃ _ _ => yields_query_bind fun _ => ?_
  simp only
  split
  · exact yields_refuse_bind _
  · exact yields_of_ok rfl ((Founding.of_read ha).1.trans (Founding.newId_of_settleId hid))

end Apps

/-! ## Cases -/

namespace Cases

/-- The check of an assignee who is known changes nothing. -/
private theorem eq_of_checkAssignee {v : Value} (h : (checkAssignee v).perform w = (.ok (), w₁)) :
    w₁ = w := by
  unfold checkAssignee at h
  split at h
  · obtain ⟨user, w₂, hresolve, h⟩ := perform_bind_eq_ok.mp h
    have hsame : w₂ = w := Directory.eq_of_resolve? hresolve
    split at h
    · cases h
    · exact ((Prod.mk.inj h).2.symm).trans hsame
  · exact (Prod.mk.inj h).2.symm

/-- A case that is opened has the id that is given, or the one drawn next. -/
private theorem opened_id {d : Document} {o : Case.Opening} {now : Timestamp} {ids : IdSource}
    {c : Case}
    (h : (Case.opened d o now ids).1 = .ok c) : o.newId ids = some c.id := by
  unfold Case.opened at h
  unfold Case.Opening.newId
  split at h
  · cases h
  · simp only at h
    obtain ⟨tags, -, h⟩ := bind_eq_ok.mp h
    have hid := (Case.readFields_eq_ok.mp (Checked.toExcept_eq_ok.mp (mapError_eq_ok.mp h))).get?_id
    -- The id is the one that was given, if it counts as given, or else the one that is drawn.
    split at hid
    · next hgiven =>
      obtain hid : o.caseId = .text c.id := Option.some.inj hid
      rw [if_pos hgiven, hid]
      rfl
    · next hdrawn =>
      rw [if_neg hdrawn]
      exact congrArg some (Value.text.inj (Option.some.inj hid))

/-- A case is opened with the ids that are there when it is asked for. -/
theorem create_id (appId : Option String) (o : Case.Opening) :
    (create appId o).Yields w fun c _ => o.newId w.ids = some c.id := by
  refine Apps.workflow_reads.bind_yields fun d w₁ hworkflow _ => ?_
  refine (checkAssignee_reads _).bind_yields fun _ w₂ hassignee _ => ?_
  refine Reads.readClock.bind_yields fun now w₃ hnow _ => ?_
  refine (Reads.draw _).bind_yields fun outcome w₄ hdraw _ => ?_
  refine yields_settle_bind fun c hc => ?_
  -- What comes before the id is drawn leaves the source of ids alone.
  obtain ⟨notes, rfl⟩ := Apps.workflow_writes hworkflow
  obtain rfl := eq_of_checkAssignee hassignee
  rw [perform_readClock, Prod.mk.injEq] at hnow
  obtain ⟨-, rfl⟩ := hnow
  rw [perform_draw, Prod.mk.injEq, Except.ok.injEq] at hdraw
  obtain ⟨rfl, -⟩ := hdraw
  refine save_yields.bind_sure fun _ w₅ _ => ⟨c, _, rfl, ?_⟩
  -- The app that is asked for has no say in the id.
  exact opened_id (o := { o with appId := .ofText? appId }) (openingOutcome_eq_ok.mp hc)

end Cases

/-! ## What creating leaves -/

namespace Operation

/-- An operation clashes if its table has a row under the id that was settled for it. -/
theorem clashes_eq {op : Operation} {id : String} (h : op.newId w.ids = some id) :
    op.clashes w = op.holds w.store id := by
  rw [clashes, h, Option.any_some]

/-- What is made is stored in a new row under the id that was settled for it. Only a case is made
under an id that is taken, and then it is stored in the place of the one before. -/
private theorem service_makes {op : Operation} (hop : op.creates = true) :
    op.service.Yields w fun a w' =>
    a.id? = op.newId w.ids ∧
      if op.clashes w then
        ∃ appId o c, op = .createCase appId o ∧ a = .case c ∧ w'.store = w.store.overwrite c
      else w.store.Gains a w'.store := by
  unfold service
  cases op with
  | inviteUser email role name =>
    refine ((Directory.invite_yields email role name).and (Directory.invite_id email role name)).map
      fun u w' h => ?_
    obtain ⟨⟨henrols, hfree, -⟩, hid⟩ := h
    have hid : (inviteUser email role name).newId w.ids = some u.id := congrArg some hid.symm
    refine ⟨hid.symm, ?_⟩
    -- The key of the table has let the user in.
    have hclash : (inviteUser email role name).clashes w = false := by
      rw [clashes_eq hid, holds, hfree, Option.isSome_none]
    rw [hclash, henrols.store_eq]
    exact .user hfree
  | createApp o =>
    refine ((Apps.create_yields o).and (Apps.create_id o)).map fun a w' h => ?_
    obtain ⟨⟨-, -, -, hfree, hstore⟩, hid⟩ := h
    have hid : (createApp o).newId w.ids = some a.id := congrArg some hid.symm
    refine ⟨hid.symm, ?_⟩
    -- The app was looked for and not found.
    have hclash : (createApp o).clashes w = false := by
      rw [clashes_eq hid, holds, hfree, Option.isSome_none]
    rw [hclash, hstore]
    exact .app hfree
  | createCase appId o =>
    refine ((Cases.create_yields appId o).and (Cases.create_id appId o)).map fun c w' h => ?_
    obtain ⟨⟨hkeeps, -⟩, hid⟩ := h
    have hid : (createCase appId o).newId w.ids = some c.id := hid
    refine ⟨hid.symm, ?_⟩
    -- Nobody looks for the case, which is kept in either way.
    rw [clashes_eq hid, holds, hkeeps.store_eq, Store.keepCase_eq]
    split
    · exact ⟨appId, o, c, rfl, rfl, rfl⟩
    · next hfree =>
      rw [Bool.not_eq_true, Option.isSome_eq_false_iff, Option.isNone_iff_eq_none] at hfree
      exact .case hfree
  | _ => cases hop

/-- Whatever is stored and whatever id comes next: an operation that is to make something and fails
leaves the store as it was. If its id is free and it succeeds, then there is one more row, under
that id. If its id is taken it fails, unless it opens a case; a case that is opened then takes the
place of the one that is stored under its id. -/
theorem creation_adds (op : Operation) (hop : op.creates = true) (w : World) :
    (∀ f, (op.service.perform w).1 = .error f → (w.after op).store = w.store) ∧
    (op.clashes w = false → ∀ a, (op.service.perform w).1 = .ok a →
      a.id? = op.newId w.ids ∧ w.store.Gains a (w.after op).store) ∧
    (op.clashes w = true → (∃ f, (op.service.perform w).1 = .error f) ∨
      ∃ appId o c, op = .createCase appId o ∧ (op.service.perform w).1 = .ok (.case c) ∧
        op.newId w.ids = some c.id ∧ (w.after op).store = w.store.overwrite c) := by
  have hmakes : op.service.Yields w _ := service_makes hop
  rw [World.after]
  rcases hperform : op.service.perform w with ⟨f | a, w'⟩
  · have hstore : w'.store = w.store := (hmakes.of_error hperform).store_eq
    refine ⟨fun _ _ => hstore, fun _ a ha => ?_, fun _ => .inl ⟨f, rfl⟩⟩
    cases ha
  · -- A success under a taken id is that of a case, which takes the place of the stored one.
    obtain ⟨hid, hstore⟩ := hmakes.of_ok hperform
    refine ⟨fun f hf => (by cases hf), fun hclash b hb => ?_, fun hclash => .inr ?_⟩
    · rw [hclash, if_neg Bool.false_ne_true] at hstore
      cases hb
      exact ⟨hid, hstore⟩
    · rw [hclash, if_pos rfl] at hstore
      obtain ⟨appId, o, c, hop, rfl, hstore⟩ := hstore
      exact ⟨appId, o, c, hop, rfl, hid.symm, hstore⟩

end Operation

/-! ## A clash -/

namespace Sample

/-- A case that is opened under an id that is drawn. -/
def titled (title : String) : Case.Opening := { appId := .null, title := .text title }

/-- The world after a case was opened in the sample app, with the source of ids as it was before. -/
def redrawnWorld : World :=
  { openedWorld.after (.createCase (some "app-1") (titled "Early")) with ids := openedWorld.ids }

end Sample

/-- In the sample world an invitation adds a user; an app whose id is taken is refused; and a case
that draws an id that is taken replaces the one before. -/
theorem Operation.creation_adds_sample :
    let w := Sample.redrawnWorld
    let invite := inviteUser (some "ada@example.com") (.text "Member") none
    let found := createApp Sample.founding
    let opening := createCase (some "app-1") (Sample.titled "Late")
    (∃ a, (invite.service.perform w).1 = .ok a ∧ w.store.Gains a (w.after invite).store) ∧
      (∃ f, (found.service.perform w).1 = .error f ∧ (w.after found).store = w.store) ∧
      ∃ c, (opening.service.perform w).1 = .ok (.case c) ∧
        (w.after opening).store = w.store.overwrite c := by
  intro w invite found opening
  -- Which of them clash and which of them succeed is decided; what they do is the theorem.
  have hruns : (invite.clashes w = false ∧ (invite.service.perform w).1.isOk = true) ∧
      found.clashes w = true ∧
      opening.clashes w = true ∧ (opening.service.perform w).1.isOk = true := by
    decide +kernel
  obtain ⟨⟨hfree, hinvited⟩, htaken, hdrawn, hopened⟩ := hruns
  refine ⟨?_, ?_, ?_⟩
  · obtain ⟨-, hadds, -⟩ := creation_adds invite rfl w
    obtain ⟨a, ha⟩ := isOk_eq_true.mp hinvited
    exact ⟨a, ha, (hadds hfree a ha).2⟩
  · obtain ⟨hfails, -, hclash⟩ := creation_adds found rfl w
    -- A clash is refused unless a case is opened.
    rcases hclash htaken with ⟨f, hf⟩ | ⟨_, _, _, hop, -⟩
    · exact ⟨f, hf, hfails f hf⟩
    · simp [found] at hop
  · obtain ⟨-, -, hclash⟩ := creation_adds opening rfl w
    rcases hclash hdrawn with ⟨f, hf⟩ | ⟨_, _, c, -, hc, -, hstore⟩
    · rw [hf] at hopened
      cases hopened
    · exact ⟨c, hc, hstore⟩

/-- Opening a case can lose another one: where the id of the case that was opened first is drawn
again, there is only the second one after it. -/
theorem Operation.creation_overwrites :
    let op := createCase (some "app-1") (Sample.titled "Late")
    let w := Sample.redrawnWorld
    let titles := fun s : Store => s.cases.map fun r => (r.id, r.title)
    op.newId w.ids = some "case-000000010000" ∧ op.clashes w = true ∧
      (op.service.perform w).1.isOk = true ∧
      titles w.store = [("case-1", "Report"), ("case-000000010000", "Early")] ∧
      titles (w.after op).store = [("case-1", "Report"), ("case-000000010000", "Late")] := by
  decide +kernel

end CaseFlow
