import CaseFlow.Proofs.Case.Step
import CaseFlow.Proofs.Editor.Structure
import CaseFlow.Proofs.Service.Effect
import CaseFlow.Service.Cases

/-!
# What each service commits

One lemma for each service. Those that look leave the store as it is (the lemmas that end in
`reads`). Each of the others commits once, after everything that can fail, so that a failure leaves
the store as it was and a success is known by what it gives back (those that end in `yields`). The
exceptions commit several times, or read back what they have committed, and have weaker lemmas,
which say where they lead (those that end in `leads`).

What is committed to users and apps spares the cases; a service on cases keeps the case that it
gives back, and nothing else (`World.Keeps`). The invariants of the store are proved from these
lemmas, and no later file unfolds a service.
-/

namespace CaseFlow

open CaseFlow.Text Service

variable {w w₁ : World} {id : Option String}

/-- World `w'` is what becomes of world `w` when a case is kept besides, whose app is stored. -/
structure World.Keeps (w : World) (c : Case) (w' : World) : Prop where
  /-- The case is kept, and nothing else changes. -/
  store_eq : w'.store = w.store.keepCase c
  /-- Its app is stored. -/
  app_stored : (w.store.app? c.appId).isSome = true
  /-- A clock on universal time stays on it. -/
  universal : w.clock.Universal → w'.clock.Universal

/-- A world may become another one before a case is kept in it. -/
theorem World.Becomes.keeps {c : Case} {w₂ : World} (h : w.Becomes w₁) (h₁ : w₁.Keeps c w₂) :
    w.Keeps c w₂ :=
  ⟨h.store_eq ▸ h₁.store_eq, h.store_eq ▸ h₁.app_stored, h₁.universal ∘ h.universal⟩

/-- The world in which a case was kept may become another one. -/
theorem World.Keeps.trans {c : Case} {w₂ : World} (h : w.Keeps c w₁) (h₁ : w₁.Becomes w₂) :
    w.Keeps c w₂ :=
  ⟨h₁.store_eq.trans h.store_eq, h.app_stored, h₁.universal ∘ h.universal⟩

/-! ## Users -/

/-- World `w'` is what becomes of world `w` when its users are replaced besides. -/
structure World.Enrols (w : World) (us : List User) (w' : World) : Prop where
  /-- There are other users, and nothing else changes. -/
  store_eq : w'.store = { w.store with users := us }
  /-- A clock on universal time stays on it. -/
  universal : w.clock.Universal → w'.clock.Universal

theorem World.Enrols.changesUsers {us : List User} (h : w.Enrols us w₁) : w.ChangesUsers w₁ where
  apps_eq := by rw [h.store_eq]
  sparesCases := ⟨by rw [h.store_eq], by rw [h.store_eq], h.universal⟩

namespace Directory

theorem resolve?_reads : (resolve? id).Reads := by
  unfold resolve?
  split
  · exact .pure none
  · exact .bind (.query _) fun s => .pure _

theorem list_reads : list.Reads := .bind (.query _) fun _ => .pure _

theorem knows_reads (v : Value) : (knows v).Reads := by
  refine .bind (.query _) fun s => ?_
  split
  · exact .pure _
  · exact .pure _
  · exact .storageFails _
  · exact .throw _

/-- A value names one of the users. A list of just one id names whom the id names, and so does an
object with just an id. -/
def Names (us : List User) (v : Value) : Prop := ∃ u ∈ us, naming v = .id u.id

/-- Only a value that names a user is known. -/
theorem names_of_knows {v : Value} (h : (knows v).perform w = (.ok true, w₁)) :
    Names w.store.users v := by
  obtain ⟨s, w₂, hquery, h⟩ := perform_bind_eq_ok.mp h
  obtain ⟨-, rfl, rfl⟩ := perform_query_eq_ok.mp hquery
  split at h
  · next userId hnaming =>
    rw [perform_pure, Prod.mk.injEq, Except.ok.injEq, Store.isSome_user?] at h
    obtain ⟨u, hu, hid⟩ := h.1
    exact ⟨u, hu, by rw [hnaming, hid]⟩
  · cases h
  · cases h
  · cases h

/-- A user who is read has the id, the name and the address that the fields give. -/
theorem texts_of_read {fs : Fields} {u : User}
    (h : ((User.readFields fs).toExcept User.recordName).mapError .rejected
      = (.ok u : Except Failure User)) :
    fs.get? "id" = some (.text u.id) ∧ fs.get? "name" = some (.text u.name) ∧
      fs.get? "email" = some (.text u.email) := by
  simp only [mapError_eq_ok, Checked.toExcept_eq_ok, User.readFields, Checked.seq_eq_ok,
    Checked.map_eq_ok, Fields.require_eq_ok, Reader.text_eq_ok] at h
  obtain ⟨_, _, ⟨_, _, ⟨_, _, ⟨_, _, ⟨_, ⟨_, hid, rfl⟩, rfl⟩, ⟨_, hname, rfl⟩, rfl⟩,
    ⟨_, hemail, rfl⟩, rfl⟩, -, rfl⟩, -, rfl⟩ := h
  exact ⟨hid, hname, hemail⟩

/-- A user who is invited joins the others. No id among theirs is the new one, and no address is, as
the store compares them. The address is trimmed, and the name comes from the one given or from the
address. -/
theorem invite_spec (email : Option String) (role : Value) (name : Option String) :
    (invite email role name).Yields w fun u w' =>
      (w.Enrols (w.store.users ++ [u]) w' ∧ w.store.user? u.id = none ∧
        ∀ v ∈ w.store.users, holdsEmail u.email v = false) ∧
      u.email = trim (email.getD "") ∧ u.name = invitedName u.email name := by
  unfold invite
  simp only
  split
  · exact yields_refuse_bind _
  · refine (Reads.draw _).bind_yields fun id w₁ _ h₁ => ?_
    refine yields_settle_bind fun u hu => yields_query_bind fun _ => ?_
    -- The user is read from what is given, so that its texts are those.
    obtain ⟨-, hname, hemail⟩ := texts_of_read hu
    have hname : invitedName (trim (email.getD "")) name = u.name :=
      Value.text.inj (Option.some.inj hname)
    have hemail : trim (email.getD "") = u.email := Value.text.inj (Option.some.inj hemail)
    split
    · exact yields_refuse_bind _
    · next htaken =>
      split
      · exact yields_storageFails_bind _
      · next hfree =>
        rw [h₁.store_eq, Bool.not_eq_true, Option.isSome_eq_false_iff, Option.isNone_iff_eq_none]
          at hfree
        -- Both checks are passed, and the user joins the store that was looked at.
        refine yields_of_ok rfl ⟨⟨⟨?_, h₁.universal⟩, hfree, fun v hv => ?_⟩, hemail.symm, ?_⟩
        · rw [← h₁.store_eq]
          rfl
        · rw [Bool.not_eq_true, List.any_eq_false, h₁.store_eq] at htaken
          rw [← hemail]
          simpa using htaken v hv
        · rw [← hemail, hname]

/-- The new user is told apart from all others. -/
theorem invite_yields (email : Option String) (role : Value) (name : Option String) :
    (invite email role name).Yields w fun u w' => w.Enrols (w.store.users ++ [u]) w' ∧
      w.store.user? u.id = none ∧ ∀ v ∈ w.store.users, holdsEmail u.email v = false :=
  (invite_spec email role name).mono fun _ _ h => h.1

/-- A user who is changed is the one that was asked for, with the name that is given, which is not
blank, and with some role. -/
theorem update_spec (name : Option String) (role : Value) :
    (update id name role).Yields w fun u w' => w.Enrols (w.store.replaceUser u).users w' ∧
      name.any blank = false ∧ ∃ v r, id.bind w.store.user? = some v ∧
        u = { v with name := (name.map trim).getD v.name, role := r } := by
  unfold update
  simp only
  split
  · exact yields_refuse_bind _
  · next hname =>
    refine yields_query_bind fun _ => ?_
    split
    · exact yields_refuse _
    · next v hv =>
      -- The role is settled before anything is committed.
      refine yields_settle_bind fun r _ => ?_
      exact yields_of_ok rfl ⟨⟨rfl, fun h => h⟩, by simpa using hname, v, _, hv, rfl⟩

/-- A user who is changed keeps the id and the address. -/
theorem update_yields (name : Option String) (role : Value) :
    (update id name role).Yields w fun u w' => w.Enrols (w.store.replaceUser u).users w' ∧
      ∃ v, id.bind w.store.user? = some v ∧ u.id = v.id ∧ u.email = v.email := by
  refine (update_spec name role).mono ?_
  rintro u w' ⟨henrols, -, v, r, hv, rfl⟩
  exact ⟨henrols, v, hv, rfl, rfl⟩

/-- A user who is removed is the one that was asked for, and never the acting user. -/
theorem remove_yields (actingUser : Option String) :
    (remove id actingUser).Yields w fun found w' =>
      if found then ∃ userId, id = some userId ∧ actingUser ≠ some userId ∧
        w.Enrols (w.store.removeUser userId).users w'
      else w.Becomes w' := by
  unfold remove
  simp only
  split
  · exact yields_refuse_bind _
  · next hother =>
    refine yields_query_bind fun _ => ?_
    split
    · exact yields_of_ok rfl ⟨rfl, fun h => h⟩
    · next u hu =>
      obtain ⟨userId, rfl, hfound⟩ := Option.bind_eq_some_iff.mp hu
      -- The user that is deleted is found first; it has the id that was asked for.
      have hid : u.id = userId := by simpa using List.find?_some hfound
      refine yields_of_ok rfl ⟨userId, rfl, ?_, ?_⟩
      · rintro rfl
        simp at hother
      · rw [← hid]
        exact ⟨rfl, fun h => h⟩

/-- The removal of a user leads wherever there is one user less. -/
theorem remove_leads {R : World → World → Prop} (hR : World.Sequential R)
    (hremove : ∀ {w w' : World} {userId : String},
      w.Enrols (w.store.removeUser userId).users w' → R w w') (actingUser : Option String) :
    (remove id actingUser).Leads R := by
  refine .of_yields hR fun w => (remove_yields actingUser).mono fun found w' h => ?_
  cases found with
  | false => exact hR.becomes h
  | true =>
    obtain ⟨userId, -, -, henrols⟩ := h
    exact hremove henrols

/-- Seeding adds the users whose ids are free. -/
theorem seed_yields (us : List User) : (seed us).Yields w fun _ w' =>
    w.Enrols (w.store.users ++ us.filter fun u => (w.store.user? u.id).isNone) w' := by
  unfold seed
  simp only
  split
  · next hnone =>
    rw [List.isEmpty_iff.mp hnone]
    exact yields_of_ok rfl ⟨by simp, fun h => h⟩
  · refine yields_query_bind fun _ => ?_
    -- Ids that are repeated among the new ones fail before the commit; behind it stands only a
    -- note.
    split
    · exact yields_storageFails_bind _
    · split
      · exact yields_of_ok rfl ⟨rfl, fun h => h⟩
      · exact yields_of_ok rfl ⟨rfl, fun h => h⟩

end Directory

/-! ## Apps -/

namespace Apps

variable {d : Document}

theorem requireRow_eq_ok {s : Store} {r : AppRow} :
    requireRow s id = .ok r ↔ id.bind s.app? = some r := by
  unfold requireRow
  cases id.bind s.app? <;> simp

theorem find_reads : (find id).Reads :=
  .bind (.note _ _ _) fun _ => .bind (.query _) fun _ => .settle _

theorem list_reads : list.Reads :=
  .bind (.query _) fun _ => .bind (.settle _) fun _ => .bind (.note _ _ _) fun _ => .pure _

theorem workflow_reads : (workflow id).Reads := .bind find_reads fun _ => .pure _

theorem editorFor_reads : (editorFor id).Reads :=
  .bind workflow_reads fun _ => .bind (fun w => .refl w) fun _ => .pure _

/-- A row reads as an app exactly when its workflow reads as the one of that app. -/
theorem exists_readRow {r : AppRow} :
    (∃ a, readRow r = .ok a ∧ a.workflow = d) ↔ Document.read r.workflow.toValue = .ok d := by
  simp only [readRow, AppRow.read, mapError_eq_ok, map_eq_ok, Checked.toExcept_eq_ok]
  constructor
  · rintro ⟨_, ⟨d', hd', rfl⟩, rfl⟩
    exact hd'
  · intro h
    exact ⟨_, ⟨d, h, rfl⟩, rfl⟩

theorem validateWorkflow_reads {users : Option (List String)} : (validateWorkflow id users).Reads :=
  .bind workflow_reads fun _ => .bind (.write _) fun _ => .pure _

/-- The workflow of an app is the document that its row reads as. -/
theorem workflow_eq_ok : ((workflow id).perform w).1 = .ok d ↔
    w.store.condition = .ready ∧
      ∃ r, id.bind w.store.app? = some r ∧ Document.read r.workflow.toValue = .ok d := by
  simp only [fst_perform_eq_ok, workflow, find, perform_bind_eq_ok, perform_note,
    perform_query_eq_ok, perform_settle, perform_pure, Prod.mk.injEq, Except.ok.injEq,
    ← exists_readRow]
  constructor
  · rintro ⟨w', a, _, ⟨_, _, ⟨-, rfl⟩, _, _, ⟨hready, rfl, rfl⟩, ha, rfl⟩, rfl, rfl⟩
    -- The app is read whole, and its workflow is one part of it.
    obtain ⟨r, hr, hread⟩ := bind_eq_ok.mp ha
    exact ⟨hready, r, requireRow_eq_ok.mp hr, a, hread, rfl⟩
  · rintro ⟨hready, r, hr, a, hread, rfl⟩
    have ha : (requireRow w.store id).bind readRow = .ok a :=
      bind_eq_ok.mpr ⟨r, requireRow_eq_ok.mpr hr, hread⟩
    exact ⟨_, a, _, ⟨(), _, ⟨trivial, rfl⟩, _, _, ⟨hready, rfl, rfl⟩, ha, rfl⟩, rfl, rfl⟩

/-- Where the workflow of an app is found, only notes are written. -/
theorem workflow_writes {w₁ : World} (h : (workflow id).perform w = (.ok d, w₁)) :
    ∃ notes, w₁ = { w with notes := notes } := by
  simp only [workflow, find, perform_bind_eq_ok, perform_note, perform_query_eq_ok,
    perform_settle, perform_pure, Prod.mk.injEq] at h
  obtain ⟨_, _, ⟨_, _, ⟨-, rfl⟩, _, _, ⟨-, -, rfl⟩, -, rfl⟩, -, rfl⟩ := h
  exact ⟨_, rfl⟩

/-- An editor starts with the workflow of its app. -/
theorem editorFor_eq_ok {ed : Editor} (h : (editorFor id).perform w = (.ok ed, w₁)) :
    ((workflow id).perform w).1 = .ok ed.document := by
  simp only [editorFor, perform_bind_eq_ok] at h
  obtain ⟨d, w₂, hd, w₃, _, -, hed⟩ := h
  rw [perform_pure, Prod.mk.injEq, Except.ok.injEq] at hed
  obtain ⟨rfl, -⟩ := hed
  exact fst_perform_eq_ok.mpr ⟨w₂, hd⟩

theorem checkDocument_reads : (checkDocument d).Reads := by
  unfold checkDocument
  refine .bind (.write _) fun _ => ?_
  simp only
  split
  · exact .bind (.note _ _ _) fun _ => .bind (.refuse _) fun _ => by
      split
      · exact .bind (.note _ _ _) fun _ => .pure _
      · exact .pure _
  · split
    · exact .bind (.note _ _ _) fun _ => .pure _
    · exact .pure _

/-- A document that passes the check is linked. -/
theorem linked_of_checkDocument {f : Findings} (h : (checkDocument d).perform w = (.ok f, w₁)) :
    d.Linked := by
  have hvalid : d.validate.report.isValid = true ↔ d.Linked := Document.isValid_validate_iff
  rw [← hvalid]
  by_contra hinvalid
  rw [Bool.not_eq_true] at hinvalid
  -- An invalid document is refused before anything is returned.
  rw [checkDocument, perform_bind_of_ok (perform_write _ _)] at h
  simp only [hinvalid, Bool.not_false, ↓reduceIte, perform_bind, perform_note,
    perform_refuse, Prod.mk.injEq] at h
  cases h.1

/-- A saved workflow takes the place of the old one in the row of its app. -/
theorem saveWorkflow_yields : (saveWorkflow id d).Yields w fun _ w' =>
    w.SparesCases w' ∧ ∃ r, id.bind w.store.app? = some r ∧
      w'.store = w.store.replaceApp { r with workflow := d.kept } := by
  unfold saveWorkflow
  refine yields_query_bind fun _ => yields_settle_bind fun r hr => ?_
  exact yields_of_ok rfl ⟨⟨rfl, rfl, fun h => h⟩, r, requireRow_eq_ok.mp hr, rfl⟩

theorem settleId_reads (o : Founding) : o.settleId.Reads := by
  unfold Founding.settleId
  split
  · exact .pure _
  · exact .draw _

/-- An app that is read from what is told has the id that was settled for it, a name, and the
workflow that is told about it, or the default one. -/
theorem Founding.of_read {o : Founding} {appId : String} {a : App} (h : o.read appId = .ok a) :
    a.id = appId ∧ IsName a.name ∧ a.workflow = o.workflow.getD Seed.defaultWorkflow := by
  unfold Founding.read at h
  simp only at h
  split at h
  · next b hb =>
    simp only [App.readFields, Checked.seq_eq_ok, Checked.map_eq_ok, Fields.require_eq_ok,
      Reader.checking_eq_ok] at hb
    obtain ⟨_, _, ⟨_, _, ⟨_, _, ⟨_, _, ⟨id, ⟨v, hv, hid⟩, rfl⟩, ⟨_, -, s, -, hname⟩, rfl⟩, -, rfl⟩,
      -, rfl⟩, -, rfl⟩ := hb
    rw [← Except.ok.inj h]
    -- The id is the first of the fields.
    obtain rfl : Value.text appId = v := Option.some.inj hv
    exact ⟨(Value.text.inj (Reader.text_eq_ok.mp hid)).symm, isName_of_checkNotBlank hname, rfl⟩
  · cases h

/-- An app that is created is the one that was told about, and its workflow is linked. No app is
stored under its id before. -/
theorem create_spec (o : Founding) : (create o).Yields w fun a w' =>
    w.SparesCases w' ∧ a.workflow.Linked ∧ (∃ appId, o.read appId = .ok a) ∧
      w.store.app? a.id = none ∧ w'.store = w.store.addApp (.ofApp a) := by
  refine (settleId_reads o).bind_yields fun id w₁ _ h₁ => yields_settle_bind fun a ha => ?_
  refine checkDocument_reads.bind_yields fun _ w₂ hcheck h₂ => ?_
  refine (Reads.note _ _ _).bind_yields fun _ w₃ _ h₃ => yields_query_bind fun _ => ?_
  -- Up to the commit nothing is written.
  have h : w.Becomes w₃ := (h₁.trans h₂).trans h₃
  simp only
  split
  · exact yields_refuse_bind _
  · next hfree =>
    rw [h.store_eq, Bool.not_eq_true, Option.isSome_eq_false_iff, Option.isNone_iff_eq_none]
      at hfree
    refine yields_of_ok rfl ⟨?_, linked_of_checkDocument hcheck, ⟨id, ha⟩, hfree, ?_⟩
    · exact h.sparesCases.trans ⟨rfl, rfl, fun h => h⟩
    · rw [← h.store_eq]

/-- The workflow of an app that is created is the one that is told about it, or the default one. -/
theorem create_yields (o : Founding) : (create o).Yields w fun a w' =>
    w.SparesCases w' ∧ a.workflow.Linked ∧ a.workflow = o.workflow.getD Seed.defaultWorkflow ∧
      w.store.app? a.id = none ∧ w'.store = w.store.addApp (.ofApp a) := by
  refine (create_spec o).mono ?_
  rintro a w' ⟨hspares, hlinked, ⟨appId, hread⟩, hstored⟩
  exact ⟨hspares, hlinked, (Founding.of_read hread).2.2, hstored⟩

/-- A workflow that is taken over is linked. -/
theorem replaceWorkflow_yields : (replaceWorkflow id d).Yields w fun _ w' =>
    w.SparesCases w' ∧ d.Linked ∧ ∃ r, id.bind w.store.app? = some r ∧
      w'.store = w.store.replaceApp { r with workflow := d.kept } := by
  refine checkDocument_reads.bind_yields fun f w₁ hcheck h₁ => ?_
  refine saveWorkflow_yields.bind_sure fun _ w₂ h₂ => ⟨f, _, rfl, ?_⟩
  obtain ⟨hspares, hrow⟩ := h₂
  rw [h₁.store_eq] at hrow
  exact ⟨h₁.sparesCases.trans (hspares.trans ⟨rfl, rfl, fun h => h⟩),
    linked_of_checkDocument hcheck, hrow⟩

/-- An app that is removed takes its cases with it; where there is none, nothing changes. -/
theorem remove_yields : (remove id).Yields w fun found w' =>
    (w.clock.Universal → w'.clock.Universal) ∧
      (if found then ∃ appId, id = some appId ∧ w'.store = w.store.removeApp appId
        else w'.store = w.store) := by
  unfold remove
  refine (Reads.note _ _ _).bind_yields fun _ w₁ _ h₁ => yields_query_bind fun _ => ?_
  have hstore := h₁.store_eq
  split
  · exact yields_of_ok rfl ⟨h₁.universal, hstore⟩
  · next r hr =>
    obtain ⟨appId, hid, hfound⟩ := Option.bind_eq_some_iff.mp hr
    -- The app is found under the id before it is deleted under its own.
    have hrid : r.id = appId := by simpa using List.find?_some hfound
    refine yields_of_ok rfl ⟨h₁.universal, appId, hid, ?_⟩
    rw [← hstore, ← hrid]

/-- The removal of an app leads wherever there is one app less. -/
theorem remove_leads {R : World → World → Prop} (hR : World.Sequential R)
    (hremove : ∀ {w w' : World} {appId : String}, w'.store = w.store.removeApp appId → R w w') :
    (remove id).Leads R := by
  refine .of_yields hR fun w => remove_yields.mono fun found w' h => ?_
  obtain ⟨huniversal, hstore⟩ := h
  cases found with
  | false =>
    have hsame : w'.store = w.store := by simpa using hstore
    exact hR.becomes ⟨hsame, huniversal⟩
  | true =>
    obtain ⟨appId, -, hremoved⟩ := hstore
    exact hremove hremoved

/-- The keeper of an editor whose documents are saved. -/
def keeper (id : Option String) (d : Document) (w : World) : Except Failure Unit × World :=
  (saveWorkflow id d).perform w

/-- A command in an editor gives the outcome of the editor in any case; the world is the one that
the keeper leaves, but for ids and notes. -/
private theorem perform_command (id : Option String) (ed : Editor) (c : Command) (w : World) :
    ∃ w₀ ids notes, w.Becomes w₀ ∧
      let ran := ed.run (keeper id) c w₀.ids w₀
      (command id ed c).perform w
        = (.ok (ran.1, ran.2.1), { ran.2.2.2 with ids := ids, notes := notes }) := by
  refine ⟨{ w with notes := w.notes ++ ed.commandNotes c }, ?_⟩
  have hcommand : command id ed c = (write (ed.commandNotes c) >>= fun _ => get >>= _) := rfl
  rw [hcommand, perform_bind_of_ok (perform_write _ _), perform_bind_of_ok (perform_get _)]
  unfold keeper perform
  dsimp only
  -- The editor runs once, and both sides are told by what comes of it.
  generalize ed.run _ c _ _ = ran
  obtain ⟨r | ⟨d, made⟩, ed', ids, w'⟩ := ran
  · exact ⟨_, _, ⟨rfl, fun h => h⟩, rfl⟩
  · cases made <;> exact ⟨_, _, ⟨rfl, fun h => h⟩, rfl⟩

/-- Where a command succeeds with a new document, the editor moves on to it and its app is saved
with it; else the editor and the store stay as they are. -/
theorem command_spec (id : Option String) (ed : Editor) (c : Command) (w : World) : ∃ r ed' w',
    (command id ed c).perform w = (.ok (r, ed'), w') ∧ w.SparesCases w' ∧
      ((ed' = ed ∧ w.Becomes w') ∨
        ∃ d made ids ids' row, c.apply ed.loops ed.document ids = (.ok (d, made), ids') ∧
          r = .ok (d, made) ∧ ed' = { ed with document := d } ∧ id.bind w.store.app? = some row ∧
          w'.store = w.store.replaceApp { row with workflow := d.kept }) := by
  obtain ⟨w₀, ids, notes, h₀, hperform⟩ := perform_command id ed c w
  have hran := Editor.ran_run (keeper id) ed c w₀.ids w₀
  refine ⟨_, _, _, hperform, ?_⟩
  rcases hrun : ed.run (keeper id) c w₀.ids w₀ with ⟨r, ed', ids', w'⟩
  rw [hrun] at hran
  -- The run hands the document to the store at most once, and moves on only if that is done.
  cases hran with
  | idle =>
    have h : w.Becomes { w₀ with ids, notes } := h₀.trans ⟨rfl, fun h => h⟩
    exact ⟨h.sparesCases, .inl ⟨rfl, h⟩⟩
  -- The store refused the document, so the editor stays and nothing was written.
  | refused hkeep =>
    have h : w.Becomes { w' with ids, notes } :=
      (h₀.trans (saveWorkflow_yields.of_error hkeep)).trans ⟨rfl, fun h => h⟩
    exact ⟨h.sparesCases, .inl ⟨rfl, h⟩⟩
  | @kept d made _ _ happly hkeep =>
    obtain ⟨hspares, row, hrow, hstore⟩ := saveWorkflow_yields.of_ok hkeep
    refine ⟨h₀.sparesCases.trans (hspares.trans ⟨rfl, rfl, fun h => h⟩), .inr ?_⟩
    rw [h₀.store_eq] at hrow hstore
    exact ⟨d, made, _, _, row, happly, rfl, rfl, hrow, hstore⟩

/-- A command that is refused, or whose document cannot be saved, leaves the store as it was. -/
theorem command_yields (ed : Editor) (c : Command) :
    (command id ed c >>= fun p => settle p.1).Yields w fun _ w' => w.ChangesApps w' := by
  obtain ⟨r, ed', w', hperform, hspares, hcases⟩ := command_spec id ed c w
  have hsettled := (perform_bind_of_ok (f := fun p => settle p.1) hperform).trans
    (perform_settle r w')
  cases r with
  | ok result =>
    refine yields_of_ok hsettled ?_
    rcases hcases with ⟨-, h⟩ | ⟨_, _, _, _, _, -, -, -, -, hstore⟩
    · exact ⟨by rw [h.store_eq], by rw [h.store_eq], hspares⟩
    · exact ⟨by rw [hstore]; rfl, by rw [hstore, Store.appIds_replaceApp], hspares⟩
  | error f =>
    refine yields_of_error hsettled ?_
    -- A document is saved only by a command that succeeds.
    rcases hcases with ⟨-, h⟩ | ⟨_, _, _, _, _, -, hr, -⟩
    · exact h
    · cases hr

/-- One command on the workflow of an app, in an editor of its own. -/
theorem edit_yields (c : Command) : (edit id c).Yields w fun _ w' => w.ChangesApps w' := by
  refine editorFor_reads.bind_yields fun ed w₁ _ h₁ => ?_
  exact (command_yields ed c).mono fun _ _ h => h₁.changesApps h

/-- An edit runs its command on the document that the row of the app reads as, and keeps what comes
of it in that row; or it leaves the store as it was. -/
theorem edit_spec (id : Option String) (c : Command) (w : World) :
    w.Becomes ((edit id c).perform w).2 ∨ ∃ (row : AppRow) (d d' : Document) (loops : Bool)
      (made : Made) (ids ids' : IdSource), id.bind w.store.app? = some row ∧
        Document.read row.workflow.toValue = .ok d ∧
        c.apply loops d ids = (.ok (d', made), ids') ∧
        ((edit id c).perform w).2.store = w.store.replaceApp { row with workflow := d'.kept } := by
  have hopened : w.Becomes ((editorFor id).perform w).2 := editorFor_reads w
  rcases hopen : (editorFor id).perform w with ⟨f | ed, w₁⟩ <;> rw [hopen] at hopened
  · rw [edit, perform_bind_of_error hopen]
    exact .inl hopened
  · obtain ⟨r, ed', w₂, hcommand, -, hcases⟩ := command_spec id ed c w₁
    rw [edit, perform_bind_of_ok hopen, perform_bind_of_ok hcommand, perform_settle]
    rcases hcases with ⟨-, h⟩ | ⟨d', made, ids, ids', row, happly, -, -, hrow, hstore⟩
    · exact .inl (hopened.trans h)
    · -- The row that is replaced is the one that the editor was opened on.
      obtain ⟨-, row', hrow', hread⟩ := workflow_eq_ok.mp (editorFor_eq_ok hopen)
      rw [hopened.store_eq] at hrow hstore
      rw [hrow, Option.some.injEq] at hrow'
      rw [← hrow'] at hread
      exact .inr ⟨row, _, d', _, made, ids, ids', hrow, hread, happly, hstore⟩

/-- Changing an app commits before the app is read back, so it may change the store and fail. What
it commits is the row of the app with what is given of name, icon and color; a name that is given is
not blank. -/
theorem update_commits {R : World → World → Prop} (hR : World.Sequential R)
    {name icon themeColor : Option String}
    (hrow : name.any blank = false → ∀ (w : World) (r : AppRow), id.bind w.store.app? = some r →
      R w { w with store := w.store.replaceApp { r with
        name := (name.map trim).getD r.name
        icon := icon.getD r.icon
        themeColor := themeColor.getD r.themeColor } }) :
    (update id name icon themeColor).Leads R := by
  unfold update
  simp only
  split
  · exact (Reads.refuse_bind _).leads hR
  · next hname =>
    rw [Bool.not_eq_true] at hname
    intro w
    -- Before the commit the row is looked for, which may fail and changes nothing.
    rcases hquery : (query updating).perform w with ⟨f | s, w₁⟩
    · rw [perform_bind_of_error hquery]
      have h := (Reads.query updating).leads hR w
      rwa [hquery] at h
    · rw [perform_bind_of_ok hquery]
      obtain ⟨-, rfl, rfl⟩ := perform_query_eq_ok.mp hquery
      cases hr : requireRow w₁.store id with
      | error f =>
        rw [perform_bind_of_error (perform_settle _ w₁)]
        exact hR.becomes (.refl w₁)
      | ok r =>
        rw [perform_bind_of_ok (perform_settle _ w₁), perform_bind_of_ok (perform_commit _ w₁)]
        -- After the commit the row is read and a note is made; both change nothing.
        have hrest : ∀ r' : AppRow, ((settle (readRow r') >>= fun a => note .apps .info
            s!"Updated app {a.id}" >>= fun _ => pure a) : Service App).Leads R := fun r' =>
          (Reads.bind (.settle _) fun a => .bind (.note _ _ _) fun _ => .pure _).leads hR
        exact hR.trans (hrow hname w₁ r (requireRow_eq_ok.mp hr)) (hrest _ _)

/-- Whatever an app is changed to, its row keeps its id and its workflow. -/
theorem update_leads {R : World → World → Prop} (hR : World.Sequential R)
    (hrow : ∀ (w : World) (r r' : AppRow), id.bind w.store.app? = some r → r'.id = r.id →
      r'.workflow = r.workflow → R w { w with store := w.store.replaceApp r' })
    (name icon themeColor : Option String) : (update id name icon themeColor).Leads R :=
  update_commits hR fun _ w r hr => hrow w r _ hr rfl rfl

/-- Seeding stops where an app cannot be created, but the apps before it stay. Each has the default
workflow. -/
theorem seed_leads {R : World → World → Prop} (hR : World.Sequential R)
    (hcreate : ∀ o : Founding, o.workflow = none → (create o).Leads R) (as : List Seed.AppSeed) :
    (seed as).Leads R := by
  -- The apps that were created before one fails are not taken back.
  induction as with
  | nil => exact (Reads.pure 0).leads hR
  | cons a as ih =>
    unfold seed
    refine .bind hR (find_reads.attempt.leads hR) fun found => ?_
    split
    · exact ih
    · split
      · refine .bind hR (hcreate _ rfl) fun _ => ?_
        exact .bind hR ih fun n => (Reads.pure _).leads hR
      · exact (Reads.throw _).leads hR

end Apps

/-! ## Cases -/

namespace Cases

variable {c : Case} {d : Document}

theorem requireRow_eq_ok {s : Store} {r : CaseRow} :
    requireRow s id = .ok r ↔ id.bind s.case? = some r := by
  unfold requireRow
  cases id.bind s.case? <;> simp

theorem find_reads : (find id).Reads := .bind (.query _) fun _ => .settle _

theorem list_reads {appId : Option String} : (list appId).Reads :=
  .bind (.query _) fun _ => .bind (.settle _) fun _ => .bind (.note _ _ _) fun _ => .pure _

private theorem rules_reads : rules.Reads := .bind (fun w => .refl w) fun _ => .pure _

theorem stepForm_reads {viewer : Option String} : (stepForm id viewer).Reads :=
  .bind find_reads fun _ => .bind Apps.workflow_reads fun _ =>
    .bind (fun w => .refl w) fun _ => .pure _

theorem stepProgress_reads : (stepProgress id).Reads :=
  .bind find_reads fun _ => .bind Apps.workflow_reads fun _ =>
    .bind (fun w => .refl w) fun _ => .pure _

/-- In a store that is ready, the case with an id is what its row reads as. -/
theorem perform_find (hready : w.store.condition = .ready) :
    (find id).perform w = ((requireRow w.store id).bind readRow, w) := by
  rw [find, perform_bind_of_ok (perform_query_eq_ok.mpr ⟨hready, rfl, rfl⟩), perform_settle]

/-- In a store that is ready, the cases listed are what their rows read as. -/
theorem fst_perform_list (hready : w.store.condition = .ready) (appId : Option String) :
    ((list appId).perform w).1 = (w.store.listCases appId).mapM readRow := by
  rw [list, perform_bind_of_ok (perform_query_eq_ok.mpr ⟨hready, rfl, rfl⟩), perform_bind,
    perform_settle]
  cases (w.store.listCases appId).mapM readRow <;> rfl

/-- A case that is found is read from its row, in a store that is ready. -/
theorem find_eq_ok : (find id).perform w = (.ok c, w₁) ↔ w.store.condition = .ready ∧ w₁ = w ∧
    ∃ row, id.bind w.store.case? = some row ∧ row.read = .ok c := by
  simp only [find, perform_bind_eq_ok, perform_query_eq_ok, perform_settle, Prod.mk.injEq]
  constructor
  · rintro ⟨_, _, ⟨hready, rfl, rfl⟩, hc, rfl⟩
    obtain ⟨row, hrow, hread⟩ := bind_eq_ok.mp hc
    exact ⟨hready, rfl, row, requireRow_eq_ok.mp hrow, mapError_eq_ok.mp hread⟩
  · rintro ⟨hready, rfl, row, hrow, hread⟩
    refine ⟨_, _, ⟨hready, rfl, rfl⟩, bind_eq_ok.mpr ⟨row, requireRow_eq_ok.mpr hrow, ?_⟩, rfl⟩
    exact mapError_eq_ok.mpr hread

/-- A case that is found under an id has a row there. -/
theorem exists_row_of_find {id : String} (h : ((find (some id)).perform w).1 = .ok c) :
    ∃ row, w.store.case? id = some row ∧ row.read = .ok c := by
  obtain ⟨w₁, hfind⟩ := fst_perform_eq_ok.mp h
  exact (find_eq_ok.mp hfind).2.2

/-- The row under an id reads as the case that is found. -/
theorem read_of_find {id : String} {r : CaseRow} (h : ((find (some id)).perform w).1 = .ok c)
    (hrow : w.store.case? id = some r) : r.read = .ok c := by
  obtain ⟨row, hrow', hread⟩ := exists_row_of_find h
  rw [hrow, Option.some.injEq] at hrow'
  rw [hrow']
  exact hread

/-- Saving a case keeps it in the store, where it succeeds. -/
theorem save_yields : (save c).Yields w fun _ w' => w.Keeps c w' := by
  unfold save
  refine yields_query_bind fun _ => ?_
  simp only
  split
  · exact yields_refuse_bind _
  · next happ =>
    rw [Bool.not_eq_true, Option.isNone_eq_false_iff] at happ
    exact yields_of_ok rfl ⟨rfl, happ, fun h => h⟩

/-- A case is opened exactly if the engine opened it. -/
theorem openingOutcome_eq_ok {x : Except Failure Case} : openingOutcome x = .ok c ↔ x = .ok c := by
  unfold openingOutcome
  split <;> simp

theorem checkAssignee_reads (v : Value) : (checkAssignee v).Reads := by
  unfold checkAssignee
  split
  · refine .bind Directory.resolve?_reads fun user => ?_
    split
    · exact .refuse _
    · exact .pure _
  · exact .pure _

/-- A case that is opened at a time of the clock is kept. -/
theorem create_yields (appId : Option String) (o : Case.Opening) :
    (create appId o).Yields w fun c w' => w.Keeps c w' ∧
      ∃ (d : Document) (now : Timestamp) (ids ids' : IdSource),
        (w.clock.Universal → now.Universal) ∧
          Case.opened d { o with appId := .ofText? appId } now ids = (.ok c, ids') := by
  refine Apps.workflow_reads.bind_yields fun d w₁ _ h₁ => ?_
  refine (checkAssignee_reads _).bind_yields fun _ w₂ _ h₂ => ?_
  refine Reads.readClock.bind_yields fun now w₃ hnow h₃ => ?_
  refine (Reads.draw _).bind_yields fun outcome w₄ hdraw h₄ => ?_
  refine yields_settle_bind fun c hc => ?_
  -- The case is the one that was opened at the reading of the clock.
  rw [perform_readClock, Prod.mk.injEq, Except.ok.injEq] at hnow
  rw [perform_draw, Prod.mk.injEq, Except.ok.injEq] at hdraw
  obtain ⟨rfl, -⟩ := hnow
  obtain ⟨rfl, -⟩ := hdraw
  have h : w.Becomes w₄ := ((h₁.trans h₂).trans h₃).trans h₄
  have hopened := openingOutcome_eq_ok.mp hc
  refine save_yields.bind_sure fun _ w₅ h₅ => ⟨c, _, rfl, ?_, d, _, _, _, ?_, Prod.ext hopened rfl⟩
  · exact (h.keeps h₅).trans ⟨rfl, fun h => h⟩
  · exact fun hclock => (h₁.trans h₂).universal hclock

/-- The keeper of completed cases. -/
def keeper (c : Case) (w : World) : Except Failure Unit × World := (save c).perform w

/-- A completion gives the outcome of its rules; the world is the one that the keeper leaves, but
for the notes. -/
theorem perform_run (r : Rules) (c : Case) (d : Document) (q : Completion) (w : World) :
    let ran := r.run keeper c d q w.clock.now { w with clock := r.clockAfter c d q w.clock }
    (get >>= fun w =>
      match r.run (fun c' w => (save c').run w) c d q w.clock.now
        { w with clock := r.clockAfter c d q w.clock } with
      | (outcome, notes, w') => set w' >>= fun _ => write notes >>= fun _ => settle outcome :
      Service Case).perform w
      = (ran.1, { ran.2.2 with notes := ran.2.2.notes ++ ran.2.1 }) := by
  intro ran
  rw [perform_bind_of_ok (perform_get w)]
  exact perform_settle ran.1 _

/-- A step that is completed is completed by the case as it was stored, and the outcome is kept. -/
theorem complete_yields (q : Completion) :
    (complete id q).Yields w fun c' w' => w.Keeps c' w' ∧
      ∃ (row : CaseRow) (c : Case) (d : Document) (r : Rules) (now : Timestamp),
        (w.clock.Universal → now.Universal) ∧ id.bind w.store.case? = some row ∧
          row.read = .ok c ∧ r.complete c d q now = .ok c' := by
  refine find_reads.bind_yields fun c w₁ hfind h₁ => ?_
  refine Apps.workflow_reads.bind_yields fun d w₂ _ h₂ => ?_
  refine rules_reads.bind_yields fun r w₃ _ h₃ => ?_
  refine (Reads.write _).bind_yields fun _ w₄ _ h₄ => ?_
  -- Four services look before the run; the row that the case was read from is still there.
  obtain ⟨-, -, row, hrow, hread⟩ := find_eq_ok.mp hfind
  have h : w.Becomes w₄ := ((h₁.trans h₂).trans h₃).trans h₄
  -- The clock is read before the case is kept, if it is read at all.
  have h₅ : w₄.Becomes { w₄ with clock := r.clockAfter c d q w₄.clock } := by
    refine ⟨rfl, fun hclock => ?_⟩
    show (r.clockAfter c d q w₄.clock).Universal
    unfold Rules.clockAfter
    split
    · exact hclock.tick
    · exact hclock
  have hrest := perform_run r c d q w₄
  cases hcomplete : r.complete c d q w₄.clock.now with
  | error f =>
    simp only [hcomplete, Rules.run] at hrest
    refine yields_of_error hrest ?_
    exact ⟨rfl, h₅.universal⟩
  | ok c' =>
    rcases hsave : (save c').perform { w₄ with clock := r.clockAfter c d q w₄.clock } with
      ⟨f | ⟨⟩, w₆⟩
    · simp only [hcomplete, Rules.run, keeper, hsave] at hrest
      have h₆ := h₅.trans (save_yields.of_error hsave)
      refine yields_of_error hrest ?_
      exact ⟨h₆.store_eq, h₆.universal⟩
    · simp only [hcomplete, Rules.run, keeper, hsave] at hrest
      refine yields_of_ok hrest ⟨?_, row, c, d, r, _, fun hclock => ?_, hrow, hread, hcomplete⟩
      · exact ((h.trans h₅).keeps (save_yields.of_ok hsave)).trans ⟨rfl, fun h => h⟩
      · exact h.universal hclock

/-- A case is kept where the store can be used and its app is there. -/
private theorem save_of_ready (hready : w.store.condition = .ready)
    (happ : (w.store.app? c.appId).isSome = true) : ∃ w', (save c).perform w = (.ok (), w') := by
  have hquery : (query saving).perform w = (.ok w.store, w) :=
    perform_query_eq_ok.mpr ⟨hready, rfl, rfl⟩
  rw [save, perform_bind_of_ok hquery, Option.isNone_eq_false_iff.mpr happ]
  exact ⟨_, rfl⟩

/-- The outcome of a completion is that of the rules, for the case as it is stored, the workflow of
its app, the users of the store, and the rules and the clock of the installation. -/
theorem perform_complete (hc : (find id).perform w = (.ok c, w))
    (hd : ((Apps.workflow (some c.appId)).perform w).1 = .ok d) (q : Completion) :
    ((complete id q).perform w).1 =
      ({ lookup := w.store.user?, strict := w.policy.strict } : Rules).complete c d q
        w.clock.now := by
  obtain ⟨hready, -, -⟩ := find_eq_ok.mp hc
  obtain ⟨-, r, hr, -⟩ := Apps.workflow_eq_ok.mp hd
  obtain ⟨w₁, hworkflow⟩ := fst_perform_eq_ok.mp hd
  obtain ⟨notes, rfl⟩ := Apps.workflow_writes hworkflow
  -- The rules are those of the installation, with its users for a look-up.
  have hrules : rules.perform { w with notes := notes }
      = (.ok { lookup := w.store.user?, strict := w.policy.strict }, { w with notes := notes }) :=
    rfl
  rw [complete, perform_bind_of_ok hc, perform_bind_of_ok hworkflow, perform_bind_of_ok hrules,
    perform_bind_of_ok (perform_write _ _), perform_run]
  dsimp only
  unfold Rules.run
  split
  · next hcomplete => rw [hcomplete]
  · next c' hcomplete =>
    rw [hcomplete]
    -- The case that moved is one of the same app, so it can be kept.
    have hstored : (w.store.app? c'.appId).isSome = true := by
      rw [(Rules.complete_identity hcomplete).2, Option.isSome_iff_exists]
      exact ⟨r, hr⟩
    obtain ⟨w', hsave⟩ := save_of_ready (c := c') (w := { w with
      notes := notes ++ Rules.completeNotes _ c d q, clock := Rules.clockAfter _ c d q w.clock })
      hready hstored
    rw [keeper, hsave]

/-- A completion succeeds exactly when the case is found, with the workflow of its app, and the
rules let it move on. -/
theorem complete_eq_ok {c' : Case} {q : Completion} :
    ((complete id q).perform w).1 = .ok c' ↔
      ∃ c d, (find id).perform w = (.ok c, w) ∧
        ((Apps.workflow (some c.appId)).perform w).1 = .ok d ∧
        ({ lookup := w.store.user?, strict := w.policy.strict } : Rules).complete c d q
          w.clock.now = .ok c' := by
  constructor
  · intro h
    obtain ⟨w', hperform⟩ := fst_perform_eq_ok.mp h
    obtain ⟨c, w₁, hc, hrest⟩ := perform_bind_eq_ok.mp hperform
    -- Finding the case changes nothing, so that the rest starts from the same world.
    obtain ⟨-, rfl, -⟩ := find_eq_ok.mp hc
    obtain ⟨d, w₂, hd, -⟩ := perform_bind_eq_ok.mp hrest
    have hd : ((Apps.workflow (some c.appId)).perform w₁).1 = .ok d :=
      fst_perform_eq_ok.mpr ⟨w₂, hd⟩
    exact ⟨c, d, hc, hd, (perform_complete hc hd q).symm.trans h⟩
  · rintro ⟨c, d, hc, hd, hcomplete⟩
    exact (perform_complete hc hd q).trans hcomplete

/-- A case that is placed on a step is placed as it was stored, and kept there. -/
theorem setStep_yields (stepId : Option String) :
    (setStep id stepId).Yields w fun c' w' => w.Keeps c' w' ∧
      ∃ (row : CaseRow) (c : Case) (d : Document), id.bind w.store.case? = some row ∧
        row.read = .ok c ∧ c.place d stepId = .ok c' := by
  refine find_reads.bind_yields fun c w₁ hfind h₁ => ?_
  refine Apps.workflow_reads.bind_yields fun d w₂ _ h₂ => ?_
  refine yields_settle_bind fun c' hplace => ?_
  obtain ⟨-, -, row, hrow, hread⟩ := find_eq_ok.mp hfind
  refine save_yields.bind_sure fun _ w₃ h₃ => ⟨c', _, rfl, ?_, row, c, d, hrow, hread, ?_⟩
  · exact ((h₁.trans h₂).keeps h₃).trans ⟨rfl, fun h => h⟩
  · exact mapError_eq_ok.mp hplace

/-- Where no case was found, there is no row. -/
private theorem case?_of_isNotFound {id : String} {f : Failure}
    (h : ((find (some id)).perform w).1 = .error f) (hf : f.isNotFound = true) :
    w.store.case? id = none := by
  -- A store that is not ready fails with another error.
  by_cases hready : w.store.condition = .ready
  · rw [perform_find hready, requireRow, Option.bind_some] at h
    cases hrow : w.store.case? id with
    | none => rfl
    | some r =>
      -- A row that cannot be read is another matter.
      simp only [hrow, Except.bind, readRow] at h
      cases hr : r.read with
      | error e =>
        rw [hr, Except.mapError, Except.error.injEq] at h
        rw [← h] at hf
        cases hf
      | ok c =>
        rw [hr] at h
        cases h
  · obtain ⟨w₁, hquery⟩ := perform_query_of_ne (a := retrieving) hready
    rw [find, perform_bind_of_error hquery, Except.error.injEq] at h
    rw [← h] at hf
    cases hf

/-- Seeding keeps cases one after the other, under ids that are free. -/
private theorem seedInto_leads {R : World → World → Prop} (hR : World.Sequential R)
    (appIds : List String)
    {cs : List Case}
    (hkeep : ∀ c ∈ cs, ∀ w w', w.store.case? c.id = none → w.Keeps c w' → R w w') :
    (seedInto appIds cs).Leads R := by
  -- The cases are gone through in order; what one of them did is a step before the others.
  induction cs with
  | nil => exact (Reads.pure 0).leads hR
  | cons c cs ih =>
    rw [List.forall_mem_cons] at hkeep
    have ih := ih hkeep.2
    unfold seedInto
    split
    · exact .bind hR ((Reads.note _ _ _).leads hR) fun _ => ih
    · intro w
      rcases hfound : (find (some c.id)).perform w with ⟨found, w₁⟩
      -- The look-up is attempted, so that its failure is a value to decide by.
      have hattempt : (attempt (find (some c.id))).perform w = (.ok found, w₁) := by
        rw [perform_attempt, hfound]
      have hbecomes : w.Becomes w₁ := by
        have hreads : w.Becomes ((find (some c.id)).perform w).2 := find_reads w
        rwa [hfound] at hreads
      have hfirst : R w w₁ := hR.becomes hbecomes
      rw [perform_bind_of_ok hattempt]
      cases found with
      | ok _ => exact hR.trans hfirst (ih w₁)
      | error f =>
        dsimp only
        split
        · next hnone =>
          -- The case is kept only where there was none.
          have hfree : w₁.store.case? c.id = none := by
            rw [hbecomes.store_eq]
            exact case?_of_isNotFound (congrArg Prod.fst hfound) hnone
          have hrest : R w₁ ((save c >>= fun _ => seedInto appIds cs >>= fun n => pure (n + 1) :
              Service Nat).perform w₁).2 :=
            save_yields.bind_leads hR (fun _ w' h => hkeep.1 w₁ w' hfree h)
              fun _ => .bind hR ih fun n => (Reads.pure _).leads hR
          exact hR.trans hfirst hrest
        · exact hfirst

theorem seed_leads {R : World → World → Prop} (hR : World.Sequential R) {cs : List Case}
    (hkeep : ∀ c ∈ cs, ∀ w w', w.store.case? c.id = none → w.Keeps c w' → R w w') :
    (seed cs).Leads R :=
  .bind hR (Apps.list_reads.leads hR) fun apps => seedInto_leads hR (apps.map (·.id)) hkeep

end Cases

end CaseFlow
