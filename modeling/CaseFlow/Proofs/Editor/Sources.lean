import CaseFlow.Proofs.Editor.Checking

/-!
# What readonly fields show

A readonly field names the field that it shows. When a form is given to a task, the fields that are
named in it have to be there (`Document.FormGiven.mem_fieldIds_of_shows`). Of the forms of other
nodes nothing is asked. So a field may lose the id under which other nodes show it, and they are
left with nothing to show, while on the same form that is refused. Which readonly fields an update
leaves behind is settled by that, and validation warns of each of them
(`Document.Accepted.resolves_updateFormField`).
-/

namespace CaseFlow

namespace Document

variable {d d' : Document} {n : Node} {form : Form} {nodeId fieldId owner : String} {patch : Fields}
  {f g : FormField}

/-- The field that a field names as its source is a field of the document. -/
def Resolves (d : Document) (g : FormField) : Prop := ∃ s, g.source = some s ∧ s ∈ d.fieldIds

/-- No field of a document that was read has an empty id. -/
private theorem Accepted.fieldId_ne_empty (hd : d.Accepted) {id : String} (hid : id ∈ d.fieldIds) :
    id ≠ "" := by
  obtain ⟨v, hv⟩ := hd
  obtain ⟨owner, f, howned, rfl⟩ := mem_fieldIds.mp hid
  obtain ⟨n, hn, -, hf⟩ := mem_ownedFields.mp howned
  exact ((read_normal hv).1.fieldId_isId n hn f hf).1.2

/-- Validation warns of a readonly field that shows none of the fields of the document. -/
private theorem warning_of_shows {s : String} (hg : (owner, g) ∈ d.ownedFields) (hshows : g.Shows s)
    (hs : s ∉ d.fieldIds) (users : Option (List String)) :
    (Smell.unknownSource g.id owner s).text ∈ (d.validate users).report.warnings := by
  refine List.mem_map_of_mem (List.mem_append_right _ (List.mem_flatMap.mpr ⟨_, hg, ?_⟩))
  simp [fieldSmells, hshows.source_eq, hshows.readonly, hshows.id_ne, hs]

/-! ## The fields of a document with another form -/

/-- The fields with the id of a node are those of the node. -/
theorem Sound.mem_ownedFields_id (hd : d.Sound) (hn : n ∈ d.nodes) :
    (n.id, g) ∈ d.ownedFields ↔ g ∈ n.fields := by
  rw [mem_ownedFields]
  constructor
  · rintro ⟨m, hm, hid, hg⟩
    exact hd.eq_of_id hm hn hid ▸ hg
  · exact fun hg => ⟨n, hn, rfl, hg⟩

/-- Fields on different nodes have different ids. -/
private theorem Sound.owner_unique (hd : d.Sound) {owner' : String}
    (hf : (owner, f) ∈ d.ownedFields)
    (hg : (owner', g) ∈ d.ownedFields) (hid : f.id = g.id) : owner = owner' := by
  obtain ⟨m, hm, rfl, hmf⟩ := mem_ownedFields.mp hf
  obtain ⟨n, hn, rfl, hng⟩ := mem_ownedFields.mp hg
  have hmem : f.id ∈ n.fields.map (·.id) := hid ▸ List.mem_map_of_mem hng
  rw [hd.eq_of_field hm hn (List.mem_map_of_mem hmf) hmem]

/-- A document in which a form was given to a node has the fields of the form there, and those that
it had on other nodes. -/
theorem FormGiven.mem_ownedFields (h : d.FormGiven n form d') (hn : n ∈ d.nodes) :
    (owner, g) ∈ d'.ownedFields ↔
      (owner = n.id ∧ g ∈ form.fields) ∨ (owner ≠ n.id ∧ (owner, g) ∈ d.ownedFields) := by
  obtain ⟨-, -, rfl⟩ := h
  have hid : n.id ∈ d.nodeIds := List.mem_map_of_mem hn
  simp only [Document.mem_ownedFields, mem_replaced_iff]
  constructor
  · rintro ⟨m, ⟨rfl, -⟩ | ⟨hm, hne⟩, rfl, hg⟩
    · exact .inl ⟨rfl, hg⟩
    · exact .inr ⟨hne, m, hm, rfl, hg⟩
  · rintro (⟨rfl, hg⟩ | ⟨hne, m, hm, rfl, hg⟩)
    · exact ⟨_, .inl ⟨rfl, hid⟩, rfl, hg⟩
    · exact ⟨m, .inr ⟨hm, hne⟩, rfl, hg⟩

/-- Whatever a form that was given shows is there. -/
theorem FormGiven.mem_fieldIds_of_shows (h : d.FormGiven n form d') (hn : n ∈ d.nodes)
    (hg : g ∈ form.fields) {s : String} (hshows : g.Shows s) : s ∈ d'.fieldIds := by
  obtain ⟨-, hs⟩ := h.admits.sources g hg s hshows
  rw [mem_fieldIds]
  rcases hs with hs | ⟨m, hm, hne, hs⟩
  · obtain ⟨x, hx, rfl⟩ := List.mem_map.mp hs
    exact ⟨n.id, x, (h.mem_ownedFields hn).mpr (.inl ⟨rfl, hx⟩), rfl⟩
  · obtain ⟨x, hx, rfl⟩ := List.mem_map.mp hs
    exact ⟨m.id, x, (h.mem_ownedFields hn).mpr
      (.inr ⟨hne, Document.mem_ownedFields.mpr ⟨m, hm, rfl, hx⟩⟩), rfl⟩

/-! ## Changing a field -/

/-- Document `d'` is document `d` with field `f` on a node in place of the one that had the given
id. -/
structure FieldChanged (d : Document) (nodeId fieldId : String) (f : FormField) (d' : Document) :
    Prop where
  /-- All other fields are kept. -/
  mem_iff : ∀ owner g, (owner, g) ∈ d'.ownedFields ↔
    (owner = nodeId ∧ g = f) ∨ ((owner, g) ∈ d.ownedFields ∧ g.id ≠ fieldId)
  /-- What is shown on the node is there. -/
  shown : ∀ g, (nodeId, g) ∈ d'.ownedFields → ∀ s, g.Shows s → s ∈ d'.fieldIds

/-- An update that succeeds changes a field to what the patch makes of it. -/
private theorem Sound.fieldChanged (hd : d.Sound)
    (h : d.updateFormField nodeId fieldId patch = .ok d') :
    ∃ old f, (nodeId, old) ∈ d.ownedFields ∧ old.id = fieldId ∧
      FormField.read (.object (old.toFields.merge patch)) = .ok f ∧
      d.FieldChanged nodeId fieldId f d' := by
  obtain ⟨n, form, old, f, hfound, hform, hfield, hf, hgiven⟩ := hd.updateFormField_eq_ok_iff.mp h
  obtain ⟨hn, rfl⟩ := mem_of_node? hfound
  have hfields := Node.fields_of_form hform
  have hold : old ∈ form.fields := List.mem_of_find?_eq_some hfield
  have hid : old.id = fieldId := by simpa using List.find?_some hfield
  -- The field is one of the node's, and by its id it is no other node's.
  have howned : (n.id, old) ∈ d.ownedFields := (hd.mem_ownedFields_id hn).mpr (hfields ▸ hold)
  have hmem : fieldId ∈ form.fields.map (·.id) := hid ▸ List.mem_map_of_mem hold
  refine ⟨old, f, howned, hid, hf, fun owner g => ?_, fun g hg s hshows => ?_⟩
  · rw [hgiven.mem_ownedFields hn, mem_map_key_iff, and_iff_left hmem]
    by_cases howner : owner = n.id
    · subst howner
      simp [hd.mem_ownedFields_id hn, hfields]
    · -- The field that was changed is on another node than this one.
      have hne (hg : (owner, g) ∈ d.ownedFields) : g.id ≠ fieldId :=
        fun heq => howner (hd.owner_unique hg howned (heq.trans hid.symm))
      simpa [howner] using hne
  · rcases (hgiven.mem_ownedFields hn).mp hg with ⟨-, hg⟩ | ⟨hne, -⟩
    · exact hgiven.mem_fieldIds_of_shows hn hg hshows
    · exact absurd rfl hne

/-- The ids of fields after one was changed are the new one and those of the others. -/
theorem FieldChanged.mem_fieldIds (h : d.FieldChanged nodeId fieldId f d') {id : String} :
    id ∈ d'.fieldIds ↔ id = f.id ∨ (id ∈ d.fieldIds ∧ id ≠ fieldId) := by
  simp only [Document.mem_fieldIds, h.mem_iff]
  constructor
  · rintro ⟨owner, g, ⟨-, rfl⟩ | ⟨hg, hne⟩, rfl⟩
    · exact .inl rfl
    · exact .inr ⟨⟨owner, g, hg, rfl⟩, hne⟩
  · rintro (rfl | ⟨⟨owner, g, hg, rfl⟩, hne⟩)
    · exact ⟨nodeId, f, .inl ⟨rfl, rfl⟩, rfl⟩
    · exact ⟨owner, g, .inr ⟨hg, hne⟩, rfl⟩

/-- A field that had a source has none any more exactly if it named the field that was changed, and
that has another id now. -/
private theorem FieldChanged.not_resolves_iff (h : d.FieldChanged nodeId fieldId f d')
    (hg : d.Resolves g) : ¬d'.Resolves g ↔ g.source = some fieldId ∧ f.id ≠ fieldId := by
  obtain ⟨s, hs, hmem⟩ := hg
  simp only [Resolves, hs, Option.some.injEq, exists_eq_left', h.mem_fieldIds, not_or, not_and_or,
    not_not, hmem, not_true, false_or]
  constructor
  · rintro ⟨hne, rfl⟩
    exact ⟨rfl, Ne.symm hne⟩
  · rintro ⟨rfl, hne⟩
    exact ⟨Ne.symm hne, rfl⟩

/-- An update that gives a field another id may leave readonly fields of other nodes without the
field that they showed; validation warns of them then. Other readonly fields are left as they were
and keep what they show, so the update is refused if one on the same node shows the field. -/
theorem Accepted.resolves_updateFormField (hd : d.Accepted)
    (h : d.updateFormField nodeId fieldId patch = .ok d') :
    ∃ old f, (nodeId, old) ∈ d.ownedFields ∧ old.id = fieldId ∧
      FormField.read (.object (old.toFields.merge patch)) = .ok f ∧
      ∀ owner g, (owner, g) ∈ d.ownedFields → g.isReadonly = true → g.id ≠ fieldId →
        d.Resolves g →
        (owner, g) ∈ d'.ownedFields ∧
        (¬d'.Resolves g ↔ owner ≠ nodeId ∧ g.source = some fieldId ∧ f.id ≠ fieldId) ∧
        (owner = nodeId → g.source = some fieldId → f.id = fieldId) ∧
        (¬d'.Resolves g → ∀ users,
          (Smell.unknownSource g.id owner fieldId).text ∈ (d'.validate users).report.warnings) := by
  obtain ⟨old, f, hold, hid, hf, hchanged⟩ := hd.sound.fieldChanged h
  refine ⟨old, f, hold, hid, hf, fun owner g hg hreadonly hne hresolves => ?_⟩
  have hkept : (owner, g) ∈ d'.ownedFields := (hchanged.mem_iff owner g).mpr (.inr ⟨hg, hne⟩)
  have hiff := hchanged.not_resolves_iff hresolves
  have hshows {s : String} (hs : g.source = some s) : g.Shows s := by
    obtain ⟨t, ht, hmem⟩ := hresolves
    obtain rfl := Option.some.inj (hs.symm.trans ht)
    exact ⟨hreadonly, hs, hd.fieldId_ne_empty hmem⟩
  -- What is shown on the node itself was looked at by the check.
  have hsame (howner : owner = nodeId) : d'.Resolves g := by
    obtain ⟨s, hs, -⟩ := id hresolves
    exact ⟨s, hs, hchanged.shown g (howner ▸ hkept) s (hshows hs)⟩
  refine ⟨hkept, ⟨fun hno => ⟨mt hsame hno, hiff.mp hno⟩, fun hlost => hiff.mpr hlost.2⟩, ?_, ?_⟩
  · -- A reader on the same node would have lost its source, and has not.
    intro howner hs
    by_contra hrenamed
    exact hiff.mpr ⟨hs, hrenamed⟩ (hsame howner)
  · intro hno users
    obtain ⟨hs, -⟩ := hiff.mp hno
    exact warning_of_shows hkept (hshows hs) (fun hmem => hno ⟨fieldId, hs, hmem⟩) users

end Document

/-! ## Notes that become remarks -/

namespace Sample

/-- The field of the review that shows the notes of the draft. -/
def shownNotes : FormField :=
  { id := "shown-notes", label := "Notes", type := .readonly, source := some "notes" }

/-- The notes of the draft under another id. -/
def remarks : FormField :=
  { id := "remarks", label := "Notes", type := .textarea, required := true }

/-- The sample workflow in which the draft has remarks instead of notes. -/
def renamed : Document :=
  { workflow with nodes := workflow.nodes.map fun n =>
      if n.id == "draft" then { n with form := some { fields := [remarks] } } else n }

theorem resolves_shownNotes : workflow.Resolves shownNotes := ⟨"notes", rfl, by decide⟩

theorem not_resolves_shownNotes : ¬renamed.Resolves shownNotes := by
  rintro ⟨s, hs, hmem⟩
  obtain rfl := Option.some.inj hs
  exact absurd hmem (by decide)

end Sample

/-- The notes of the draft become remarks, and the review shows nothing; a warning says so. -/
theorem Document.resolves_updateFormField_sample :
    Sample.workflow.updateFormField "draft" "notes" [("id", .text "remarks")] = .ok Sample.renamed ∧
    ("review", Sample.shownNotes) ∈ Sample.renamed.ownedFields ∧
    ∀ users, "Read-only field 'shown-notes' on 'review' references unknown field 'notes'" ∈
      (Sample.renamed.validate users).report.warnings := by
  have hupdate : Sample.workflow.updateFormField "draft" "notes" [("id", .text "remarks")]
      = .ok Sample.renamed := rfl
  obtain ⟨_, _, -, -, -, hothers⟩ :=
    Accepted.resolves_updateFormField Sample.accepted_workflow hupdate
  obtain ⟨hkept, -, -, hwarning⟩ :=
    hothers "review" Sample.shownNotes (by decide) rfl (by decide) Sample.resolves_shownNotes
  exact ⟨hupdate, hkept, hwarning Sample.not_resolves_shownNotes⟩

/-- Not every readonly field keeps what it shows when another field is updated: the shown notes of
the review do not. -/
theorem Document.updateFormField_not_resolves :
    ¬∀ (d d' : Document) (nodeId fieldId : String) (patch : Fields), d.Accepted →
      d.updateFormField nodeId fieldId patch = .ok d' →
      ∀ owner g, (owner, g) ∈ d.ownedFields → g.isReadonly = true → g.id ≠ fieldId →
        d.Resolves g → d'.Resolves g := by
  intro h
  refine Sample.not_resolves_shownNotes (h Sample.workflow Sample.renamed "draft" "notes"
    [("id", .text "remarks")] Sample.accepted_workflow rfl "review" Sample.shownNotes ?_ rfl ?_
    Sample.resolves_shownNotes)
  · decide
  · decide

end CaseFlow
