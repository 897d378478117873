import CaseFlow.Proofs.Editor.Structure
import CaseFlow.Proofs.Workflow.NormalForm

/-!
# Forms that pass their check

Four commands give a form to a task: its mode is set, a field is added or changed, or a patch gives
it as a whole. However the form comes about, one check is made of all its fields, the ones that the
command does not name included, against the fields of all other nodes. The fields that pass it are
those that the document admits (`Document.Admits`), and nothing else can go wrong once the arguments
of the command are read: it succeeds exactly if they are admitted (`Command.formEdit_iff`).
-/

namespace CaseFlow

variable {d d' : Document} {n m : Node} {form : Form} {nodeId id : String} {v : Value}

/-- A readonly field shows the field with the given id. -/
structure FormField.Shows (f : FormField) (id : String) : Prop where
  /-- The field is readonly. -/
  readonly : f.isReadonly = true
  /-- The id is its source. -/
  source_eq : f.source = some id
  /-- An empty source stands for none. -/
  id_ne : id ≠ ""

namespace Document

/-! ## What the check asks for -/

/-- A node other than the given one has a field with the given id. -/
def Elsewhere (d : Document) (nodeId id : String) : Prop :=
  ∃ m ∈ d.nodes, m.id ≠ nodeId ∧ id ∈ m.fields.map (·.id)

/-- Fields that a node of the document may have. -/
structure Admits (d : Document) (nodeId : String) (fields : List FormField) : Prop where
  /-- No two of them share an id. -/
  ids_nodup : (fields.map (·.id)).Nodup
  /-- No other node has a field with one of their ids. -/
  ids_new : ∀ f ∈ fields, ¬d.Elsewhere nodeId f.id
  /-- A select field has options. -/
  options : ∀ f ∈ fields, f.HasOptions
  /-- A readonly field shows another field, of these or of another node. -/
  sources : ∀ f ∈ fields, ∀ s, f.Shows s →
    s ≠ f.id ∧ (s ∈ fields.map (·.id) ∨ d.Elsewhere nodeId s)

/-- The foreign field ids are those of the fields on other nodes. -/
theorem mem_foreignFieldIds : id ∈ d.foreignFieldIds nodeId ↔ d.Elsewhere nodeId id := by
  simp only [foreignFieldIds, Elsewhere, List.mem_map, List.mem_filter, Prod.exists,
    mem_ownedFields, bne_iff_ne]
  constructor
  · rintro ⟨_, f, ⟨⟨m, hm, rfl, hf⟩, hne⟩, rfl⟩
    exact ⟨m, hm, hne, f, hf, rfl⟩
  · rintro ⟨m, hm, hne, f, hf, rfl⟩
    exact ⟨m.id, f, ⟨⟨m, hm, rfl, hf⟩, hne⟩, rfl⟩

/-- The first field whose id is in use has the first id that is repeated. -/
private theorem map_id_clash? {taken : List String} {fields : List FormField} :
    (clash? taken fields).map (·.id) = firstRepeated? taken (fields.map (·.id)) := by
  induction fields generalizing taken with
  | nil => rfl
  | cons f rest ih =>
    rw [clash?, List.map_cons, firstRepeated?]
    split
    · rfl
    · exact ih

/-- Nothing is wrong with a field that has its options and shows, if anything, another field. -/
private theorem fieldError?_eq_none_iff {known : List String} {f : FormField} :
    fieldError? nodeId known f = none ↔
      f.HasOptions ∧ ∀ s, f.Shows s → s ≠ f.id ∧ s ∈ known := by
  unfold fieldError?
  -- A select field without options is refused before its source is looked at.
  by_cases hoptions : f.HasOptions
  · have hpass : ¬(f.type == .select && (f.options.getD []).isEmpty) = true := by
      simpa [FormField.HasOptions] using hoptions
    rw [if_neg hpass]
    simp only [hoptions, true_and]
    cases hsource : f.source with
    | none => simpa using fun s hs => nomatch hsource.symm.trans hs.source_eq
    | some source =>
      -- Only a read-only field shows its source, and only where that is not empty.
      have hshows (s : String) : f.Shows s ↔ f.isReadonly = true ∧ s = source ∧ source ≠ "" := by
        constructor
        · rintro ⟨hreadonly, hs, hne⟩
          obtain rfl := Option.some.inj (hsource.symm.trans hs)
          exact ⟨hreadonly, rfl, hne⟩
        · rintro ⟨hreadonly, rfl, hne⟩
          exact ⟨hreadonly, hsource, hne⟩
      simp only [hshows, ite_eq_right_iff, reduceCtorEq, imp_false]
      by_cases hreadonly : f.isReadonly = true <;> by_cases hempty : source = "" <;>
        simp [hreadonly, hempty, and_comm]
  · have hfail : (f.type == .select && (f.options.getD []).isEmpty) = true := by
      simpa [FormField.HasOptions] using hoptions
    rw [if_pos hfail]
    simp [hoptions]

/-- The check passes exactly the fields that the document admits. -/
theorem checkFields_eq_ok {fields : List FormField} :
    d.checkFields nodeId fields = .ok () ↔ d.Admits nodeId fields := by
  -- The check goes through the fields twice: first for their ids, and then for all the rest.
  have hclash : clash? (d.foreignFieldIds nodeId) fields = none ↔
      (fields.map (·.id)).Nodup ∧ ∀ f ∈ fields, ¬d.Elsewhere nodeId f.id := by
    rw [← Option.map_eq_none_iff, map_id_clash?, firstRepeated?_eq_none_iff]
    simp [mem_foreignFieldIds]
  have hfields : fields.findSome? (fieldError? nodeId (d.foreignFieldIds nodeId ++
      fields.map (·.id))) = none ↔ (∀ f ∈ fields, f.HasOptions) ∧ ∀ f ∈ fields, ∀ s, f.Shows s →
        s ≠ f.id ∧ (s ∈ fields.map (·.id) ∨ d.Elsewhere nodeId s) := by
    rw [List.findSome?_eq_none_iff, ← forall₂_and]
    refine forall₂_congr fun f _ => ?_
    simp only [fieldError?_eq_none_iff, List.mem_append, mem_foreignFieldIds, or_comm]
  unfold checkFields
  dsimp only
  constructor
  · intro h
    split at h
    · simp at h
    · next hc =>
      split at h
      · simp at h
      · next hf =>
        obtain ⟨hnodup, hnew⟩ := hclash.mp hc
        obtain ⟨hoptions, hsources⟩ := hfields.mp hf
        exact ⟨hnodup, hnew, hoptions, hsources⟩
  · intro h
    -- Both rounds pass, so that the check does.
    simp only [hclash.mpr ⟨h.ids_nodup, h.ids_new⟩, hfields.mpr ⟨h.options, h.sources⟩]

instance (d : Document) (nodeId : String) (fields : List FormField) :
    Decidable (d.Admits nodeId fields) :=
  decidable_of_iff ((d.checkFields nodeId fields).isOk = true) <| by
    rw [← checkFields_eq_ok, isOk_eq_true]
    exact ⟨fun ⟨⟨⟩, h⟩ => h, fun h => ⟨(), h⟩⟩

/-! ## Replacing a node -/

/-- A node of the document with one replaced is the new one, or one with another id. -/
theorem mem_replaced_iff : n ∈ d.replaced m ↔
    (n = m ∧ m.id ∈ d.nodeIds) ∨ (n ∈ d.nodes ∧ n.id ≠ m.id) :=
  mem_map_key_iff

/-- Replacing a node changes none of the fields of the others. -/
@[simp]
theorem elsewhere_replaced :
    ({ d with nodes := d.replaced m } : Document).Elsewhere m.id id ↔ d.Elsewhere m.id id := by
  unfold Elsewhere
  refine exists_congr fun x => ?_
  simp only [mem_replaced_iff]
  constructor
  · rintro ⟨⟨rfl, -⟩ | ⟨hx, -⟩, hne, hid⟩
    · exact absurd rfl hne
    · exact ⟨hx, hne, hid⟩
  · rintro ⟨hx, hne, hid⟩
    exact ⟨.inr ⟨hx, hne⟩, hne, hid⟩

/-- Replacing a node does not change what may stand on it, since only the other nodes matter. -/
theorem admits_replaced {fields : List FormField} :
    ({ d with nodes := d.replaced m } : Document).Admits m.id fields ↔ d.Admits m.id fields := by
  constructor
  · rintro ⟨hnodup, hnew, hoptions, hsources⟩
    exact ⟨hnodup, by simpa using hnew, hoptions, by simpa using hsources⟩
  · rintro ⟨hnodup, hnew, hoptions, hsources⟩
    exact ⟨hnodup, by simpa using hnew, hoptions, by simpa using hsources⟩

/-- Field ids are distinct in a document if they are on each of its nodes and no two nodes share
one. -/
private theorem fieldIds_nodup_of (hids : d.nodeIds.Nodup)
    (hnodes : ∀ n ∈ d.nodes, (n.fields.map (·.id)).Nodup)
    (howner : ∀ n ∈ d.nodes, ∀ id ∈ n.fields.map (·.id), ¬d.Elsewhere n.id id) :
    d.fieldIds.Nodup := by
  rw [fieldIds_eq_flatMap, List.nodup_flatMap]
  refine ⟨hnodes, ?_⟩
  have hne : d.nodes.Pairwise fun a b => a.id ≠ b.id := List.pairwise_map.mp hids
  refine hne.imp_of_mem fun {a b} ha hb hab id hida hidb => ?_
  exact howner a ha id hida ⟨b, hb, hab.symm, hidb⟩

/-- No field of a node of a sound document is on another node, too. -/
theorem Sound.not_elsewhere (hd : d.Sound) (hn : n ∈ d.nodes) (hid : id ∈ n.fields.map (·.id)) :
    ¬d.Elsewhere n.id id := by
  rintro ⟨x, hx, hne, hidx⟩
  exact hne (congrArg Node.id (hd.eq_of_field hx hn hidx hid))

/-- Replacing a node succeeds if the fields of the new one have distinct ids that no other node
uses. -/
theorem Sound.replaceNode_eq_ok_iff (hd : d.Sound) (hid : m.id = n.id)
    (hnodup : (m.fields.map (·.id)).Nodup)
    (hnew : ∀ id ∈ m.fields.map (·.id), ¬d.Elsewhere n.id id) :
    d.replaceNode m = .ok d' ↔ { d with nodes := d.replaced m } = d' := by
  rw [replaceNode_eq_ok, and_iff_left_iff_imp]
  rintro rfl
  refine brokenRule?_eq_none_iff.mpr ⟨by simpa using hd.nodeIds_nodup, hd.edgeIds_nodup, ?_⟩
  -- Of two nodes with a field id in common one would be the new node, of which that is excluded.
  refine fieldIds_nodup_of (by simpa using hd.nodeIds_nodup) (fun x hx => ?_) fun x hx id hidx => ?_
  · rcases mem_replaced hx with rfl | hx
    · exact hnodup
    · exact hd.fields_nodup hx
  · rcases mem_replaced_iff.mp hx with ⟨rfl, -⟩ | ⟨hxd, hne⟩
    · rw [elsewhere_replaced, hid]
      exact hnew id hidx
    · rintro ⟨y, hy, hyx, hidy⟩
      rcases mem_replaced_iff.mp hy with ⟨rfl, -⟩ | ⟨hyd, -⟩
      · exact hnew id hidy ⟨x, hxd, hid ▸ hne, hidx⟩
      · exact hd.not_elsewhere hxd hidx ⟨y, hyd, hyx, hidy⟩

/-! ## Giving a form to a task -/

/-- Document `d'` is document `d` with a form given to task `n`, whose fields are admitted. -/
structure FormGiven (d : Document) (n : Node) (form : Form) (d' : Document) : Prop where
  /-- The node is a task. -/
  task : n.type = .task
  /-- The fields pass the check. -/
  admits : d.Admits n.id form.fields
  /-- Only the form of the node is new. -/
  eq : { d with nodes := d.replaced { n with form := some form } } = d'

/-- A form is given to a task exactly if its fields are admitted. -/
theorem Sound.withForm_eq_ok_iff (hd : d.Sound) :
    d.withForm n form = .ok d' ↔ d.FormGiven n form d' := by
  -- Fields that are admitted have ids that are new, so that no rule of the document breaks.
  have hreplace (hadmits : d.Admits n.id form.fields) :
      d.replaceNode { n with form := some form } = .ok d' ↔
        { d with nodes := d.replaced { n with form := some form } } = d' := by
    refine hd.replaceNode_eq_ok_iff (n := n) rfl hadmits.ids_nodup fun id hid => ?_
    obtain ⟨f, hf, rfl⟩ := List.mem_map.mp hid
    exact hadmits.ids_new f hf
  -- The kind of the node is looked at first, and then the fields.
  unfold withForm
  constructor
  · intro h
    split at h
    · simp at h
    · next htask =>
      split at h
      · cases h
      · next hcheck =>
        have hadmits := checkFields_eq_ok.mp hcheck
        exact ⟨by simpa using htask, hadmits, (hreplace hadmits).mp h⟩
  · rintro ⟨htask, hadmits, heq⟩
    rw [if_neg (by simpa using htask), checkFields_eq_ok.mpr hadmits]
    exact (hreplace hadmits).mpr heq

/-! ## The commands that do so -/

/-- The mode of a form is set as a new form with the same fields is given. -/
theorem Sound.setFormMode_eq_ok_iff (hd : d.Sound) :
    d.setFormMode nodeId v = .ok d' ↔
      ∃ n mode, d.node? nodeId = some n ∧ Reader.choice v = .ok mode ∧
        d.FormGiven n ⟨mode, n.fields⟩ d' := by
  simp only [setFormMode_eq_ok, hd.withForm_eq_ok_iff]

/-- A field is added as a form with one more field is given. -/
theorem Sound.addFormField_eq_ok_iff (hd : d.Sound) :
    d.addFormField nodeId v = .ok d' ↔
      ∃ n form f, d.node? nodeId = some n ∧ n.form = some form ∧ FormField.read v = .ok f ∧
        d.FormGiven n { form with fields := form.fields ++ [f] } d' := by
  simp only [addFormField_eq_ok, hd.withForm_eq_ok_iff]

/-- A field is changed as a form is given in which it is what its patch makes of it. -/
theorem Sound.updateFormField_eq_ok_iff (hd : d.Sound) {fieldId : String} {patch : Fields} :
    d.updateFormField nodeId fieldId patch = .ok d' ↔
      ∃ n form old f, d.node? nodeId = some n ∧ n.form = some form ∧
        form.field? fieldId = some old ∧
        FormField.read (.object (old.toFields.merge patch)) = .ok f ∧
        d.FormGiven n { form with
          fields := form.fields.map fun g => if g.id == fieldId then f else g } d' := by
  simp only [updateFormField_eq_ok, hd.withForm_eq_ok_iff]

/-- The form that a patch leaves on a node. -/
inductive FormPatched (d : Document) (n : Node) (patch : Fields) : Option Form → Prop
  /-- The form is not named. -/
  | kept (h : patch.get? "form" = none) : FormPatched d n patch n.form
  /-- The form is taken away. -/
  | removed (h : patch.get? "form" = some .null) : FormPatched d n patch none
  /-- A form is given to a task, and its fields are admitted. -/
  | given {v : Value} {form : Form} (h : patch.get? "form" = some v)
      (hread : Form.read v = .ok form) (htask : n.type = .task)
      (hadmits : d.Admits n.id form.fields) : FormPatched d n patch (some form)

/-- A node that is replaced first and given a form then is given the form, if the first replacement
leaves its fields as they are. -/
private theorem Sound.replaceNode_withForm_eq_ok_iff (hd : d.Sound) (hn : n ∈ d.nodes)
    (hm : n.EditedTo m)
    (hfields : m.fields = n.fields) :
    (d.replaceNode m >>= fun d₁ => d₁.withForm m form) = .ok d' ↔ d.FormGiven m form d' := by
  -- The first replacement leaves all field ids as they were, so it goes through.
  have hfirst : d.replaceNode m = .ok { d with nodes := d.replaced m } := by
    refine (hd.replaceNode_eq_ok_iff hm.id_eq ?_ ?_).mpr rfl
    · exact hfields ▸ hd.fields_nodup hn
    · exact hfields ▸ fun id hid => hd.not_elsewhere hn hid
  -- What the first replacement leaves is sound, so the lemma for one replacement applies to it.
  have hrevises : RevisesTo false d { d with nodes := d.replaced m } :=
    ⟨.nodeReplaced hn hm, (replaceNode_eq_ok.mp hfirst).2⟩
  have hsound := hrevises.sound hd
  have htwice : ({ d with nodes := d.replaced m } : Document).replaced
      { m with form := some form } = d.replaced { m with form := some form } :=
    replaced_replaced rfl
  rw [hfirst, ok_bind, hsound.withForm_eq_ok_iff]
  constructor
  · rintro ⟨htask, hadmits, heq⟩
    rw [htwice] at heq
    exact ⟨htask, admits_replaced.mp hadmits, heq⟩
  · rintro ⟨htask, hadmits, heq⟩
    rw [← htwice] at heq
    exact ⟨htask, admits_replaced.mpr hadmits, heq⟩

/-- Of the form that a patch names, or does not name, a document is made exactly if the patch may
leave it on the node. -/
private theorem Sound.patchForm_eq_ok_iff (hd : d.Sound) (hn : n ∈ d.nodes) {patch : Fields}
    (htakes : n.Takes patch) :
    (match patch.get? "form" with
      | none => d.replaceNode (n.patched patch)
      | some .null => d.replaceNode { n.patched patch with form := none }
      | some v => do
        let form ← formOf nodeId v
        let d₁ ← d.replaceNode (n.patched patch)
        d₁.withForm (n.patched patch) form) = .ok d' ↔
      ∃ form, d.FormPatched n patch form ∧
        { d with nodes := d.replaced { n.patched patch with form } } = d' := by
  have hedit : n.EditedTo (n.patched patch) :=
    patchNode_editedTo (patchNode_eq_ok.mpr ⟨htakes, rfl⟩)
  -- The patched node has the fields that it had, or none, so that replacing it breaks no rule.
  have hkept : d.replaceNode (n.patched patch) = .ok d' ↔
      { d with nodes := d.replaced (n.patched patch) } = d' := by
    refine hd.replaceNode_eq_ok_iff hedit.id_eq ?_ ?_
    · show (n.fields.map (·.id)).Nodup
      exact hd.fields_nodup hn
    · exact fun id hid => hd.not_elsewhere hn hid
  -- A node without fields repeats none.
  have hremoved : d.replaceNode { n.patched patch with form := none } = .ok d' ↔
      { d with nodes := d.replaced { n.patched patch with form := none } } = d' := by
    refine hd.replaceNode_eq_ok_iff hedit.id_eq ?_ ?_
    · exact List.nodup_nil
    · exact fun id hid => nomatch hid
  -- A patch that does not name the form, one that takes it away, and one that gives a form.
  split
  · next hv =>
    refine hkept.trans ?_
    constructor
    · exact fun heq => ⟨n.form, .kept hv, heq⟩
    · rintro ⟨form, hform, heq⟩
      cases hform with
      | kept => exact heq
      | removed h => simp [hv] at h
      | given h => simp [hv] at h
  · next hv =>
    refine hremoved.trans ?_
    constructor
    · exact fun heq => ⟨none, .removed hv, heq⟩
    · rintro ⟨form, hform, heq⟩
      cases hform with
      | kept h => simp [hv] at h
      | removed => exact heq
      | given h hread =>
        obtain rfl := Option.some.inj (hv.symm.trans h)
        cases hread
  · next v hnull hv =>
    rw [bind_eq_ok]
    simp only [formOf_eq_ok, hd.replaceNode_withForm_eq_ok_iff hn hedit rfl]
    constructor
    · rintro ⟨form, hread, htask, hadmits, heq⟩
      exact ⟨some form, .given hv hread htask hadmits, heq⟩
    · rintro ⟨form, hform, heq⟩
      cases hform with
      | kept h => simp [hv] at h
      | removed h => exact absurd (Option.some.inj (hv.symm.trans h)) hnull
      | given h hread htask hadmits =>
        obtain rfl := Option.some.inj (hv.symm.trans h)
        exact ⟨_, hread, htask, hadmits, heq⟩

/-- A patch succeeds exactly if it names nothing else than what can be patched, the node takes it,
and its form, if it gives one, is admitted. -/
theorem Sound.updateNode_eq_ok_iff (hd : d.Sound) {patch : Fields} :
    d.updateNode nodeId patch = .ok d' ↔
      ∃ n form, d.node? nodeId = some n ∧ (∀ name ∈ patch.names, name ∈ patchable) ∧
        n.Takes patch ∧ d.FormPatched n patch form ∧
        { d with nodes := d.replaced { n.patched patch with form } } = d' := by
  unfold updateNode
  -- The names in the patch are checked before its values are.
  simp only [bind_eq_ok, requireNode_eq_ok]
  constructor
  · rintro ⟨n, hn, h⟩
    split at h
    · simp [Edit.refuse, error_bind] at h
    · next hlocked =>
      obtain ⟨_, hm, h⟩ := bind_eq_ok.mp h
      obtain ⟨htakes, rfl⟩ := patchNode_eq_ok.mp hm
      have hnames := lockedNames_eq_nil_iff.mp (by simpa using hlocked)
      obtain ⟨form, hform, heq⟩ := (hd.patchForm_eq_ok_iff (mem_of_node? hn).1 htakes).mp h
      exact ⟨n, form, hn, hnames, htakes, hform, heq⟩
  · rintro ⟨n, form, hn, hnames, htakes, hform, heq⟩
    refine ⟨n, hn, ?_⟩
    rw [if_neg (by simp [lockedNames_eq_nil_iff.mpr hnames])]
    refine bind_eq_ok.mpr ⟨_, patchNode_eq_ok.mpr ⟨htakes, rfl⟩, ?_⟩
    -- The form is settled after the rest of the patch, on the node that the rest has made.
    exact (hd.patchForm_eq_ok_iff (mem_of_node? hn).1 htakes).mpr ⟨form, hform, heq⟩

end Document

/-! ## Edits of forms -/

/-- The command edits the form of a node, which would have the given fields then: the mode of the
form is set, a field is added or changed, or a patch that the node takes gives a form. -/
inductive Command.FormEdit (n : Node) : Command → List FormField → Prop
  /-- The fields stay as they are. -/
  | mode {v : Value} {mode : FormMode} (hmode : Reader.choice v = .ok mode) :
      FormEdit n (.setFormMode n.id v) n.fields
  /-- A field is added at the end. -/
  | field {v : Value} {f : FormField} (hform : n.form.isSome) (hf : FormField.read v = .ok f) :
      FormEdit n (.addFormField n.id v) (n.fields ++ [f])
  /-- A field is changed in its place. -/
  | change {i : Nat} {old f : FormField} {patch : Fields} (hold : n.fields[i]? = some old)
      (hf : FormField.read (.object (old.toFields.merge patch)) = .ok f) :
      FormEdit n (.updateFormField n.id old.id patch) (n.fields.set i f)
  /-- The fields are those of the form that the patch gives. -/
  | form {v : Value} {form : Form} {patch : Fields}
      (hnames : ∀ name ∈ patch.names, name ∈ Document.patchable) (htakes : n.Takes patch)
      (hv : patch.get? "form" = some v) (hform : Form.read v = .ok form) :
      FormEdit n (.updateNode n.id patch) form.fields

/-- An edit of the form of a task succeeds exactly if the fields are admitted, and then it replaces
the task by one with a form of these fields. -/
private theorem Command.FormEdit.apply_eq_ok_iff {c : Command} {fields : List FormField}
    (loops : Bool)
    (ids : IdSource) (hd : d.Sound) (hn : n ∈ d.nodes) (htask : n.type = .task)
    (hc : c.FormEdit n fields) :
    ∃ m form, m.id = n.id ∧ m.form = some form ∧ form.fields = fields ∧
      ∀ d' made, (c.apply loops d ids).1 = .ok (d', made) ↔
        (d.Admits n.id fields ∧ { d with nodes := d.replaced m } = d') ∧ made = .document := by
  have hfound : d.node? n.id = some n := (Document.node?_eq_some_iff hd.nodeIds_nodup).mpr ⟨hn, rfl⟩
  -- For a task, giving the form asks for nothing but that its fields are admitted.
  have hgiven (form : Form) (d' : Document) : d.FormGiven n form d' ↔
      d.Admits n.id form.fields ∧
        { d with nodes := d.replaced { n with form := some form } } = d' :=
    ⟨fun h => ⟨h.admits, h.eq⟩, fun h => ⟨htask, h.1, h.2⟩⟩
  cases hc with
  | @mode v mode hmode =>
    refine ⟨{ n with form := some ⟨mode, n.fields⟩ }, _, rfl, rfl, rfl, fun d' made => ?_⟩
    refine Edit.map_document_eq_ok.trans (and_congr_left' ?_)
    simp [hd.setFormMode_eq_ok_iff, hfound, hmode, hgiven]
  | @field v f hform hf =>
    obtain ⟨form, hform⟩ := Option.isSome_iff_exists.mp hform
    have hfields := Node.fields_of_form hform
    refine ⟨{ n with form := some { form with fields := n.fields ++ [f] } }, _, rfl, rfl, rfl,
      fun d' made => ?_⟩
    refine Edit.map_document_eq_ok.trans (and_congr_left' ?_)
    simp [hd.addFormField_eq_ok_iff, hfound, hform, hf, hgiven, hfields]
  | @change i old f patch hold hf =>
    obtain ⟨form, hform, hmem⟩ := Node.mem_fields.mp (List.mem_of_getElem? hold)
    have hfields := Node.fields_of_form hform
    have hnodup : (form.fields.map (·.id)).Nodup := hfields ▸ hd.fields_nodup hn
    have hfield : form.field? old.id = some old := (find?_key_eq_some_iff hnodup).mpr ⟨hmem, rfl⟩
    -- Field ids are distinct, so the field is replaced at its position and nowhere else.
    have hset : (form.fields.map fun g => if g.id = old.id then f else g) = n.fields.set i f := by
      simpa [hfields] using map_key_eq_set hnodup (hfields ▸ hold) f
    refine ⟨{ n with form := some { form with fields := n.fields.set i f } }, _, rfl, rfl, rfl,
      fun d' made => ?_⟩
    refine Edit.map_document_eq_ok.trans (and_congr_left' ?_)
    simp [hd.updateFormField_eq_ok_iff, hfound, hform, hfield, hf, hgiven, hset]
  | @form v form patch hnames htakes hv hform =>
    refine ⟨{ n.patched patch with form := some form }, form, rfl, rfl, rfl, fun d' made => ?_⟩
    refine Edit.map_document_eq_ok.trans (and_congr_left' ?_)
    rw [hd.updateNode_eq_ok_iff]
    constructor
    · rintro ⟨n', form', hn', -, -, hleft, heq⟩
      obtain rfl := Option.some.inj (hfound.symm.trans hn')
      -- The patch does give a form, so that neither keeping nor removing it is meant.
      cases hleft with
      | kept h => simp [hv] at h
      | removed h =>
        obtain rfl := Option.some.inj (hv.symm.trans h)
        cases hform
      | given h hread _ hadmits =>
        obtain rfl := Option.some.inj (hv.symm.trans h)
        obtain rfl := Checked.ok.inj (hform.symm.trans hread)
        exact ⟨hadmits, heq⟩
    · rintro ⟨hadmits, heq⟩
      exact ⟨n, some form, hfound, hnames, htakes, .given hv hform htask hadmits, heq⟩

/-- An edit of the form of a task succeeds exactly if the fields that the form would have are
admitted. Then it is this form that the node has afterwards, and all other nodes and all edges stay
as they are. -/
theorem Command.formEdit_iff {c : Command} {loops : Bool} {ids : IdSource}
    {fields : List FormField} (hd : d.Sound) (hn : n ∈ d.nodes) (htask : n.type = .task)
    (hc : c.FormEdit n fields) :
    ((∃ d' made, (c.apply loops d ids).1 = .ok (d', made)) ↔ d.Admits n.id fields) ∧
      ∀ d' made, (c.apply loops d ids).1 = .ok (d', made) →
        ∃ i m form, d.nodes[i]? = some n ∧ m.id = n.id ∧ m.form = some form ∧
          form.fields = fields ∧ { d with nodes := d.nodes.set i m } = d' := by
  obtain ⟨m, form, hid, hform, hfields, hok⟩ :=
    FormEdit.apply_eq_ok_iff loops ids hd hn htask hc
  refine ⟨⟨?_, fun hadmits => ?_⟩, fun d' made h => ?_⟩
  · rintro ⟨d', made, h⟩
    exact ((hok d' made).mp h).1.1
  · exact ⟨_, _, (hok _ _).mpr ⟨⟨hadmits, rfl⟩, rfl⟩⟩
  · obtain ⟨⟨-, heq⟩, -⟩ := (hok d' made).mp h
    -- Node ids are distinct, so replacing the node by its id replaces it at its position.
    obtain ⟨i, hi⟩ := List.mem_iff_getElem?.mp hn
    refine ⟨i, m, form, hi, hid, hform, hfields, ?_⟩
    rw [← heq, ← map_key_eq_set hd.nodeIds_nodup hi m, Document.replaced, hid]

namespace Sample

/-- The review of the sample workflow. -/
def review : Node := workflow.nodes.get ⟨2, by decide⟩

/-- The grade that is given in it. -/
def grade : FormField :=
  { id := "grade", label := "Grade", type := .select, options := some ["A", "B"] }

/-- The sample workflow without the notes, which its review goes on showing. -/
def noteless : Document :=
  { workflow with nodes := workflow.nodes.map fun n =>
      if n.id == "draft" then { n with form := some {} } else n }

private theorem accepted_noteless : noteless.Accepted := ⟨noteless.toValue, rfl⟩

end Sample

/-- A grade of the review may get another id; but even the mode of the form cannot be set once the
notes that it shows are gone. -/
theorem Command.formEdit_iff_sample :
    (∃ d' made, ((updateFormField "review" "grade" [("id", .text "mark")]).apply false
      Sample.workflow .counter).1 = .ok (d', made)) ∧
    ¬∃ d' made, ((setFormMode "review" (.text "FILL")).apply false
      Sample.noteless .counter).1 = .ok (d', made) := by
  have hgrade : Sample.review.fields[1]? = some Sample.grade := rfl
  have hmark : FormField.read (.object (Sample.grade.toFields.merge [("id", .text "mark")])) =
      .ok { Sample.grade with id := "mark" } := rfl
  have hfill : (setFormMode "review" (.text "FILL")).FormEdit Sample.review Sample.review.fields :=
    .mode rfl
  constructor
  · refine (formEdit_iff Sample.accepted_workflow.sound ?_ rfl (.change hgrade hmark)).1.mpr ?_
    · exact List.get_mem Sample.workflow.nodes ⟨2, by decide⟩
    · decide
  · -- The review shows the notes, which no other node of this document has any more.
    refine mt (formEdit_iff Sample.accepted_noteless.sound ?_ rfl hfill).1.mp ?_
    · exact List.get_mem Sample.noteless.nodes ⟨2, by decide⟩
    · decide

end CaseFlow
