import CaseFlow.Proofs.Value.Fields
import CaseFlow.Proofs.Workflow.Sound

/-!
# Canonical documents

Reading trims ids, drops blank options and frees readonly fields from being required. A document of
which reading would change nothing of this kind is canonical, and it is plain when the descriptions
and the assignees of its nodes are texts or absent. Whatever was read is both
(`Document.Accepted.canonical_plain`); and a document that is both reads, as it was written, as
itself (`Document.Canonical.read_toValue`). So these are the documents that can be read at all
(`Document.accepted_iff`).

The two halves are proved from the inside out: for fields, forms, nodes and edges there is a lemma
for what reading leaves, and one for what is read back. The parts that are not plain are told apart
since a patch may put anything there.
-/

namespace CaseFlow

open CaseFlow.Text

/-! ## Words, texts and lists -/

/-- A type whose words tell its elements apart. -/
class LawfulWorded (α : Type) [Worded α] : Prop where
  /-- The word of an element is read as that element. -/
  ofWord?_word : ∀ a : α, Worded.ofWord? (Worded.word a) = some a

instance : LawfulWorded NodeType := ⟨fun t => by cases t <;> rfl⟩

instance : LawfulWorded FormMode := ⟨fun m => by cases m <;> rfl⟩

instance : LawfulWorded FieldType := ⟨fun t => by cases t <;> rfl⟩

namespace Reader

variable {α : Type}

/-- A choice is read back from its word. -/
@[simp]
theorem choice_word [Worded α] [LawfulWorded α] (a : α) :
    choice (.text (Worded.word a)) = .ok a := by
  simp [choice, Value.text?, LawfulWorded.ofWord?_word]

/-- A list of items that are read from what they are written as is read so, too. -/
theorem list_map {read : Reader α} {write : α → Value} {xs : List α}
    (h : ∀ x ∈ xs, read (write x) = .ok x) : list read (.list (xs.map write)) = .ok xs :=
  list_map_eq_ok.mpr (List.forall₂_same.mpr h)

/-- A list of texts is read back. -/
@[simp]
theorem list_ofTexts (xs : List String) : list text (.ofTexts xs) = .ok xs :=
  list_map fun _ _ => rfl

/-- A text that may be absent is read from itself only. -/
@[simp]
theorem nullable_text_eq_ok {v : Value} {s : Option String} :
    nullable text v = .ok s ↔ v = .ofText? s := by
  cases s <;> cases v <;> simp [nullable, text, Checked.map, Value.ofText?, Checked.refuse]

/-- Data that was read where it might have been absent was read from some value. -/
theorem exists_of_nullable {read : Reader α} {v : Value} {a : α}
    (h : nullable read v = .ok (some a)) : ∃ w, read w = .ok a := by
  unfold nullable at h
  split at h
  · cases h
  · obtain ⟨b, hb, heq⟩ := Checked.map_eq_ok'.mp h
    exact ⟨_, Option.some.inj heq ▸ hb⟩

end Reader

/-- What is left when blanks are dropped is trimmed and not blank, and so is left again. -/
@[simp]
theorem dropBlank_dropBlank (xs : List String) : dropBlank (dropBlank xs) = dropBlank xs := by
  have htrimmed : ∀ x ∈ dropBlank xs, trim x = x := by
    intro x hx
    obtain ⟨y, -, rfl⟩ := List.mem_map.mp (List.mem_filter.mp hx).1
    exact trim_trim y
  have hmap : (dropBlank xs).map trim = dropBlank xs :=
    (List.map_congr_left htrimmed).trans (List.map_id' _)
  calc dropBlank (dropBlank xs)
      = (dropBlank xs).filter (!·.isEmpty) := by rw [dropBlank, hmap]
    _ = dropBlank xs := by rw [dropBlank, List.filter_filter]; simp

/-- A text that is absent or not, as a value. -/
def Value.IsNote (v : Value) : Prop := ∃ s, v = .ofText? s

theorem Node.readNote_eq_ok {v w : Value} : readNote v = .ok w ↔ v.IsNote ∧ w = v := by
  simp only [readNote, Checked.map_eq_ok', Reader.nullable_text_eq_ok, Value.IsNote]
  constructor
  · rintro ⟨s, rfl, rfl⟩
    exact ⟨⟨s, rfl⟩, rfl⟩
  · rintro ⟨⟨s, rfl⟩, rfl⟩
    exact ⟨s, rfl, rfl⟩

/-! ## Ids -/

/-- A trimmed text that is not empty. -/
def IsName (s : String) : Prop := trim s = s ∧ s ≠ ""

instance (s : String) : Decidable (IsName s) := inferInstanceAs (Decidable (_ ∧ _))

/-- A name made of id characters. -/
def IsId (s : String) : Prop := IsName s ∧ s.toList.all isIdChar = true

/-- A text is taken exactly if its trim is not empty, and then its trim is. -/
theorem checkNotBlank_eq_ok {empty : Rule} {s t : String} :
    checkNotBlank empty s = .ok t ↔ t = trim s ∧ t ≠ "" := by
  unfold checkNotBlank
  by_cases h : (trim s).isEmpty
  · simp only [h, ↓reduceIte, reduceCtorEq, false_iff, not_and]
    rintro rfl hne
    exact hne (by simpa using h)
  · simp only [h, Bool.false_eq_true, ↓reduceIte, Except.ok.injEq]
    constructor
    · rintro rfl
      exact ⟨rfl, by simpa using h⟩
    · exact fun ht => ht.1.symm

/-- The names are the texts that come out of the check against blanks. -/
theorem isName_of_checkNotBlank {empty : Rule} {s t : String}
    (h : checkNotBlank empty s = .ok t) : IsName t := by
  obtain ⟨rfl, hne⟩ := checkNotBlank_eq_ok.mp h
  exact ⟨trim_trim s, hne⟩

/-- A text that is not blank is a name when it is trimmed. -/
theorem isName_trim {s : String} (h : blank s = false) : IsName (trim s) :=
  ⟨trim_trim s, by simpa [blank] using h⟩

/-- Where a new name is given that is not blank, it is trimmed; else the old name stays. -/
theorem isName_renamed {name : Option String} (h : name.any blank = false) (old : String) :
    (name.map trim).getD old = old ∨ IsName ((name.map trim).getD old) := by
  cases name with
  | none => exact .inl rfl
  | some s => exact .inr (isName_trim h)

theorem IsName.checkNotBlank {empty : Rule} {s : String} (h : IsName s) :
    checkNotBlank empty s = .ok s :=
  checkNotBlank_eq_ok.mpr ⟨h.1.symm, h.2⟩

/-- The ids are the texts that come out of the check of ids. -/
theorem isId_of_checkId {empty badChars : Rule} {s id : String}
    (h : checkId empty badChars s = .ok id) : IsId id := by
  obtain ⟨rfl, hne, hall⟩ := checkId_eq_ok.mp h
  exact ⟨⟨trim_trim s, hne⟩, hall⟩

theorem IsId.checkId {empty badChars : Rule} {s : String} (h : IsId s) :
    checkId empty badChars s = .ok s :=
  checkId_eq_ok.mpr ⟨h.1.1.symm, h.1.2, h.2⟩

/-! ## Written fields -/

namespace Fields

variable {α : Type} {fs : Fields} {name : String} {read : Reader α} {v : Value} {a default : α}

/-- A field is read from its value. -/
theorem require_of_get? (hv : fs.get? name = some v) (h : read v = .ok a) :
    fs.require name read = .ok a :=
  require_eq_ok.mpr ⟨v, hv, h⟩

/-- A field that is there is read from its value. -/
theorem optional_of_get? (hv : fs.get? name = some v) (h : read v = .ok a) :
    fs.optional name read default = .ok a :=
  optional_eq_ok.mpr (.inl ⟨v, hv, h⟩)

/-- What is read of a field that is there comes from its value. -/
theorem read_of_optional (hv : fs.get? name = some v) (h : fs.optional name read default = .ok a) :
    read v = .ok a := by
  rcases optional_eq_ok.mp h with ⟨w, hw, hread⟩ | ⟨hnone, -⟩
  · rw [hv, Option.some.injEq] at hw
    rw [hw]
    exact hread
  · rw [hv] at hnone
    cases hnone

end Fields

/-! ## Fields and forms -/

/-- A form field as reading leaves it. -/
structure FormField.Canonical (f : FormField) : Prop where
  /-- The id is one. -/
  id_isId : IsId f.id
  /-- A readonly field is not required. -/
  not_required : f.type = .readonly → f.required = false
  /-- No option is blank or has blanks around it. -/
  options_eq : ∀ xs, f.options = some xs → dropBlank xs = xs

namespace FormField

variable {f : FormField}

theorem canonical_of_readFields {fs : Fields} (h : readFields fs = .ok f) : f.Canonical := by
  simp only [readFields, Checked.seq_eq_ok, Checked.map_eq_ok, Checked.map_eq_ok',
    Fields.require_eq_ok, readId, Reader.checking_eq_ok] at h
  -- The fields are read one after the other, of which the id, the type and the options matter here.
  obtain ⟨_, _, ⟨_, options, ⟨_, _, ⟨_, type, ⟨_, _, ⟨_, ⟨_, -, _, -, hid⟩, rfl⟩, -, rfl⟩, htype,
    rfl⟩, ⟨required, -, rfl⟩, rfl⟩, hoptions, rfl⟩, -, rfl⟩ := h
  refine ⟨isId_of_checkId hid, fun hreadonly => ?_, fun xs hxs => ?_⟩
  · simp only at hreadonly
    simp [htype, hreadonly, Checked.toOption]
  · -- Options that are there were read, and lost their blanks.
    simp only at hxs
    subst hxs
    rcases Fields.optional_eq_ok.mp hoptions with ⟨v, -, hv⟩ | ⟨-, hnone⟩
    · obtain ⟨w, hw⟩ := Reader.exists_of_nullable hv
      obtain ⟨ys, -, rfl⟩ := Checked.map_eq_ok'.mp hw
      exact dropBlank_dropBlank ys
    · cases hnone

theorem canonical_of_read {v : Value} (h : read v = .ok f) : f.Canonical := by
  obtain ⟨fs, -, hfs⟩ := Reader.record_eq_ok.mp h
  exact canonical_of_readFields hfs

/-- The options of a canonical field are read from what they are written as. -/
private theorem Canonical.read_options (h : f.Canonical) :
    Reader.nullable (fun v => (Reader.list Reader.text v).map dropBlank)
      ((f.options.map Value.ofTexts).getD .null) = .ok f.options := by
  cases hxs : f.options with
  | none => rfl
  | some xs =>
    have hread : (Reader.list Reader.text (.ofTexts xs)).map dropBlank = .ok xs :=
      Checked.map_eq_ok'.mpr ⟨xs, Reader.list_ofTexts xs, h.options_eq xs hxs⟩
    exact Checked.map_eq_ok'.mpr ⟨xs, hread, rfl⟩

/-- A canonical field reads as itself. -/
theorem Canonical.read_toValue (h : f.Canonical) : read f.toValue = .ok f := by
  have hid : f.toFields.require "id" readId = .ok f.id :=
    Fields.require_of_get? rfl (Reader.checking_eq_ok.mpr ⟨f.id, rfl, h.id_isId.checkId⟩)
  have hlabel : f.toFields.require "label" Reader.text = .ok f.label :=
    Fields.require_of_get? rfl rfl
  have htype : f.toFields.optional "type" Reader.choice FieldType.text = .ok f.type :=
    Fields.optional_of_get? rfl (Reader.choice_word f.type)
  have hrequired : f.toFields.optional "required" Reader.bool false = .ok f.required :=
    Fields.optional_of_get? rfl rfl
  have hoptions : f.toFields.optional "options"
      (Reader.nullable fun v => (Reader.list Reader.text v).map dropBlank) none = .ok f.options :=
    Fields.optional_of_get? rfl h.read_options
  have hsource : f.toFields.optional "source_field_id" (Reader.nullable Reader.text) none
      = .ok f.source :=
    Fields.optional_of_get? rfl (Reader.nullable_text_eq_ok.mpr rfl)
  -- A readonly field is forced not to be required, and is not.
  have hforced : (f.required && !(f.type == .readonly)) = f.required := by
    cases hreq : f.required with
    | false => rfl
    | true =>
      have hne : f.type ≠ .readonly := fun htype => by simp [h.not_required htype] at hreq
      simpa using hne
  show readFields f.toFields = .ok f
  simp only [readFields, hid, hlabel, htype, hrequired, hoptions, hsource]
  show Checked.ok { f with required := f.required && !(f.type == .readonly) } = .ok f
  rw [hforced]

end FormField

/-- A form whose fields are canonical. -/
def Form.Canonical (form : Form) : Prop := ∀ f ∈ form.fields, f.Canonical

namespace Form

variable {form : Form}

theorem canonical_of_readFields {fs : Fields} (h : readFields fs = .ok form) : form.Canonical := by
  simp only [readFields, Checked.seq_eq_ok, Checked.map_eq_ok] at h
  obtain ⟨_, fields, ⟨mode, -, rfl⟩, hfields, rfl⟩ := h
  intro f hf
  rcases Fields.optional_eq_ok.mp hfields with ⟨v, -, hv⟩ | ⟨-, rfl⟩
  · obtain ⟨w, hw⟩ := Reader.exists_of_mem_list hv hf
    exact FormField.canonical_of_read hw
  · cases hf

theorem canonical_of_read {v : Value} (h : read v = .ok form) : form.Canonical := by
  obtain ⟨fs, -, hfs⟩ := Reader.record_eq_ok.mp h
  exact canonical_of_readFields hfs

/-- A canonical form reads as itself. -/
theorem Canonical.read_toValue (h : form.Canonical) : read form.toValue = .ok form := by
  let fs : Fields := [("mode", .text (Worded.word form.mode)),
    ("fields", .list (form.fields.map FormField.toValue))]
  have hmode : fs.optional "mode" Reader.choice FormMode.fill = .ok form.mode :=
    Fields.optional_of_get? rfl (Reader.choice_word form.mode)
  have hfields : fs.optional "fields" (Reader.list FormField.read) [] = .ok form.fields :=
    Fields.optional_of_get? rfl (Reader.list_map fun f hf => (h f hf).read_toValue)
  show readFields fs = .ok form
  rw [readFields, hmode, hfields]
  rfl

end Form

/-! ## Nodes and edges -/

/-- A node as reading leaves it, whatever its description and its assignee are. -/
structure Node.Canonical (n : Node) : Prop where
  /-- The id is one. -/
  id_isId : IsId n.id
  /-- Only a task carries a form. -/
  form_task : n.form.isSome → n.type = .task
  /-- The form is canonical. -/
  form_canonical : ∀ form, n.form = some form → form.Canonical

/-- A node whose description and assignee are texts or absent. -/
structure Node.Plain (n : Node) : Prop where
  /-- The description is a text or absent. -/
  description_isNote : n.description.IsNote
  /-- The assignee is a text or absent. -/
  assignee_isNote : n.assignee.IsNote

namespace Node

variable {n : Node}

theorem canonical_of_readFields {fs : Fields} (h : readFields fs = .ok n) :
    n.Canonical ∧ n.Plain := by
  simp only [readFields, Checked.andThen_eq_ok, Checked.seq_eq_ok, Checked.map_eq_ok,
    Fields.require_eq_ok, readId, Reader.checking_eq_ok] at h
  obtain ⟨m, ⟨_, form, ⟨_, assignee, ⟨_, _, ⟨_, description, ⟨_, _, ⟨_, _, ⟨_, ⟨_, -, _, -, hid⟩,
    rfl⟩, -, rfl⟩, -, rfl⟩, hdescription, rfl⟩, -, rfl⟩, hassignee, rfl⟩, hform, rfl⟩, hcheck⟩ := h
  -- A note that was read is a text or absent, and so is its default.
  have hnote {name : String} {v : Value} (hv : fs.optional name readNote .null = .ok v) :
      v.IsNote := by
    rcases Fields.optional_eq_ok.mp hv with ⟨w, -, hw⟩ | ⟨-, rfl⟩
    · obtain ⟨hw, rfl⟩ := readNote_eq_ok.mp hw
      exact hw
    · exact ⟨none, rfl⟩
  have hread : ∀ f, form = some f → f.Canonical := by
    rintro f rfl
    rcases Fields.optional_eq_ok.mp hform with ⟨v, -, hv⟩ | ⟨-, hnone⟩
    · obtain ⟨w, hw⟩ := Reader.exists_of_nullable hv
      exact Form.canonical_of_read hw
    · cases hnone
  unfold checkForm at hcheck
  split at hcheck
  · simp at hcheck
  · next htask =>
    cases hcheck
    refine ⟨⟨isId_of_checkId hid, fun hsome => ?_, hread⟩, hnote hdescription, hnote hassignee⟩
    simpa [hsome] using htask

theorem canonical_of_read {v : Value} (h : read v = .ok n) : n.Canonical ∧ n.Plain := by
  obtain ⟨fs, -, hfs⟩ := Reader.record_eq_ok.mp h
  exact canonical_of_readFields hfs

/-- A canonical node that is plain reads as itself. -/
theorem Canonical.read_toValue (h : n.Canonical) (hplain : n.Plain) : read n.toValue = .ok n := by
  let fs : Fields := [("id", .text n.id), ("type", .text n.type.word), ("label", .text n.label),
    ("description", n.description), ("position", n.position.toValue), ("assignee_id", n.assignee),
    ("form", (n.form.map Form.toValue).getD .null)]
  have hid : fs.require "id" readId = .ok n.id :=
    Fields.require_of_get? rfl (Reader.checking_eq_ok.mpr ⟨n.id, rfl, h.id_isId.checkId⟩)
  have htype : fs.require "type" Reader.choice = .ok n.type :=
    Fields.require_of_get? rfl (Reader.choice_word n.type)
  have hlabel : fs.require "label" Reader.text = .ok n.label := Fields.require_of_get? rfl rfl
  have hdescription : fs.optional "description" readNote .null = .ok n.description :=
    Fields.optional_of_get? rfl (readNote_eq_ok.mpr ⟨hplain.description_isNote, rfl⟩)
  have hposition : fs.optional "position" Position.read {} = .ok n.position :=
    Fields.optional_of_get? rfl rfl
  have hassignee : fs.optional "assignee_id" readNote .null = .ok n.assignee :=
    Fields.optional_of_get? rfl (readNote_eq_ok.mpr ⟨hplain.assignee_isNote, rfl⟩)
  have hform : fs.optional "form" (Reader.nullable Form.read) none = .ok n.form := by
    refine Fields.optional_of_get? rfl ?_
    cases hn : n.form with
    | none => rfl
    | some form =>
      exact Checked.map_eq_ok'.mpr ⟨form, (h.form_canonical form hn).read_toValue, rfl⟩
  show readFields fs = .ok n
  rw [readFields, hid, htype, hlabel, hdescription, hposition, hassignee, hform]
  show checkForm n = .ok n
  have hcheck : (n.form.isSome && n.type != .task) = false := by
    cases hsome : n.form.isSome with
    | false => rfl
    | true => simp [h.form_task hsome]
  rw [checkForm, hcheck]
  rfl

end Node

/-- An edge as reading leaves it: its ends are trimmed and not blank. -/
structure Edge.Canonical (e : Edge) : Prop where
  /-- The node that the edge leaves has a name. -/
  source_isName : IsName e.source
  /-- The node that the edge reaches has a name. -/
  target_isName : IsName e.target

namespace Edge

variable {e : Edge}

theorem canonical_of_readFields {fs : Fields} (h : readFields fs = .ok e) : e.Canonical := by
  simp only [readFields, Checked.seq_eq_ok, Checked.map_eq_ok, Fields.require_eq_ok, readEnd,
    Reader.checking_eq_ok] at h
  obtain ⟨_, _, ⟨_, _, ⟨_, _, ⟨_, -, rfl⟩, ⟨_, -, _, -, hsource⟩, rfl⟩, ⟨_, -, _, -, htarget⟩,
    rfl⟩, -, rfl⟩ := h
  exact ⟨isName_of_checkNotBlank hsource, isName_of_checkNotBlank htarget⟩

theorem canonical_of_read {v : Value} (h : read v = .ok e) : e.Canonical := by
  obtain ⟨fs, -, hfs⟩ := Reader.record_eq_ok.mp h
  exact canonical_of_readFields hfs

/-- A canonical edge reads as itself. -/
theorem Canonical.read_toValue (h : e.Canonical) : read e.toValue = .ok e := by
  let fs : Fields := [("id", .text e.id), ("source", .text e.source), ("target", .text e.target),
    ("label", .ofText? e.label)]
  have hid : fs.require "id" Reader.text = .ok e.id := Fields.require_of_get? rfl rfl
  have hsource : fs.require "source" readEnd = .ok e.source :=
    Fields.require_of_get? rfl
      (Reader.checking_eq_ok.mpr ⟨e.source, rfl, h.source_isName.checkNotBlank⟩)
  have htarget : fs.require "target" readEnd = .ok e.target :=
    Fields.require_of_get? rfl
      (Reader.checking_eq_ok.mpr ⟨e.target, rfl, h.target_isName.checkNotBlank⟩)
  have hlabel : fs.optional "label" (Reader.nullable Reader.text) none = .ok e.label :=
    Fields.optional_of_get? rfl (Reader.nullable_text_eq_ok.mpr rfl)
  show readFields fs = .ok e
  rw [readFields, hid, hsource, htarget, hlabel]
  rfl

end Edge

/-! ## Documents -/

namespace Document

variable {d : Document}

/-- A document as reading leaves it, whatever the descriptions and the assignees of its nodes
are. -/
structure Canonical (d : Document) : Prop where
  /-- The nodes are canonical. -/
  nodes_canonical : ∀ n ∈ d.nodes, n.Canonical
  /-- The edges are canonical. -/
  edges_canonical : ∀ e ∈ d.edges, e.Canonical
  /-- The ids are distinct. -/
  brokenRule?_eq_none : d.brokenRule? = none

/-- A document whose nodes have descriptions and assignees that are texts or absent. -/
def Plain (d : Document) : Prop := ∀ n ∈ d.nodes, n.Plain

/-- A document that was read is canonical and plain. -/
theorem Accepted.canonical_plain (hd : d.Accepted) : d.Canonical ∧ d.Plain := by
  obtain ⟨v, hv⟩ := hd
  simp only [read, readFields, Reader.record_eq_ok, Checked.andThen_eq_ok, Checked.seq_eq_ok,
    Checked.map_eq_ok] at hv
  obtain ⟨fs, -, _, ⟨_, edges, ⟨nodes, hnodes, rfl⟩, hedges, rfl⟩, hids⟩ := hv
  -- Nodes and edges are read one by one, or are left out and so empty.
  have hnode : ∀ n ∈ nodes, n.Canonical ∧ n.Plain := by
    intro n hn
    rcases Fields.optional_eq_ok.mp hnodes with ⟨v, -, hv⟩ | ⟨-, rfl⟩
    · obtain ⟨w, hw⟩ := Reader.exists_of_mem_list hv hn
      exact Node.canonical_of_read hw
    · cases hn
  have hedge : ∀ e ∈ edges, e.Canonical := by
    intro e he
    rcases Fields.optional_eq_ok.mp hedges with ⟨v, -, hv⟩ | ⟨-, rfl⟩
    · obtain ⟨w, hw⟩ := Reader.exists_of_mem_list hv he
      exact Edge.canonical_of_read hw
    · cases he
  -- The check of the ids comes last and leaves the document as it is.
  unfold checkIds at hids
  split at hids
  · simp at hids
  · next hrule =>
    cases hids
    exact ⟨⟨fun n hn => (hnode n hn).1, hedge, hrule⟩, fun n hn => (hnode n hn).2⟩

/-- A canonical document that is plain reads as itself. -/
theorem Canonical.read_toValue (h : d.Canonical) (hplain : d.Plain) : read d.toValue = .ok d := by
  let fs : Fields := [("nodes", .list (d.nodes.map Node.toValue)),
    ("edges", .list (d.edges.map Edge.toValue))]
  have hnodes : fs.optional "nodes" (Reader.list Node.read) [] = .ok d.nodes :=
    Fields.optional_of_get? rfl <| Reader.list_map fun n hn =>
      (h.nodes_canonical n hn).read_toValue (hplain n hn)
  have hedges : fs.optional "edges" (Reader.list Edge.read) [] = .ok d.edges :=
    Fields.optional_of_get? rfl <| Reader.list_map fun e he => (h.edges_canonical e he).read_toValue
  show readFields fs = .ok d
  rw [readFields, hnodes, hedges]
  show checkIds d = .ok d
  rw [checkIds, h.brokenRule?_eq_none]

/-- The documents that can be read are those that are canonical and plain. -/
theorem accepted_iff : d.Accepted ↔ d.Canonical ∧ d.Plain :=
  ⟨Accepted.canonical_plain, fun h => ⟨d.toValue, h.1.read_toValue h.2⟩⟩

end Document

end CaseFlow
