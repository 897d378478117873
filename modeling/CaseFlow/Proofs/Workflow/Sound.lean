import CaseFlow.Proofs.Reading.Outcome
import CaseFlow.Proofs.Text.Trimmed
import CaseFlow.Workflow.Reading
import Mathlib.Data.List.Nodup
import Mathlib.Data.List.Pairwise

/-!
# Sound documents

A document that was read is sound (`Document.Accepted.sound`): ids are distinct, over all forms in
the case of fields, only tasks carry forms, and the ids of nodes are trimmed. Reading makes these
checks last, on the document as a whole, and the commands of the editor make them again.

Nodes, edges and fields are looked up, replaced and dropped by their ids, which means little where
an id occurs twice. What it means where ids are distinct is said once for any list of items with
keys (`nodup_map_append_singleton` and the lemmas after it). So in a sound document an id finds its
node (`Document.node?_eq_some_iff`), and a field id has one owner (`Document.Sound.eq_of_field`).
-/

namespace CaseFlow

open CaseFlow.Text

/-! ## Lists with distinct keys -/

section Keys

variable {α κ : Type} {key : α → κ} {xs : List α} {x : α}

/-- Keys stay distinct with one more item exactly if that has a new key. -/
theorem nodup_map_append_singleton :
    ((xs ++ [x]).map key).Nodup ↔ key x ∉ xs.map key ∧ (xs.map key).Nodup := by
  rw [List.map_append, List.map_singleton, ← List.concat_eq_append, List.nodup_concat]

variable [BEq κ] [LawfulBEq κ]

/-- A key finds the item that has it. -/
theorem find?_key_eq_some_iff (hkeys : (xs.map key).Nodup) {k : κ} :
    xs.find? (key · == k) = some x ↔ x ∈ xs ∧ key x = k := by
  refine ⟨fun h => ⟨List.mem_of_find?_eq_some h, by simpa using List.find?_some h⟩, ?_⟩
  rintro ⟨hx, rfl⟩
  -- Some item with the key is found, and there is no other.
  obtain ⟨y, hy⟩ : ∃ y, xs.find? (key · == key x) = some y :=
    Option.isSome_iff_exists.mp (by simpa using ⟨x, hx, rfl⟩)
  have hkey : key y = key x := by simpa using List.find?_some hy
  rw [hy, List.inj_on_of_nodup_map hkeys (List.mem_of_find?_eq_some hy) hx hkey]

/-- Replacing what has the key of an item replaces that item in its place. -/
theorem map_key_eq_set (hkeys : (xs.map key).Nodup) {i : Nat} (hx : xs[i]? = some x) (y : α) :
    (xs.map fun z => if key z == key x then y else z) = xs.set i y := by
  obtain ⟨hi, rfl⟩ := List.getElem?_eq_some_iff.mp hx
  refine List.ext_getElem (by simp) fun j hj _ => ?_
  rw [List.length_map] at hj
  have hkey : key xs[j] = key xs[i] ↔ i = j := by
    have hi' : i < (xs.map key).length := by simpa
    have hj' : j < (xs.map key).length := by simpa
    have hinj : (xs.map key)[i] = (xs.map key)[j] ↔ i = j := hkeys.getElem_inj_iff
    rw [← hinj, List.getElem_map, List.getElem_map, eq_comm]
  simp [List.getElem_set, hkey]

/-- Where what has a key is replaced, there is what replaces it and what has another key. -/
theorem mem_map_key_iff {k : κ} {y : α} : (x ∈ xs.map fun z => if key z == k then y else z) ↔
    (x = y ∧ k ∈ xs.map key) ∨ (x ∈ xs ∧ key x ≠ k) := by
  simp only [List.mem_map]
  constructor
  · rintro ⟨z, hz, rfl⟩
    by_cases h : key z = k
    · exact .inl ⟨by simp [h], z, hz, h⟩
    · exact .inr (by simpa [h] using hz)
  · rintro (⟨rfl, z, hz, h⟩ | ⟨hx, hne⟩)
    · exact ⟨z, hz, by simp [h]⟩
    · exact ⟨x, hx, by simp [hne]⟩

/-- Dropping what has the key of an item drops that item only. -/
theorem filter_key_eq_eraseIdx (hkeys : (xs.map key).Nodup) {i : Nat} (hx : xs[i]? = some x) :
    xs.filter (key · != key x) = xs.eraseIdx i := by
  induction xs generalizing i with
  | nil => cases hx
  | cons y ys ih =>
    obtain ⟨hy, hys⟩ := List.nodup_cons.mp hkeys
    cases i with
    | zero =>
      obtain rfl := Option.some.inj hx
      -- The keys behind the item are others, so that nothing else is dropped.
      have hrest : ∀ z ∈ ys, (key z != key y) = true := by
        intro z hz
        rw [bne_iff_ne]
        rintro heq
        exact hy (heq ▸ List.mem_map_of_mem hz)
      simpa using hrest
    | succ i =>
      rw [List.getElem?_cons_succ] at hx
      -- The item stands further behind, so the first one has another key and is kept.
      have hne : (key y != key x) = true := by
        rw [bne_iff_ne]
        rintro heq
        exact hy (heq ▸ List.mem_map_of_mem (List.mem_of_getElem? hx))
      rw [List.filter_cons, if_pos hne, ih hys hx, List.eraseIdx_cons_succ]

/-- What was put last under a new key is found by that key. -/
theorem find?_key_append (hnew : key x ∉ xs.map key) :
    (xs ++ [x]).find? (key · == key x) = some x := by
  have hnone : xs.find? (key · == key x) = none := by
    rw [List.find?_eq_none]
    intro y hy heq
    exact hnew (beq_iff_eq.mp heq ▸ List.mem_map_of_mem hy)
  simp [List.find?_append, hnone]

/-- Dropping by the key of what was put last drops nothing else. -/
theorem filter_key_append (hnew : key x ∉ xs.map key) :
    (xs ++ [x]).filter (key · != key x) = xs := by
  have hkept : xs.filter (key · != key x) = xs := by
    rw [List.filter_eq_self]
    intro y hy
    rw [bne_iff_ne]
    intro heq
    exact hnew (heq ▸ List.mem_map_of_mem hy)
  rw [List.filter_append, hkept]
  simp

end Keys

/-! ## Sound documents -/

/-- The fields of a node are those of its form. -/
theorem Node.fields_of_form {n : Node} {form : Form} (h : n.form = some form) :
    n.fields = form.fields := by
  simp [fields, h]

/-- A node has the fields of the form that it has. -/
theorem Node.mem_fields {n : Node} {f : FormField} :
    f ∈ n.fields ↔ ∃ form, n.form = some form ∧ f ∈ form.fields := by
  cases h : n.form <;> simp [fields, h]

namespace Document

variable {d : Document}

/-- A document that was read from a value. -/
def Accepted (d : Document) : Prop := ∃ v, read v = .ok d

/-- The rules that tie the parts of a document together. -/
structure Sound (d : Document) : Prop where
  /-- No two nodes share an id. -/
  nodeIds_nodup : d.nodeIds.Nodup
  /-- No two edges share an id. -/
  edgeIds_nodup : d.edgeIds.Nodup
  /-- No two fields of the document share an id, on one node or on two. -/
  fieldIds_nodup : d.fieldIds.Nodup
  /-- Only tasks carry forms. -/
  form_task : ∀ n ∈ d.nodes, n.form.isSome → n.type = .task
  /-- The ids of nodes have no blanks around them. -/
  id_trimmed : ∀ n ∈ d.nodes, trim n.id = n.id

/-! ## Distinct ids -/

/-- Nothing is repeated exactly when the ids are distinct and none was seen before. -/
theorem firstRepeated?_eq_none_iff {seen ids : List String} :
    firstRepeated? seen ids = none ↔ ids.Nodup ∧ ∀ id ∈ ids, id ∉ seen := by
  induction ids generalizing seen with
  | nil => simp [firstRepeated?]
  | cons id rest ih =>
    rw [firstRepeated?]
    by_cases hseen : seen.contains id
    · simp_all
    · simp only [hseen, Bool.false_eq_true, ↓reduceIte, ih, List.nodup_cons, List.mem_cons]
      simp only [List.contains_eq_mem, decide_eq_true_eq] at hseen
      -- An id that is not repeated is seen from then on.
      constructor
      · rintro ⟨hrest, hnew⟩
        exact ⟨⟨fun hid => hnew id hid (.inl rfl), hrest⟩,
          fun x hx => hx.elim (fun h => h ▸ hseen) fun hx hs => hnew x hx (.inr hs)⟩
      · rintro ⟨⟨hid, hrest⟩, hnew⟩
        exact ⟨hrest, fun x hx hs =>
          hs.elim (fun h => hid (h ▸ hx)) fun hs => hnew x (.inr hx) hs⟩

/-- A document breaks no rule exactly when its ids are distinct. -/
theorem brokenRule?_eq_none_iff :
    d.brokenRule? = none ↔ d.nodeIds.Nodup ∧ d.edgeIds.Nodup ∧ d.fieldIds.Nodup := by
  have key (ids : List String) : firstRepeated? [] ids = none ↔ ids.Nodup := by
    simp [firstRepeated?_eq_none_iff]
  rw [← key, ← key, ← key, brokenRule?]
  cases firstRepeated? [] d.nodeIds <;> cases firstRepeated? [] d.edgeIds <;> simp

/-! ## Looking up nodes and fields -/

/-- A node that is found belongs to the document and has the id looked for. -/
theorem mem_of_node? {id : String} {n : Node} (h : d.node? id = some n) :
    n ∈ d.nodes ∧ n.id = id :=
  ⟨List.mem_of_find?_eq_some h, by simpa using List.find?_some h⟩

/-- The id of a node finds a node. -/
theorem exists_node? {id : String} (h : id ∈ d.nodeIds) : ∃ n, d.node? id = some n := by
  obtain ⟨n, hn, rfl⟩ := List.mem_map.mp h
  exact Option.isSome_iff_exists.mp (by simpa [node?] using ⟨n, hn, rfl⟩)

/-- Where node ids are distinct, an id finds the node that has it. -/
theorem node?_eq_some_iff (hd : d.nodeIds.Nodup) {id : String} {n : Node} :
    d.node? id = some n ↔ n ∈ d.nodes ∧ n.id = id :=
  find?_key_eq_some_iff hd

/-- The fields of a document are those of its nodes. -/
theorem mem_ownedFields {owner : String} {f : FormField} :
    (owner, f) ∈ d.ownedFields ↔ ∃ n ∈ d.nodes, n.id = owner ∧ f ∈ n.fields := by
  simp only [ownedFields, List.mem_flatMap, List.mem_map, Prod.mk.injEq]
  refine exists_congr fun n => and_congr_right fun _ => ?_
  constructor
  · rintro ⟨f, hf, rfl, rfl⟩
    exact ⟨rfl, hf⟩
  · rintro ⟨rfl, hf⟩
    exact ⟨f, hf, rfl, rfl⟩

/-- The field ids of a document are those of the fields that its nodes own. -/
theorem mem_fieldIds {id : String} :
    id ∈ d.fieldIds ↔ ∃ owner f, (owner, f) ∈ d.ownedFields ∧ f.id = id := by
  simp [fieldIds, eq_comm]

/-- The field ids of a document, node by node. -/
theorem fieldIds_eq_flatMap : d.fieldIds = d.nodes.flatMap fun n => n.fields.map (·.id) := by
  simp [fieldIds, ownedFields, List.map_flatMap, Function.comp_def]

namespace Sound

/-- A sound document breaks no rule. -/
theorem brokenRule?_eq_none (hd : d.Sound) : d.brokenRule? = none :=
  brokenRule?_eq_none_iff.mpr ⟨hd.nodeIds_nodup, hd.edgeIds_nodup, hd.fieldIds_nodup⟩

/-- Two nodes with one id are the same. -/
theorem eq_of_id (hd : d.Sound) {m n : Node} (hm : m ∈ d.nodes) (hn : n ∈ d.nodes)
    (h : m.id = n.id) : m = n :=
  List.inj_on_of_nodup_map hd.nodeIds_nodup hm hn h

/-- The field ids of one node are distinct. -/
theorem fields_nodup (hd : d.Sound) {n : Node} (hn : n ∈ d.nodes) :
    (n.fields.map (·.id)).Nodup := by
  have h := hd.fieldIds_nodup
  rw [fieldIds_eq_flatMap, List.nodup_flatMap] at h
  exact h.1 n hn

/-- A field id has one owner: nodes whose fields share an id are the same. -/
theorem eq_of_field (hd : d.Sound) {m n : Node} (hm : m ∈ d.nodes) (hn : n ∈ d.nodes)
    {id : String} (hid : id ∈ m.fields.map (·.id)) (hid' : id ∈ n.fields.map (·.id)) : m = n := by
  have h := hd.fieldIds_nodup
  rw [fieldIds_eq_flatMap, List.nodup_flatMap] at h
  by_contra hne
  have : Std.Symm (Function.onFun List.Disjoint fun n : Node => n.fields.map (·.id)) :=
    ⟨fun _ _ hab _ hb ha => hab ha hb⟩
  exact h.2.forall hm hn hne hid hid'

end Sound

end Document

/-! ## What reading guarantees -/

/-- An id that passes its check is a trimmed text of id characters, and not empty. -/
theorem checkId_eq_ok {empty badChars : Rule} {s id : String} :
    checkId empty badChars s = .ok id ↔ id = trim s ∧ id ≠ "" ∧ id.toList.all isIdChar := by
  unfold checkId
  -- An empty id is refused first, then one with other characters.
  by_cases hempty : (trim s).isEmpty
  · simp only [hempty, ↓reduceIte, reduceCtorEq, false_iff, not_and]
    rintro rfl hne
    exact absurd (by simpa using hempty) hne
  · by_cases hall : (trim s).toList.all isIdChar
    · simp only [hempty, hall, Bool.false_eq_true, ↓reduceIte, Except.ok.injEq]
      constructor
      · rintro rfl
        exact ⟨rfl, by simpa using hempty, hall⟩
      · rintro ⟨rfl, -⟩
        rfl
    · simp only [hempty, hall, Bool.false_eq_true, ↓reduceIte, reduceCtorEq, false_iff, not_and]
      rintro rfl -
      exact hall

/-- A node that was read has the id that its fields give, trimmed, their kind and assignee, and a
form only as a task. -/
theorem Node.readFields_sound {fs : Fields} {n : Node} (h : Node.readFields fs = .ok n) :
    (∃ s, fs.get? "id" = some (.text s) ∧ n.id = trim s) ∧
      fs.require "type" Reader.choice = .ok n.type ∧
      fs.optional "assignee_id" Node.readNote .null = .ok n.assignee ∧
      (n.form.isSome → n.type = .task) := by
  simp only [Node.readFields, Checked.andThen_eq_ok, Checked.seq_eq_ok] at h
  obtain ⟨m, ⟨_, _, ⟨_, _, ⟨_, _, ⟨_, _, ⟨_, _, ⟨_, _, hid, htype, rfl⟩, -, rfl⟩, -, rfl⟩, -, rfl⟩,
    hassignee, rfl⟩, -, rfl⟩, hform⟩ := h
  simp only [Checked.map_eq_ok, Fields.require_eq_ok, readId, Reader.checking_eq_ok,
    Reader.text_eq_ok, checkId_eq_ok] at hid
  obtain ⟨_, ⟨_, hget, s, rfl, rfl, -⟩, rfl⟩ := hid
  -- The form is checked last, against the kind of the node.
  unfold checkForm at hform
  split at hform
  · simp at hform
  · next hcheck =>
    cases hform
    refine ⟨⟨s, hget, rfl⟩, htype, hassignee, fun hsome => ?_⟩
    simpa [hsome] using hcheck

/-- The ends of an edge that was read are the trimmed ones that its fields give. -/
theorem Edge.readFields_sound {id source target : String} {label : Value} {e : Edge}
    (h : Edge.readFields [("id", .text id), ("source", .text source), ("target", .text target),
      ("label", label)] = .ok e) : e.source = trim source ∧ e.target = trim target := by
  -- Both ends go through the same check, which trims them.
  have key {s t : String} (hend : Edge.readEnd (.text s) = .ok t) : t = trim s := by
    simp only [Edge.readEnd, Reader.checking_eq_ok, Reader.text_eq_ok, checkNotBlank] at hend
    obtain ⟨_, heq, hend⟩ := hend
    cases heq
    split at hend
    · cases hend
    · exact (Except.ok.inj hend).symm
  simp only [Edge.readFields, Checked.seq_eq_ok, Checked.map_eq_ok, Fields.require_eq_ok] at h
  obtain ⟨_, _, ⟨_, _, ⟨_, _, ⟨_, -, rfl⟩, ⟨_, hs, hsource⟩, rfl⟩, ⟨_, ht, htarget⟩, rfl⟩, -,
    rfl⟩ := h
  cases Option.some.inj hs
  cases Option.some.inj ht
  exact ⟨key hsource, key htarget⟩

/-- A document that was read is sound. -/
theorem Document.Accepted.sound {d : Document} (hd : d.Accepted) : d.Sound := by
  obtain ⟨v, hv⟩ := hd
  simp only [read, readFields, Reader.record_eq_ok, Checked.andThen_eq_ok, Checked.seq_eq_ok,
    Checked.map_eq_ok, Fields.optional_eq_ok] at hv
  obtain ⟨fs, -, _, ⟨_, edges, ⟨nodes, hnodes, rfl⟩, -, rfl⟩, hids⟩ := hv
  unfold checkIds at hids
  split at hids
  · simp at hids
  · next hrule =>
    cases hids
    obtain ⟨hn, he, hf⟩ := brokenRule?_eq_none_iff.mp hrule
    -- The list of nodes was read node by node, or is absent and so empty.
    have hread : ∀ n ∈ nodes, ∃ w, Node.read w = .ok n := by
      rcases hnodes with ⟨w, -, hw⟩ | ⟨-, rfl⟩
      · exact fun n hmem => Reader.exists_of_mem_list hw hmem
      · simp
    -- Reading trims the ids of nodes and leaves a form to tasks only.
    have hsound (n : Node) (hmem : n ∈ nodes) :
        (n.form.isSome → n.type = .task) ∧ trim n.id = n.id := by
      obtain ⟨w, hw⟩ := hread n hmem
      obtain ⟨fs, -, hfs⟩ := Reader.record_eq_ok.mp hw
      obtain ⟨⟨s, -, hid⟩, -, -, hform⟩ := Node.readFields_sound hfs
      exact ⟨hform, by rw [hid, trim_trim]⟩
    exact ⟨hn, he, hf, fun n hmem => (hsound n hmem).1, fun n hmem => (hsound n hmem).2⟩

/-! ## A sample workflow

A draft that user-1 alone may write is reviewed by anybody, who sends it back or accepts it.
-/

namespace Sample

/-- The workflow of drafts and reviews. -/
def workflow : Document where
  nodes :=
    [{ id := "start", type := .start, label := "Request" },
      { id := "draft", type := .task, label := "Draft", assignee := .text "user-1",
        form := some { fields :=
          [{ id := "notes", label := "Notes", type := .textarea, required := true }] } },
      { id := "review", type := .task, label := "Review",
        form := some { mode := .approval, fields :=
          [{ id := "shown-notes", label := "Notes", type := .readonly, source := some "notes" },
            { id := "grade", label := "Grade", type := .select, options := some ["A", "B"] }] } },
      { id := "end", type := .finish, label := "Done" }]
  edges :=
    [{ id := "begin", source := "start", target := "draft" },
      { id := "submit", source := "draft", target := "review" },
      { id := "accept", source := "review", target := "end" },
      { id := "return", source := "review", target := "draft", label := some "again" }]

theorem accepted_workflow : workflow.Accepted := ⟨workflow.toValue, rfl⟩

end Sample

end CaseFlow
