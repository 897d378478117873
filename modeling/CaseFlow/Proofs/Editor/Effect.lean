import CaseFlow.Proofs.Editor.Checking

/-!
# What a command makes of a document

Each command that succeeds has one effect (`Command.Effect`): a node is added, moved, patched,
removed or given another form, an edge is added or removed, or no edge is wanted. Each case names
the command and the new document together, so whatever is said about the commands one by one is
argued by cases on effects (`Command.apply_effect`). A revision, in contrast, forgets the command
and keeps what invariants need.

The first thing said is the frame: a command changes what it names and nothing else
(`Command.apply_confined`). Nodes and edges keep their order, a node that is replaced differs in the
attributes that the command or its patch names, and all others are the same.
-/

namespace CaseFlow

open CaseFlow.Text

variable {d d' : Document} {n m : Node} {e : Edge} {c : Command} {made : Made} {loops : Bool}
  {ids ids' : IdSource}

/-! ## Effects -/

/-- What a command makes of a document, if it succeeds. -/
inductive Command.Effect (d : Document) : Command → Made → Document → Prop
  /-- A node is added at the end. -/
  | nodeAdded {type position id label : Value} {n : Node} (hfresh : n.Fresh)
      (hnew : n.id ∉ d.nodeIds) :
      Effect d (.addNode type position id label) (.node n) { d with nodes := d.nodes ++ [n] }
  /-- A node gets another place. -/
  | nodeMoved {id : String} {v : Value} {n : Node} {p : Position} (hn : d.node? id = some n)
      (hp : Position.given v = .ok p) :
      Effect d (.moveNode id v) .document { d with nodes := d.replaced { n with position := p } }
  /-- A node takes a patch. -/
  | nodePatched {id : String} {patch : Fields} {n : Node} {form : Option Form}
      (hn : d.node? id = some n) (hnames : ∀ name ∈ patch.names, name ∈ Document.patchable)
      (htakes : n.Takes patch) (hform : d.FormPatched n patch form) :
      Effect d (.updateNode id patch) .document
        { d with nodes := d.replaced { n.patched patch with form } }
  /-- A node is removed with the edges that touch it. -/
  | nodeRemoved {id : String} {n : Node} (hn : d.node? id = some n) :
      Effect d (.deleteNode id) .document
        { nodes := d.nodes.filter (·.id != id), edges := d.edges.filter fun e => !e.touches id }
  /-- An edge is added at the end. -/
  | edgeAdded {source target : String} {label : Value} {e : Edge} (hsource : e.source = source)
      (htarget : e.target = target) (hnew : e.id ∉ d.edgeIds) :
      Effect d (.connect source target label) (.edge e) { d with edges := d.edges ++ [e] }
  /-- No edge is added. -/
  | edgeSpared {source target : String} {label : Value} :
      Effect d (.connect source target label) .noEdge d
  /-- An edge is removed. -/
  | edgeRemoved {id : String} {e : Edge} (he : d.edge? id = some e) :
      Effect d (.deleteEdge id) .document { d with edges := d.edges.filter (·.id != id) }
  /-- A form gets another mode. -/
  | modeSet {id : String} {v : Value} {n : Node} {mode : FormMode} {d' : Document}
      (hn : d.node? id = some n) (hmode : Reader.choice v = .ok mode)
      (hgiven : d.FormGiven n ⟨mode, n.fields⟩ d') :
      Effect d (.setFormMode id v) .document d'
  /-- A form gets one more field. -/
  | fieldAdded {id : String} {v : Value} {n : Node} {form : Form} {f : FormField} {d' : Document}
      (hn : d.node? id = some n) (hform : n.form = some form) (hf : FormField.read v = .ok f)
      (hgiven : d.FormGiven n { form with fields := form.fields ++ [f] } d') :
      Effect d (.addFormField id v) .document d'
  /-- A field of a form takes a patch. -/
  | fieldPatched {id fieldId : String} {patch : Fields} {n : Node} {form : Form}
      {old f : FormField} {d' : Document} (hn : d.node? id = some n) (hform : n.form = some form)
      (hold : form.field? fieldId = some old)
      (hf : FormField.read (.object (old.toFields.merge patch)) = .ok f)
      (hgiven : d.FormGiven n { form with
        fields := form.fields.map fun g => if g.id == fieldId then f else g } d') :
      Effect d (.updateFormField id fieldId patch) .document d'
  /-- A field of a form is removed. -/
  | fieldRemoved {id fieldId : String} {n : Node} {form : Form} {f : FormField}
      (hn : d.node? id = some n) (hform : n.form = some form)
      (hf : form.field? fieldId = some f) :
      Effect d (.deleteFormField id fieldId) .document
        { d with nodes := d.replaced { n with
            form := some { form with fields := form.fields.filter (·.id != fieldId) } } }

/-- A command that succeeds on a sound document has one of these effects. -/
theorem Command.apply_effect (hd : d.Sound) (h : (c.apply loops d ids).1 = .ok (d', made)) :
    c.Effect d made d' := by
  cases c with
  | addNode type position id label =>
    obtain ⟨n, rfl, hadd⟩ := apply_addNode_eq_ok h
    obtain ⟨⟨t, hn⟩, rfl, hrule⟩ := Document.addNode_eq_ok (Prod.ext hadd rfl)
    -- The document was rebuilt with one more node, so the id of that is new.
    obtain ⟨hnodes, -, -⟩ := Document.brokenRule?_eq_none_iff.mp hrule
    exact .nodeAdded (Document.newNode_fresh (Prod.ext hn rfl))
      (nodup_map_append_singleton.mp hnodes).1
  | connect source target label =>
    obtain ⟨rfl, rfl⟩ | ⟨e, rfl, hconnect⟩ := apply_connect_eq_ok h
    · exact .edgeSpared
    · obtain ⟨⟨a, ha⟩, ⟨b, hb⟩, -, -, ⟨hsource, htarget⟩, rfl, hrule⟩ :=
        Document.connect_eq_ok (Prod.ext hconnect rfl)
      -- The ends are trimmed, and the ids of nodes are so already.
      obtain ⟨hmem, rfl⟩ := Document.mem_of_node? ha
      obtain ⟨hmem', rfl⟩ := Document.mem_of_node? hb
      obtain ⟨-, hedges, -⟩ := Document.brokenRule?_eq_none_iff.mp hrule
      exact .edgeAdded (hsource.trans (hd.id_trimmed a hmem))
        (htarget.trans (hd.id_trimmed b hmem')) (nodup_map_append_singleton.mp hedges).1
  | moveNode id position =>
    obtain ⟨hd', rfl⟩ := Edit.map_document_eq_ok.mp h
    obtain ⟨n, p, hn, hp, hd'⟩ := Document.moveNode_eq_ok.mp hd'
    obtain ⟨rfl, -⟩ := Document.replaceNode_eq_ok.mp hd'
    exact .nodeMoved hn hp
  | updateNode id patch =>
    obtain ⟨hd', rfl⟩ := Edit.map_document_eq_ok.mp h
    -- From here on each command has a lemma that says what it does where it succeeds.
    obtain ⟨n, form, hn, hnames, htakes, hform, rfl⟩ := hd.updateNode_eq_ok_iff.mp hd'
    exact .nodePatched hn hnames htakes hform
  | deleteNode id =>
    obtain ⟨hd', rfl⟩ := Edit.map_document_eq_ok.mp h
    obtain ⟨⟨n, hn⟩, rfl, -⟩ := Document.deleteNode_eq_ok.mp hd'
    exact .nodeRemoved hn
  | deleteEdge id =>
    obtain ⟨hd', rfl⟩ := Edit.map_document_eq_ok.mp h
    obtain ⟨⟨e, he⟩, rfl, -⟩ := Document.deleteEdge_eq_ok.mp hd'
    exact .edgeRemoved he
  | setFormMode id mode =>
    obtain ⟨hd', rfl⟩ := Edit.map_document_eq_ok.mp h
    obtain ⟨n, mode, hn, hmode, hgiven⟩ := hd.setFormMode_eq_ok_iff.mp hd'
    exact .modeSet hn hmode hgiven
  | addFormField id field =>
    obtain ⟨hd', rfl⟩ := Edit.map_document_eq_ok.mp h
    obtain ⟨n, form, f, hn, hform, hf, hgiven⟩ := hd.addFormField_eq_ok_iff.mp hd'
    exact .fieldAdded hn hform hf hgiven
  | updateFormField id fieldId patch =>
    obtain ⟨hd', rfl⟩ := Edit.map_document_eq_ok.mp h
    obtain ⟨n, form, old, f, hn, hform, hold, hf, hgiven⟩ := hd.updateFormField_eq_ok_iff.mp hd'
    exact .fieldPatched hn hform hold hf hgiven
  | deleteFormField id fieldId =>
    obtain ⟨hd', rfl⟩ := Edit.map_document_eq_ok.mp h
    obtain ⟨n, form, f, hn, hform, hf, hd'⟩ := Document.deleteFormField_eq_ok.mp hd'
    obtain ⟨rfl, -⟩ := Document.replaceNode_eq_ok.mp hd'
    exact .fieldRemoved hn hform hf

/-! ## What a command leaves alone -/

/-- Node `m` is node `n` but for attributes that are named. -/
structure Node.DiffersIn (names : List String) (n m : Node) : Prop where
  /-- The id stays. -/
  id_eq : m.id = n.id
  /-- The kind stays. -/
  type_eq : m.type = n.type
  /-- The label stays if it is not named, -/
  label_eq : "label" ∉ names → m.label = n.label
  /-- and so does the description, -/
  description_eq : "description" ∉ names → m.description = n.description
  /-- the place, -/
  position_eq : "position" ∉ names → m.position = n.position
  /-- the assignee -/
  assignee_eq : "assignee_id" ∉ names → m.assignee = n.assignee
  /-- and the form. -/
  form_eq : "form" ∉ names → m.form = n.form

/-- The node that a command changes in its place, if it is such a command, and the attributes of the
node that the command or its patch names. -/
def Command.revised? : Command → Option (String × List String)
  | .moveNode id _ => some (id, ["position"])
  | .updateNode id patch => some (id, patch.names)
  | .setFormMode id _ | .addFormField id _ => some (id, ["form"])
  | .updateFormField id _ _ | .deleteFormField id _ => some (id, ["form"])
  | .addNode .. | .connect .. | .deleteNode _ | .deleteEdge _ => none

/-- A command made of document `d` what it names, and left everything else as and where it was. -/
inductive Command.Confined (d : Document) : Command → Made → Document → Prop
  /-- One node is appended, with an id of its own. -/
  | nodeAppended {type position id label : Value} {n : Node} (hnew : n.id ∉ d.nodeIds) :
      Confined d (.addNode type position id label) (.node n) { d with nodes := d.nodes ++ [n] }
  /-- One node is removed, and the edges that leave or reach it. -/
  | nodeErased {i : Nat} {n : Node} (hn : d.nodes[i]? = some n) :
      Confined d (.deleteNode n.id) .document
        { nodes := d.nodes.eraseIdx i, edges := d.edges.filter fun e => !e.touches n.id }
  /-- One node is replaced in its place by one that differs in named attributes only. -/
  | nodeRevised {c : Command} {i : Nat} {n m : Node} {names : List String}
      (hc : c.revised? = some (n.id, names)) (hn : d.nodes[i]? = some n)
      (hm : n.DiffersIn names m) :
      Confined d c .document { d with nodes := d.nodes.set i m }
  /-- One edge between the nodes is appended, with an id of its own. -/
  | edgeAppended {source target : String} {label : Value} {e : Edge} (hsource : e.source = source)
      (htarget : e.target = target) (hnew : e.id ∉ d.edgeIds) :
      Confined d (.connect source target label) (.edge e) { d with edges := d.edges ++ [e] }
  /-- No edge is wanted, and nothing happens. -/
  | unchanged {source target : String} {label : Value} :
      Confined d (.connect source target label) .noEdge d
  /-- One edge is removed. -/
  | edgeErased {i : Nat} {e : Edge} (he : d.edges[i]? = some e) :
      Confined d (.deleteEdge e.id) .document { d with edges := d.edges.eraseIdx i }

/-- A node with another form differs in the form. -/
theorem Node.differsIn_form (n : Node) (form : Option Form) :
    n.DiffersIn ["form"] { n with form } where
  id_eq := rfl
  type_eq := rfl
  label_eq _ := rfl
  description_eq _ := rfl
  position_eq _ := rfl
  assignee_eq _ := rfl
  form_eq h := by simp at h

/-- A node differs in what a patch of it names, the form included. -/
private theorem Node.differsIn_patched {patch : Fields} {form : Option Form}
    (hform : d.FormPatched n patch form) :
    n.DiffersIn patch.names { n.patched patch with form } := by
  -- What a patch does not name it does not give.
  have hnone {name : String} (h : name ∉ patch.names) : patch.get? name = none :=
    Fields.get?_eq_none_iff.mpr h
  refine ⟨rfl, rfl, fun h => ?_, fun h => ?_, fun _ => rfl, fun h => ?_, fun h => ?_⟩
  · simp [patched, hnone h]
  · simp [patched, hnone h]
  · simp [patched, hnone h]
  · cases hform with
    | kept => rfl
    | removed hv => simp [hnone h] at hv
    | given hv => simp [hnone h] at hv

/-- A node that was found is replaced in its place. -/
theorem Command.confined_of_replaced (hd : d.Sound) {id : String} {names : List String}
    (hc : c.revised? = some (id, names)) (hn : d.node? id = some n) (hm : n.DiffersIn names m) :
    c.Confined d .document { d with nodes := d.replaced m } := by
  obtain ⟨hmem, rfl⟩ := Document.mem_of_node? hn
  obtain ⟨i, hi⟩ := List.mem_iff_getElem?.mp hmem
  have hset : d.replaced m = d.nodes.set i m := by
    rw [← map_key_eq_set hd.nodeIds_nodup hi m, Document.replaced, hm.id_eq]
  rw [hset]
  exact .nodeRevised hc hi hm

/-- A command that succeeds changes what it names and nothing else. -/
theorem Command.apply_confined (hd : d.Sound) (h : (c.apply loops d ids).1 = .ok (d', made)) :
    c.Confined d made d' := by
  cases apply_effect hd h with
  | nodeAdded _ hnew => exact .nodeAppended hnew
  | @nodeMoved _ _ n p hn =>
    refine confined_of_replaced hd rfl hn ?_
    exact ⟨rfl, rfl, fun _ => rfl, fun _ => rfl, fun h => by simp at h, fun _ => rfl, fun _ => rfl⟩
  | nodePatched hn _ _ hform => exact confined_of_replaced hd rfl hn (Node.differsIn_patched hform)
  | nodeRemoved hn =>
    obtain ⟨hmem, rfl⟩ := Document.mem_of_node? hn
    obtain ⟨i, hi⟩ := List.mem_iff_getElem?.mp hmem
    -- Ids are distinct, so deleting by the id deletes one entry, at its position.
    rw [filter_key_eq_eraseIdx hd.nodeIds_nodup hi]
    exact .nodeErased hi
  | edgeAdded hsource htarget hnew => exact .edgeAppended hsource htarget hnew
  | edgeSpared => exact .unchanged
  | edgeRemoved he =>
    obtain ⟨hmem, rfl⟩ := (find?_key_eq_some_iff hd.edgeIds_nodup).mp he
    obtain ⟨i, hi⟩ := List.mem_iff_getElem?.mp hmem
    rw [filter_key_eq_eraseIdx hd.edgeIds_nodup hi]
    exact .edgeErased hi
  -- All that a command on a form changes is the form of its node.
  | modeSet hn _ hgiven =>
    obtain ⟨-, -, rfl⟩ := hgiven
    exact confined_of_replaced hd rfl hn (Node.differsIn_form _ _)
  | fieldAdded hn _ _ hgiven =>
    obtain ⟨-, -, rfl⟩ := hgiven
    exact confined_of_replaced hd rfl hn (Node.differsIn_form _ _)
  | fieldPatched hn _ _ _ hgiven =>
    obtain ⟨-, -, rfl⟩ := hgiven
    exact confined_of_replaced hd rfl hn (Node.differsIn_form _ _)
  | fieldRemoved hn => exact confined_of_replaced hd rfl hn (Node.differsIn_form _ _)

/-- The sample workflow with another label for the draft, which loses its form. -/
def Sample.rewritten : Document :=
  { Sample.workflow with nodes := Sample.workflow.nodes.map fun n =>
      if n.id == "draft" then { n with label := "Write", form := none } else n }

/-- A patch of the draft that names its label and its form leaves its assignee, its place and all
other nodes and edges alone. -/
theorem Command.apply_confined_sample :
    ((updateNode "draft" [("label", .text "Write"), ("form", .null)]).apply false
      Sample.workflow .counter).1 = .ok (Sample.rewritten, .document) ∧
    (updateNode "draft" [("label", .text "Write"), ("form", .null)]).Confined Sample.workflow
      .document Sample.rewritten := by
  have happly : ((updateNode "draft" [("label", .text "Write"), ("form", .null)]).apply false
      Sample.workflow .counter).1 = .ok (Sample.rewritten, .document) := by
    refine Edit.map_document_eq_ok.mpr ⟨?_, rfl⟩
    -- The patch is checked part by part: its names, its values, and the form that it removes.
    refine Sample.accepted_workflow.sound.updateNode_eq_ok_iff.mpr ⟨_, none, rfl, ?_, ?_, ?_, rfl⟩
    · decide
    · exact ⟨fun v hv => ⟨"Write", (Option.some.inj hv).symm, rfl⟩, fun v hv => nomatch hv⟩
    · exact .removed rfl
  exact ⟨happly, apply_confined Sample.accepted_workflow.sound happly⟩

end CaseFlow
