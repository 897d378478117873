import CaseFlow.Proofs.Editor.Undoing
import CaseFlow.Proofs.Workflow.Identity

/-!
# Connecting nodes

Two nodes of a document that was read are connected by one command, whatever the label is, unless
the edge would be an unwanted loop (`Document.Accepted.connects`). A pair that is connected already
is left as it is, so that it makes no difference how often it is connected
(`Document.applyAll_connected`).

An edge is named for its ends. Since ids may contain hyphens, two pairs can give one name, and the
name can be in use for other reasons; then ids are drawn until one is new. Rebuilding the document
would refuse an id that is in use, so the command succeeds only since the search finds a new one.
-/

namespace CaseFlow

variable {d d' : Document} {loops : Bool} {ids : IdSource} {a b : String} {v : Value}
  {label : Option String}

/-- The fields of an edge between names are read as they are. -/
private theorem Edge.readFields_of_isName {id : String} (ha : IsName a) (hb : IsName b) :
    Edge.readFields [("id", .text id), ("source", .text a), ("target", .text b),
      ("label", .ofText? label)] = .ok { id, source := a, target := b, label } :=
  Canonical.read_toValue (e := { id, source := a, target := b, label }) ⟨ha, hb⟩

namespace Document

/-- The edges that lead from one node to another, in document order. -/
def between (d : Document) (a b : String) : List Edge :=
  d.edges.filter fun e => e.source == a && e.target == b

/-- Two nodes are not connected exactly if there is no edge between them. -/
theorem isConnected_eq_false_iff : d.isConnected a b = false ↔ d.between a b = [] := by
  simp [isConnected, between, List.filter_eq_nil_iff]

/-- An edge that is added is the last one between its ends. -/
private theorem between_append {e : Edge} (hsource : e.source = a) (htarget : e.target = b) :
    ({ d with edges := d.edges ++ [e] } : Document).between a b = d.between a b ++ [e] := by
  simp [between, hsource, htarget]

/-- The id of a new edge is new, if the texts that are drawn for it have distinct heads. -/
theorem newEdgeId_not_mem (h : ids.DrawsApart (d.newEdgeId a b ids).2) :
    (d.newEdgeId a b ids).1 ∉ d.edgeIds := by
  unfold newEdgeId at h ⊢
  dsimp only at h ⊢
  split at h
  · next htaken =>
    rw [if_pos htaken]
    exact IdSource.drawNew_not_mem h
  · next hfree =>
    rw [if_neg hfree]
    simpa using hfree

/-- Nothing is done to connect two nodes that are connected. -/
private theorem connect_of_between_ne_nil (ha : a ∈ d.nodeIds) (hb : b ∈ d.nodeIds)
    (hsome : d.between a b ≠ []) : d.connect loops a b v ids = (.ok none, ids) := by
  obtain ⟨m, hm⟩ := exists_node? ha
  obtain ⟨n, hn⟩ := exists_node? hb
  have hconnected : d.isConnected a b = true :=
    Bool.of_not_eq_false (mt isConnected_eq_false_iff.mp hsome)
  rw [connect, requireNode_eq_ok.mpr hm, requireNode_eq_ok.mpr hn]
  simp only [hconnected, ↓reduceIte]
  split <;> rfl

/-- The ids of a document that was read are trimmed and not empty. -/
theorem Accepted.isName (hd : d.Accepted) (ha : a ∈ d.nodeIds) : IsName a := by
  obtain ⟨n, hn, rfl⟩ := List.mem_map.mp ha
  exact (hd.canonical_plain.1.nodes_canonical n hn).id_isId.1

/-- An edge with a new id can be added to a sound document. -/
theorem Sound.rebuild_edge (hd : d.Sound) {e : Edge} (hnew : e.id ∉ d.edgeIds) :
    rebuild d.nodes (d.edges ++ [e]) = .ok { d with edges := d.edges ++ [e] } := by
  refine rebuild_eq_ok.mpr ⟨rfl, brokenRule?_eq_none_iff.mpr ?_⟩
  have hedges := nodup_map_append_singleton.mpr ⟨hnew, hd.edgeIds_nodup⟩
  exact ⟨hd.nodeIds_nodup, hedges, hd.fieldIds_nodup⟩

/-- Two nodes that are not connected are connected by an edge with a new id. -/
private theorem Accepted.connect_new (hd : d.Accepted) (ha : a ∈ d.nodeIds) (hb : b ∈ d.nodeIds)
    (hloop : a ≠ b ∨ loops = true) (hnone : d.between a b = [])
    (hids : ids.DrawsApart (d.newEdgeId a b ids).2) {e : Edge}
    (he : e = { id := (d.newEdgeId a b ids).1, source := a, target := b, label }) :
    d.connect loops a b (.ofText? label) ids =
      (.ok (some ({ d with edges := d.edges ++ [e] }, e)), (d.newEdgeId a b ids).2) := by
  obtain ⟨m, hm⟩ := exists_node? ha
  obtain ⟨n, hn⟩ := exists_node? hb
  have hwanted : (a == b && !loops) = false := by
    rcases hloop with hne | rfl
    · simp [hne]
    · simp
  have hnew : e.id ∉ d.edgeIds := by
    rw [he]
    exact newEdgeId_not_mem hids
  rw [connect, requireNode_eq_ok.mpr hm, requireNode_eq_ok.mpr hn]
  simp only [hwanted, isConnected_eq_false_iff.mpr hnone, Bool.false_eq_true, ↓reduceIte]
  -- The ends are names, so the edge is read as it is, and its id is new, so it can be added.
  rw [Edge.readFields_of_isName (hd.isName ha) (hd.isName hb), ← he]
  simp only [Checked.toExcept, hd.sound.rebuild_edge hnew]
  rfl

/-- Two nodes that are not connected are connected by an edge that the command makes. -/
theorem Accepted.apply_new (hd : d.Accepted) (ha : a ∈ d.nodeIds) (hb : b ∈ d.nodeIds)
    (hloop : a ≠ b ∨ loops = true) (hnone : d.between a b = [])
    (hids : ids.DrawsApart (d.newEdgeId a b ids).2) (label : Option String) : ∃ e : Edge,
      (Command.connect a b (.ofText? label)).apply loops d ids =
          (.ok ({ d with edges := d.edges ++ [e] }, .edge e), (d.newEdgeId a b ids).2) ∧
        e.source = a ∧ e.target = b ∧ e.label = label ∧ e.id ∉ d.edgeIds := by
  refine ⟨{ id := (d.newEdgeId a b ids).1, source := a, target := b, label }, ?_, rfl, rfl, rfl,
    newEdgeId_not_mem hids⟩
  simp only [Command.apply, hd.connect_new ha hb hloop hnone hids rfl]
  rfl

/-! ## Connecting the same nodes again -/

/-- A command that connects two nodes which are connected already leaves everything as it is. -/
theorem apply_connected (ha : a ∈ d.nodeIds) (hb : b ∈ d.nodeIds) (hsome : d.between a b ≠ []) :
    (Command.connect a b v).apply loops d ids = (.ok (d, .noEdge), ids) := by
  simp only [Command.apply, connect_of_between_ne_nil ha hb hsome]
  rfl

/-- Connecting what is connected changes nothing, however often it is tried. -/
theorem applyAll_connected (ha : a ∈ d.nodeIds) (hb : b ∈ d.nodeIds) (hsome : d.between a b ≠ [])
    (labels : List (Option String)) :
    Command.applyAll loops d ids (labels.map fun label => .connect a b (.ofText? label)) =
      (.ok d, ids) := by
  induction labels with
  | nil => rfl
  | cons label labels ih =>
    rw [List.map_cons, Command.applyAll, apply_connected ha hb hsome]
    exact ih

/-- Two nodes of a document that was read, of which one may be the other if loops are wanted, are
connected whatever the label is, by an edge with a new id; once they are connected, nothing more
happens. For the id of the edge, texts with distinct heads are drawn. -/
theorem Accepted.connects (hd : d.Accepted) (loops : Bool) (ids : IdSource) (ha : a ∈ d.nodeIds)
    (hb : b ∈ d.nodeIds) (hloop : a ≠ b ∨ loops = true)
    (hids : d.between a b = [] → ids.DrawsApart (d.newEdgeId a b ids).2) :
    (d.between a b = [] → ∀ label : Option String, ∃ e : Edge,
      (Command.connect a b (.ofText? label)).apply loops d ids =
          (.ok ({ d with edges := d.edges ++ [e] }, .edge e), (d.newEdgeId a b ids).2) ∧
        e.source = a ∧ e.target = b ∧ e.label = label ∧ e.id ∉ d.edgeIds) ∧
    (d.between a b ≠ [] → ∀ label : Option String,
      (Command.connect a b (.ofText? label)).apply loops d ids = (.ok (d, .noEdge), ids)) ∧
    ∀ labels : List (Option String), labels ≠ [] → ∃ d' ids',
      Command.applyAll loops d ids (labels.map fun label => .connect a b (.ofText? label)) =
          (.ok d', ids') ∧
        (d'.between a b).length = (d.between a b).length + if d.between a b = [] then 1 else 0 := by
  refine ⟨fun hnone => hd.apply_new ha hb hloop hnone (hids hnone),
    fun hsome _ => apply_connected ha hb hsome, fun labels hlabels => ?_⟩
  -- Where the nodes are connected already no label adds an edge; else the first one does.
  by_cases hnone : d.between a b = []
  · obtain ⟨label, rest, rfl⟩ := List.exists_cons_of_ne_nil hlabels
    obtain ⟨e, happly, hsource, htarget, -, -⟩ :=
      hd.apply_new ha hb hloop hnone (hids hnone) label
    -- After the first command the nodes are connected, by the edge that it made.
    have hbetween : ({ d with edges := d.edges ++ [e] } : Document).between a b = [e] := by
      rw [between_append hsource htarget, hnone, List.nil_append]
    refine ⟨{ d with edges := d.edges ++ [e] }, (d.newEdgeId a b ids).2, ?_, ?_⟩
    · rw [List.map_cons, Command.applyAll, happly]
      refine applyAll_connected ?_ ?_ ?_ rest
      · exact ha
      · exact hb
      · simp [hbetween]
    · simp [hbetween, hnone]
  · exact ⟨d, ids, applyAll_connected ha hb hnone labels, by simp [hnone]⟩

end Document

/-! ## Ends that give one name -/

namespace Sample

/-- A workflow with an edge whose name is that of another pair of nodes, too, and with an edge that
has the id drawn first for that name. -/
def hyphened : Document where
  nodes := ["a", "b-c", "a-b", "c"].map fun id => { id, type := .task, label := id }
  edges :=
    [{ id := "edge-a-b-c", source := "a-b", target := "c" },
      { id := "edge-a-b-c-00000001", source := "c", target := "a" }]

theorem accepted_hyphened : hyphened.Accepted := ⟨hyphened.toValue, rfl⟩

end Sample

/-- The edge whose name is in use gets the id that is drawn second. -/
theorem Document.connects_sample :
    Sample.hyphened.newEdgeId "a" "b-c" .counter =
        ("edge-a-b-c-00000002", IdSource.counter.skip 2) ∧
    (∃ d' e, (Command.connect "a" "b-c" (.ofText? (some "go"))).apply false Sample.hyphened
        .counter = (.ok (d', .edge e), IdSource.counter.skip 2) ∧ e.label = some "go" ∧
      e.id ∉ Sample.hyphened.edgeIds) ∧
    (Command.connect "a-b" "c" (.ofText? none)).apply false Sample.hyphened .counter =
      (.ok (Sample.hyphened, .noEdge), .counter) ∧
    (∃ d' ids', Command.applyAll false Sample.hyphened .counter
        ([some "go", none, some "stop"].map fun label => .connect "a" "b-c" (.ofText? label)) =
          (.ok d', ids') ∧ (d'.between "a" "b-c").length = 1) := by
  have hids : Sample.hyphened.newEdgeId "a" "b-c" .counter =
      ("edge-a-b-c-00000002", IdSource.counter.skip 2) := rfl
  -- Between these two there is no edge yet, between the next two there is.
  obtain ⟨hfree, -, hmany⟩ := Sample.accepted_hyphened.connects (a := "a") (b := "b-c") false
    .counter (by decide) (by decide) (.inl (by decide)) fun _ => by rw [hids]; decide
  obtain ⟨-, hconnected, -⟩ := Sample.accepted_hyphened.connects (a := "a-b") (b := "c") false
    .counter (by decide) (by decide) (.inl (by decide)) fun h => absurd h (by decide)
  -- The id that hyphens would give is in use, so that the second one drawn is taken.
  refine ⟨hids, ?_, hconnected (by decide) none, ?_⟩
  · obtain ⟨e, happly, -, -, hlabel, hnew⟩ := hfree (by decide) (some "go")
    exact ⟨_, e, happly, hlabel, hnew⟩
  · obtain ⟨d', ids', happly, hcount⟩ := hmany [some "go", none, some "stop"] (by decide)
    exact ⟨d', ids', happly, hcount⟩

end CaseFlow
