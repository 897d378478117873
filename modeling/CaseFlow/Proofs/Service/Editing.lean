import CaseFlow.Proofs.Editor.Canonical
import CaseFlow.Proofs.Service.Commits
import CaseFlow.Proofs.Store.Rows

/-!
# Editing a stored workflow

An editor of a stored app saves each document that it moves on to. Whatever commands it is given,
and whichever of them fail, the workflow of the app reads as the document of the editor exactly when
that document is plain; and as long as every patch of a node gives it no description and no assignee
but texts, it is (`Apps.workflow_session`). A patch is not checked for this, so one that gives a
number for a description leaves a workflow behind that cannot be read.
-/

namespace CaseFlow.Apps

open Service

variable {id : Option String} {ed : Editor} {w w₁ : World} {plain : Prop}

/-- The editor after a list of commands, each of which it saves unless it fails. -/
def session (id : Option String) : Editor → List Command → Service Editor
  | ed, [] => return ed
  | ed, c :: cs => do
    let (_, ed') ← command id ed c
    session id ed' cs

/-- The workflow of an app is the document of an editor, as far as that can be read. -/
structure Holds (id : Option String) (ed : Editor) (w : World) : Prop where
  /-- The store can be used. -/
  ready : w.store.condition = .ready
  /-- The row of the app reads as the document exactly when that is plain. -/
  row : ∃ r, id.bind w.store.app? = some r ∧
    (Document.read r.workflow.toValue = .ok ed.document ↔ ed.document.Plain)

/-- The workflow of an app is given exactly if its document holds nothing but texts where texts
belong. -/
theorem Holds.workflow_eq_ok_iff (h : Holds id ed w) :
    ((workflow id).perform w).1 = .ok ed.document ↔ ed.document.Plain := by
  obtain ⟨r, hr, hread⟩ := h.row
  rw [workflow_eq_ok, ← hread]
  constructor
  · rintro ⟨-, r', hr', hread'⟩
    rw [hr] at hr'
    rwa [Option.some.inj hr']
  · exact fun hread => ⟨h.ready, r, hr, hread⟩

/-- An app holds its editor in any later world with the same store. -/
theorem Holds.becomes (h : Holds id ed w) (hw : w.Becomes w₁) : Holds id ed w₁ :=
  ⟨hw.store_eq ▸ h.ready, hw.store_eq ▸ h.row⟩

/-- An editor starts with the document that the row of its app reads as. -/
theorem editorFor_holds (h : (editorFor id).perform w = (.ok ed, w₁)) :
    ed.document.Accepted ∧ Holds id ed w₁ := by
  have hbecomes : w.Becomes w₁ := by
    have hreads : w.Becomes ((editorFor id).perform w).2 := editorFor_reads w
    rwa [h] at hreads
  obtain ⟨hready, r, hr, hread⟩ := workflow_eq_ok.mp (editorFor_eq_ok h)
  have haccepted : ed.document.Accepted := ⟨_, hread⟩
  exact ⟨haccepted, Holds.becomes ⟨hready, r, hr, iff_of_true hread haccepted.canonical_plain.2⟩
    hbecomes⟩

/-- A command keeps the documents of an editor canonical, and plain if its patch is, and the
workflow of the app in step with them. -/
private theorem command_holds {c : Command} (hfit : ed.document.Fit plain) (hc : plain → c.Plain)
    (h : Holds id ed w) : ∃ r ed' w', (command id ed c).perform w = (.ok (r, ed'), w') ∧
      ed'.document.Fit plain ∧ Holds id ed' w' := by
  obtain ⟨r, ed', w', hperform, hspares, hcases⟩ := command_spec id ed c w
  refine ⟨r, ed', w', hperform, ?_⟩
  rcases hcases with ⟨rfl, hw⟩ | ⟨d, made, ids, ids', row, happly, -, rfl, hrow, hstore⟩
  · exact ⟨hfit, h.becomes hw⟩
  · have hd : d.Fit plain := Command.apply_fit hfit hc happly
    refine ⟨hd, hspares.condition_eq.trans h.ready, { row with workflow := d.kept }, ?_,
      hd.canonical.read_kept_iff⟩
    -- The row that was replaced is the one that is found.
    obtain ⟨appId, hid, hfound⟩ := Option.bind_eq_some_iff.mp hrow
    have hrowId : row.id = appId := by simpa using List.find?_some hfound
    rw [hstore, hid, Option.bind_some, Store.app?_replaceApp, if_pos hrowId.symm, hfound,
      Option.map_some]

/-- A list of commands keeps the workflow of an app the document of the editor. -/
theorem session_holds (cs : List Command) (hfit : ed.document.Fit plain)
    (hcs : plain → ∀ c ∈ cs, c.Plain) (h : Holds id ed w) :
    ∃ ed' w', (session id ed cs).perform w = (.ok ed', w') ∧
      ed'.document.Fit plain ∧ Holds id ed' w' := by
  induction cs generalizing ed w with
  | nil => exact ⟨ed, w, rfl, hfit, h⟩
  | cons c cs ih =>
    obtain ⟨r, ed₁, w₁, hperform, hfit₁, h₁⟩ :=
      command_holds hfit (fun hplain => hcs hplain c List.mem_cons_self) h
    obtain ⟨ed', w', hrest, hfit', h'⟩ :=
      ih hfit₁ (fun hplain c' hc' => hcs hplain c' (List.mem_cons_of_mem c hc')) h₁
    exact ⟨ed', w', (perform_bind_of_ok hperform).trans hrest, hfit', h'⟩

/-- Whatever commands an editor of a stored app is given, the workflow of the app is then the
document of the editor exactly when that document is plain; and if all patches of nodes are plain,
it is. -/
theorem workflow_session (h : (editorFor id).perform w = (.ok ed, w₁)) (cs : List Command) :
    ∃ ed' w', (session id ed cs).perform w₁ = (.ok ed', w') ∧
      (((workflow id).perform w').1 = .ok ed'.document ↔ ed'.document.Plain) ∧
      ((∀ c ∈ cs, c.Plain) → ((workflow id).perform w').1 = .ok ed'.document) := by
  obtain ⟨haccepted, hholds⟩ := editorFor_holds h
  have hfit : ed.document.Fit (∀ c ∈ cs, c.Plain) := haccepted.fit
  obtain ⟨ed', w', hperform, hfit', h'⟩ := session_holds cs hfit (fun hcs => hcs) hholds
  have hiff := h'.workflow_eq_ok_iff
  exact ⟨ed', w', hperform, hiff, fun hcs => hiff.mpr (hfit'.isPlain hcs)⟩

end CaseFlow.Apps

/-! ## A sample app -/

namespace CaseFlow.Sample

/-- An installation with one app, which has the sample workflow. -/
def world : World :=
  { store := { apps := [{ id := "app-1", name := "Reports", icon := "", themeColor := "blue",
                          workflow }] } }

/-- The world after the editor has looked the app up. -/
def looked : World := ((Apps.editorFor (some "app-1")).perform world).2

theorem editorFor_world : (Apps.editorFor (some "app-1")).perform world
    = (.ok { document := workflow }, looked) := rfl

/-- Commands with plain patches, of which the second is refused. -/
def plainCommands : List Command :=
  [.updateNode "draft" [("description", .text "Write it down"), ("assignee_id", .int 0)],
    .deleteNode "archive", .updateNode "review" [("assignee_id", .text "user-2")]]

end CaseFlow.Sample

namespace CaseFlow.Apps

open Service

/-- After the plain commands the workflow of the sample app is the document of the editor. -/
theorem workflow_session_sample : ∃ ed' w',
    (session (some "app-1") { document := Sample.workflow } Sample.plainCommands).perform
        Sample.looked = (.ok ed', w') ∧
      ((workflow (some "app-1")).perform w').1 = .ok ed'.document := by
  obtain ⟨ed', w', hperform, -, hworkflow⟩ :=
    workflow_session Sample.editorFor_world Sample.plainCommands
  refine ⟨ed', w', hperform, hworkflow fun c hc => ?_⟩
  simp only [Sample.plainCommands, List.mem_cons, List.not_mem_nil, or_false] at hc
  -- The first command gives a description and no assignee, the last one an assignee and no
  -- description.
  rcases hc with rfl | rfl | rfl
  · refine ⟨fun v hv => ⟨some "Write it down", (Option.some.inj hv).symm⟩, fun v hv htruthy => ?_⟩
    obtain rfl : Value.int 0 = v := Option.some.inj hv
    cases htruthy
  · trivial
  · exact ⟨fun v hv => (by cases hv), fun v hv _ => ⟨some "user-2", (Option.some.inj hv).symm⟩⟩

/-- A patch may give a number for a description, and then the workflow cannot be read any more. -/
theorem workflow_lost_by_patch : ∃ ed' w',
    (session (some "app-1") { document := Sample.workflow }
        [.updateNode "draft" [("description", .int 5)]]).perform Sample.looked = (.ok ed', w') ∧
      ((workflow (some "app-1")).perform w').1 ≠ .ok ed'.document := by
  have hholds := (editorFor_holds Sample.editorFor_world).2
  have hfit : Sample.workflow.Fit False := Sample.accepted_workflow.fit
  obtain ⟨ed', w', hperform, -, h'⟩ := session_holds
    [.updateNode "draft" [("description", .int 5)]] hfit (fun h => h.elim) hholds
  refine ⟨ed', w', hperform, fun hread => ?_⟩
  have hplain := h'.workflow_eq_ok_iff.mp hread
  -- The command succeeds, so the editor holds a description that is given and is no text.
  have hrun : ((session (some "app-1") { document := Sample.workflow }
      [.updateNode "draft" [("description", .int 5)]]).perform Sample.looked).1.toOption.map
        (·.document.nodes.any fun n => n.description.truthy && n.description.text?.isNone)
      = some true := by decide +kernel
  rw [hperform] at hrun
  obtain ⟨n, hn, hdescription⟩ := List.any_eq_true.mp (Option.some.inj hrun)
  obtain ⟨s, hs⟩ := (hplain n hn).description_isNote
  rw [hs] at hdescription
  cases s <;> simp [Value.ofText?, Value.truthy, Value.text?] at hdescription

end CaseFlow.Apps
