import CaseFlow.Proofs.Case.Refusal
import CaseFlow.Proofs.Workflow.Validation

/-!
# Progress

A case of a document in which validation finds nothing is never stranded
(`Document.Clean.never_stranded`): it can be opened, it stays on steps of the document, and whoever
may complete the step at which it sits gets it on to the next one, unless that step is final. Only
where a choice is demanded, and none is made that counts, does the case wait for one.

Validation looks at the document once, a run at one step after the other. What carries over is
`Document.Navigable`, from which every search for the next step gets its edges and their ends.
-/

namespace CaseFlow

open CaseFlow.Text

variable {d : Document} {n : Node}

/-! ## The next step -/

namespace Document

/-- From a step that is not final a navigable document has a next step, unless there are several
ways out and a choice is demanded. -/
theorem Navigable.nextStep_cases (hd : d.Navigable) (hn : d.node? n.id = some n)
    (hfinal : n.type ≠ .finish) (strict : Bool) (choice : Option String) :
    (∃ next, d.nextStep strict (some n.id) choice = .ok next) ∨
      (strict = true ∧ 1 < (d.outgoing n.id).length ∧
        d.nextStep strict (some n.id) choice
          = .error (.ambiguous n.id ((d.outgoing n.id).map (·.target)))) := by
  have hout := hd.outgoing_ne n (mem_of_node? hn).1 hfinal
  cases hnext : d.nextStep strict (some n.id) choice with
  | ok next => exact .inl ⟨next, rfl⟩
  | error e =>
    obtain hpick | ⟨t, hpick, hnone, -⟩ := (nextStep_eq_error hn).mp hnext
    · obtain ⟨hend, -⟩ | ⟨hstrict, hmany, -, rfl⟩ := pickTarget_eq_error.mp hpick
      · exact absurd hend hout
      · exact .inr ⟨hstrict, hmany, rfl⟩
    · -- The target that is picked is that of an edge, and so a node.
      obtain ⟨e, he, rfl⟩ := mem_of_pickTarget hpick
      obtain ⟨next, hfound⟩ := exists_node? (hd.linked e (List.mem_filter.mp he).1).2
      rw [hfound] at hnone
      cases hnone

end Document

/-! ## Opening a case -/

namespace Case

/-- What is told about a case has the types that a case asks for. -/
structure Opening.WellTyped (o : Opening) : Prop where
  appId : ∃ s, o.appId = .text s
  description : ∃ s, o.description = .text s
  priority : ∃ p : Priority, o.priority = .text (Worded.word p)
  assigneeId : o.assigneeId.IsNote
  client : ∃ s, o.client = .text s
  tags : ∃ ts, tagList o.tags = .ok (.ofTexts ts)
  caseId : o.caseId.IsNote

/-- A case can be opened wherever there is a start, under every title that is not blank. -/
private theorem exists_opened (hd : d.starts ≠ []) {o : Opening} (ho : o.WellTyped) {title : String}
    (htitle : o.title = .text title) (hblank : blank title = false) (now : Timestamp)
    (ids : IdSource) : ∃ c, (opened d o now ids).1 = .ok c := by
  obtain ⟨appId, happ⟩ := ho.appId
  obtain ⟨description, hdescription⟩ := ho.description
  obtain ⟨priority, hpriority⟩ := ho.priority
  obtain ⟨assigneeId, hassignee⟩ := ho.assigneeId
  obtain ⟨client, hclient⟩ := ho.client
  obtain ⟨tags, htags⟩ := ho.tags
  have hname : checkNotBlank .emptyTitle title = .ok (trim title) :=
    checkNotBlank_eq_ok.mpr ⟨rfl, by simpa [blank] using hblank⟩
  -- The id is a text, be it given or drawn.
  obtain ⟨id, ids', hid⟩ : ∃ id ids', (if o.caseId.truthy then (o.caseId, ids) else
      (.text (ids.draw "case" 12).1, (ids.draw "case" 12).2)) = (Value.text id, ids') := by
    split
    · next htruthy =>
      obtain ⟨s, hs⟩ := ho.caseId
      rw [hs] at htruthy ⊢
      cases s with
      | none => cases htruthy
      | some s => exact ⟨s, ids, rfl⟩
    · exact ⟨_, _, rfl⟩
  unfold opened
  cases hstarts : d.starts with
  | nil => exact absurd hstarts hd
  | cons start rest =>
    dsimp only
    rw [hid, htags]
    -- The case has the texts as they were given, but for the title and the tags, which are cleaned.
    let c : Case := { id, appId, title := trim title, description, priority, assigneeId, client,
                      tags := dropBlank tags, createdAt := now, currentStep := some start.id }
    refine ⟨c, ?_⟩
    simp only [ok_bind, mapError_eq_ok, Checked.toExcept_eq_ok, readFields_eq_ok]
    exact {
      id := Fields.require_of_get? rfl rfl
      appId := Fields.require_of_get? rfl (Reader.text_eq_ok.mpr happ)
      title := Fields.require_of_get? rfl
        (Reader.checking_eq_ok.mpr ⟨title, Reader.text_eq_ok.mpr htitle, hname⟩)
      description := Fields.optional_of_get? rfl (Reader.text_eq_ok.mpr hdescription)
      status := rfl
      priority := Fields.optional_of_get? rfl (hpriority ▸ Reader.choice_word priority)
      assigneeId := Fields.optional_of_get? rfl (Reader.nullable_text_eq_ok.mpr hassignee)
      client := Fields.optional_of_get? rfl (Reader.text_eq_ok.mpr hclient)
      tags := Fields.optional_of_get? rfl
        (Checked.map_eq_ok'.mpr ⟨tags, Reader.list_ofTexts tags, rfl⟩)
      createdAt := Fields.require_of_get? rfl rfl
      currentStep := rfl
      history := rfl
      formData := rfl }

/-! ## Runs -/

variable {lookup : Lookup} {c : Case}

/-- The case sits on a step of the document. -/
def SitsIn (d : Document) (c : Case) : Prop :=
  ∃ n, c.currentStep = some n.id ∧ d.node? n.id = some n

/-- A case is opened on a step of the document. -/
private theorem OpenedIn.sitsIn (h : c.OpenedIn d) : c.SitsIn d := by
  obtain ⟨⟨start, hmem, -, -, hstep⟩, -⟩ := h.fresh
  obtain ⟨n, hn⟩ := Document.exists_node? (List.mem_map_of_mem (f := (·.id)) hmem)
  have hid : n.id = start.id := (Document.mem_of_node? hn).2
  exact ⟨n, hid ▸ hstep, hid ▸ hn⟩

/-- No attempt takes a case off the document. -/
theorem SitsIn.passes {a : Attempt} {c' : Case} (hc : c.SitsIn d) (h : Passes lookup d c a c') :
    c'.SitsIn d := by
  cases h with
  | refused => exact hc
  | completed hcompletes =>
    exact ⟨_, rfl, hcompletes.found_next⟩
  | placed hn =>
    obtain ⟨id, -, hnode⟩ := Option.bind_eq_some_iff.mp hn
    have hid := (Document.mem_of_node? hnode).2
    exact ⟨_, rfl, hid ▸ hnode⟩

end Case

/-- A case of a document in which nothing is found is never stranded. It can be opened under every
title that is not blank. After every run of tries it sits on a step of the document; and a user who
may complete that step, with values that its form accepts, gets the case on unless the step is
final: always where no choice is demanded, and where one is, at least at a step whose form is
filled in. Elsewhere the try can be refused as ambiguous, and for nothing else. -/
theorem Document.Clean.never_stranded {users : Option (List String)} (hd : d.Clean users) :
    (∀ (o : Case.Opening) (title : String), o.WellTyped → o.title = .text title →
      blank title = false → ∀ now ids, ∃ c, (Case.opened d o now ids).1 = .ok c) ∧
    ∀ c : Case, c.OpenedIn d → ∀ (lookup : Lookup) (tries : List Try),
      let c' := c.attempts lookup d (tries.map .complete)
      ∃ n ∈ d.nodes, c'.currentStep = some n.id ∧ d.node? n.id = some n ∧
        (n.type ≠ .finish → ∀ (r : Rules) (q : Completion) user vs now,
          q.stepId = some n.id → authorize r.lookup n q.userId = .ok user →
          n.answers c'.formData q.values = .ok vs →
          (r.strict = false → ∃ c'', r.complete c' d q now = .ok c'') ∧
          ∀ f, r.complete c' d q now = .error f →
            f = .refused (.ambiguous n.id ((d.outgoing n.id).map (·.target))) ∧
            ∀ form, n.form = some form → form.mode ≠ .fill) := by
  have hnav := hd.navigable
  constructor
  · intro o title ho htitle hblank now ids
    exact Case.exists_opened hnav.starts_ne ho htitle hblank now ids
  · intro c hc lookup tries c'
    -- Neither a completion nor a refusal takes a case off the nodes of the document.
    have hsits : c'.SitsIn d :=
      Case.attempts_induction hc.sitsIn fun _ _ hc _ _ hpass => hc.passes hpass
    obtain ⟨n, hstep, hn⟩ := hsits
    refine ⟨n, (mem_of_node? hn).1, hstep, hn, ?_⟩
    intro hfinal r q user vs now hasked huser hanswers
    -- Who is authorized passes the gate, and the answers are given, so that only the search is
    -- left.
    have hgate : r.gate c' d q = .ok n :=
      Rules.gate_eq_ok.mpr ⟨hstep.trans hasked.symm, hasked ▸ hn, hfinal, user, huser⟩
    obtain ⟨-, -, hok, herror⟩ := Rules.complete_of_answers hgate hanswers now
    obtain ⟨next, hnext⟩ | ⟨hstrict, hmany, hnext⟩ :=
      hnav.nextStep_cases hn hfinal r.strict q.choice
    · obtain ⟨userId, -, hcomplete⟩ := hok next hnext
      refine ⟨fun _ => ⟨_, hcomplete⟩, fun f hf => ?_⟩
      rw [hcomplete] at hf
      cases hf
    · have hcomplete := herror _ hnext
      refine ⟨fun hlenient => ?_, fun f hf => ?_⟩
      · rw [hlenient] at hstrict
        cases hstrict
      · rw [hcomplete] at hf
        refine ⟨(Except.error.inj hf).symm, fun form hform hmode => ?_⟩
        -- A form that is filled in has one way out, so nothing is ambiguous there.
        exact absurd hmany (not_lt.mpr (hnav.outgoing_fill n (mem_of_node? hn).1 form hform hmode))

/-- Nothing is found in the sample workflow. After eight tries a case is back at the review, which
has two ways out; without a choice it goes on nonetheless where none is demanded. -/
theorem Document.Clean.never_stranded_sample :
    let c := Sample.case.attempts Sample.lookup Sample.workflow
      ((Sample.tries.take 8).map .complete)
    Sample.workflow.Clean (some ["user-1", "user-2", "user-3"]) ∧
      c.currentStep = some "review" ∧
      ∃ c', ({ lookup := Sample.lookup } : Rules).complete c Sample.workflow
        ⟨some "review", some "user-3", none, [("grade", .text "A")]⟩ Sample.noon = .ok c' := by
  intro c
  have hclean : Sample.workflow.Clean (some ["user-1", "user-2", "user-3"]) := by decide +kernel
  -- The eight tries are run; what becomes of the ninth follows from the theorem.
  have hreview : c.currentStep = some "review" := rfl
  obtain ⟨n, -, hstep, hn, hprogress⟩ :=
    hclean.never_stranded.2 _ Sample.openedIn_workflow Sample.lookup (Sample.tries.take 8)
  have hid : n.id = "review" := Option.some.inj (hstep.symm.trans hreview)
  rw [hid] at hn
  obtain rfl := Option.some.inj hn
  refine ⟨hclean, hreview, ?_⟩
  exact (hprogress (by decide) _ _ _ [("grade", .text "A")] _ rfl rfl rfl).1 rfl

end CaseFlow
