import CaseFlow.Proofs.Editor.Structure

/-!
# The editor and its keeper

An editor hands every new document to a keeper, who may refuse it. The two never drift apart: after
each request the document of the editor is the last one that the keeper accepted, or the first one
if there is none, and the keeper is called once for each new document and at no other time
(`Editor.turns_faithful`).

What a keeper is called with is told by a keeper that writes it down (`Editor.recording`). A run is
taken apart into turns, one for each request; how a turn may end is said once (`Editor.Turn.Ends`),
and the rest is argued from that.
-/

namespace CaseFlow

variable {loops : Bool} {d d' : Document} {ids : IdSource} {made : Made}

/-! ## Connections that add no edge -/

/-- Whether a command is a connection that adds no edge, since there is one already or it would be a
loop that is not wanted. -/
def Command.addsNoEdge (loops : Bool) (d : Document) : Command → Bool
  | .connect source target _ => (source == target && !loops) || d.isConnected source target
  | _ => false

/-- A connection that adds no edge is refused if one of its nodes does not exist, and otherwise it
leaves the document as it is. -/
private theorem Document.connect_of_addsNoEdge {source target : String} {label : Value}
    (h : (Command.connect source target label).addsNoEdge loops d = true)
    {r : Option (Document × Edge)} (hr : (d.connect loops source target label ids).1 = .ok r) :
    r = none := by
  unfold connect at hr
  split at hr
  · cases hr
  · cases hr
  · -- Both nodes are there; the edge would be a loop, or it is there already.
    rw [Command.addsNoEdge, Bool.or_eq_true] at h
    split at hr
    · exact (Except.ok.inj hr).symm
    · next hloop =>
      rw [if_pos (h.resolve_left hloop)] at hr
      exact (Except.ok.inj hr).symm

/-- A connection adds an edge unless there is a reason not to. -/
private theorem Document.addsNoEdge_of_connect {source target : String} {label : Value}
    (h : (d.connect loops source target label ids).1 = .ok none) :
    (Command.connect source target label).addsNoEdge loops d = true := by
  unfold connect at h
  rw [Command.addsNoEdge, Bool.or_eq_true]
  split at h
  · cases h
  · cases h
  · split at h
    · next hloop => exact .inl hloop
    · split at h
      · next hconnected => exact .inr hconnected
      · -- An edge is made, or cannot be made; in neither case there is none.
        simp only at h
        split at h
        · cases h
        · obtain ⟨_, -, hmade⟩ := bind_eq_ok.mp h
          cases hmade

/-- A command gives back the document that it was given exactly if it is a connection that adds no
edge. -/
theorem Command.noEdge_iff {c : Command} (h : (c.apply loops d ids).1 = .ok (d', made)) :
    made = .noEdge ↔ c.addsNoEdge loops d = true := by
  cases c with
  | connect source target label =>
    obtain ⟨r, hr, hmade⟩ := map_eq_ok.mp h
    constructor
    · rintro rfl
      cases r with
      | none => exact Document.addsNoEdge_of_connect hr
      | some p => cases hmade
    · intro hno
      obtain rfl := Document.connect_of_addsNoEdge hno hr
      exact (Prod.mk.inj hmade).2.symm
  | _ =>
    -- Every other command makes something.
    obtain ⟨x, -, hmade⟩ := map_eq_ok.mp h
    have hmade := (Prod.mk.inj hmade).2
    subst hmade
    simp [addsNoEdge]

/-- A connection that adds no edge leaves the document. -/
private theorem Command.eq_of_noEdge {c : Command}
    (h : (c.apply loops d ids).1 = .ok (d', .noEdge)) :
    d' = d := by
  cases c with
  | connect source target label =>
    obtain ⟨r, -, hmade⟩ := map_eq_ok.mp h
    cases r with
    | none => exact (Prod.mk.inj hmade).1.symm
    | some p => cases hmade
  | _ =>
    obtain ⟨x, -, hmade⟩ := map_eq_ok.mp h
    cases hmade

namespace Editor

/-! ## Turns -/

/-- What is asked of an editor. -/
inductive Request where
  /-- A command on its document. -/
  | command (c : Command)
  /-- What is to be found in its document. -/
  | validate

/-- What an editor replies. -/
inductive Reply where
  /-- What a command made, or why it failed. -/
  | edited (r : EditResult)
  /-- What was found. -/
  | validated (f : Findings)

/-- A call of a keeper. -/
structure Call where
  /-- The document to be kept. -/
  document : Document
  /-- Whether the keeper accepts it, and with what it fails if not. -/
  outcome : Except Failure Unit

/-- Whether the keeper accepts the document of a call. -/
def Call.accepted (call : Call) : Bool := call.outcome.isOk

/-- The last document that was accepted in some calls, or the first one if there is none. -/
def lastAccepted (first : Document) (calls : List Call) : Document :=
  ((calls.filter Call.accepted).map Call.document).getLastD first

/-- The document accepted last after two lists of calls is that of the second, which starts from
that of the first. -/
theorem lastAccepted_append (first : Document) (calls more : List Call) :
    lastAccepted first (calls ++ more) = lastAccepted (lastAccepted first calls) more := by
  simp [lastAccepted, List.getLastD_eq_getLast?, List.getLast?_append]

section Serving

variable {σ : Type} (keep : Document → σ → Except Failure Unit × σ)

/-- Serves a request with a keeper that has a state of its own. -/
def serve (ed : Editor) (q : Request) (ids : IdSource) (s : σ) : Reply × Editor × IdSource × σ :=
  match q with
  | .command c =>
    let (r, next) := ed.run keep c ids s
    (.edited r, next)
  | .validate => (.validated ed.document.validate, ed, ids, s)

/-- A keeper that does as another one does, and writes down every call. -/
def recording (d : Document) (s : σ × List Call) : Except Failure Unit × σ × List Call :=
  let (outcome, s') := keep d s.1
  (outcome, s', s.2 ++ [⟨d, outcome⟩])

/-- A request, with the document and the ids that the editor had before it, and what it led to. -/
structure Turn where
  /-- The request. -/
  request : Request
  /-- The source of ids before it. -/
  ids : IdSource
  /-- The document before it. -/
  before : Document
  /-- The reply. -/
  reply : Reply
  /-- The document after it. -/
  after : Document
  /-- The calls of the keeper. -/
  calls : List Call

/-- The turn of a request. -/
def turn (ed : Editor) (q : Request) (ids : IdSource) (s : σ) : Turn where
  request := q
  ids := ids
  before := ed.document
  reply := (ed.serve keep q ids s).1
  after := (ed.serve keep q ids s).2.1.document
  calls := (ed.serve (recording keep) q ids (s, [])).2.2.2.2

/-- The turns of a list of requests, each served as the ones before have left the editor. -/
def turns (ed : Editor) : List Request → IdSource → σ → List Turn
  | [], _, _ => []
  | q :: qs, ids, s =>
    let (_, ed', ids', s') := ed.serve keep q ids s
    ed.turn keep q ids s :: turns ed' qs ids' s'

end Serving

namespace Turn

/-- The new document that a request is to make of the one before: that of a command that succeeds,
unless it is a connection that adds no edge. -/
def proposed (loops : Bool) (t : Turn) : Option Document :=
  match t.request with
  | .validate => none
  | .command c =>
    match (c.apply loops t.before t.ids).1 with
    | .error _ => none
    | .ok (d, _) => if c.addsNoEdge loops t.before then none else some d

/-- How a turn may end. -/
inductive Ends (loops : Bool) : Turn → Prop where
  /-- The document is looked at. -/
  | looked {ids : IdSource} {d : Document} :
      Ends loops ⟨.validate, ids, d, .validated d.validate, d, []⟩
  /-- The command fails. -/
  | failed {c : Command} {ids : IdSource} {d : Document} {f : Failure}
      (h : (c.apply loops d ids).1 = .error f) :
      Ends loops ⟨.command c, ids, d, .edited (.error f), d, []⟩
  /-- The command adds no edge. -/
  | unchanged {c : Command} {ids : IdSource} {d : Document}
      (h : (c.apply loops d ids).1 = .ok (d, .noEdge)) :
      Ends loops ⟨.command c, ids, d, .edited (.ok (d, .noEdge)), d, []⟩
  /-- The keeper fails on the new document. -/
  | refused {c : Command} {ids : IdSource} {d d' : Document} {made : Made} {f : Failure}
      (h : (c.apply loops d ids).1 = .ok (d', made)) (hmade : made ≠ .noEdge) :
      Ends loops ⟨.command c, ids, d, .edited (.error f), d, [⟨d', .error f⟩]⟩
  /-- The keeper accepts the new document. -/
  | kept {c : Command} {ids : IdSource} {d d' : Document} {made : Made}
      (h : (c.apply loops d ids).1 = .ok (d', made)) (hmade : made ≠ .noEdge) :
      Ends loops ⟨.command c, ids, d, .edited (.ok (d', made)), d', [⟨d', .ok ()⟩]⟩

/-- A turn in which the editor did with its document and with the keeper what the request and the
keeper ask for. -/
structure Faithful (loops : Bool) (t : Turn) : Prop where
  /-- The keeper is called once with the new document, if there is one, and not else. -/
  calls_eq : t.calls.map Call.document = (t.proposed loops).toList
  /-- What the command fails with is the reply, -/
  failed : ∀ c f, t.request = .command c → (c.apply loops t.before t.ids).1 = .error f →
    t.reply = .edited (.error f)
  /-- and so is what the keeper fails with. -/
  raised : ∀ call ∈ t.calls, ∀ f, call.outcome = .error f → t.reply = .edited (.error f)
  /-- A command that fails leaves the document as it was. -/
  after_of_error : ∀ f, t.reply = .edited (.error f) → t.after = t.before
  /-- So does a connection that adds no edge, -/
  after_of_addsNoEdge : ∀ c, t.request = .command c → c.addsNoEdge loops t.before = true →
    t.after = t.before
  /-- and a validation, which tells what is to be found in the document. -/
  looked : t.request = .validate → t.reply = .validated t.before.validate ∧ t.after = t.before

variable {t : Turn}

/-- However a turn ends, the editor did what was asked for. -/
private theorem Ends.faithful (h : t.Ends loops) : t.Faithful loops := by
  -- A turn ends as a look, in a failure of the command, with nothing new, or with a document that
  -- the keeper refuses or accepts.
  cases h with
  | looked =>
    exact ⟨rfl, fun _ _ hq => (by cases hq), by simp, fun _ _ => rfl, fun _ _ _ => rfl,
      fun _ => ⟨rfl, rfl⟩⟩
  | failed h =>
    refine ⟨?_, ?_, by simp, fun _ _ => rfl, fun _ _ _ => rfl, fun hq => (by cases hq)⟩
    · simp only [proposed, h]
      rfl
    · rintro _ f ⟨⟩ hf
      rw [h, Except.error.injEq] at hf
      rw [hf]
  | unchanged h =>
    -- Nothing was made, so nothing was proposed to the keeper.
    have hno := (Command.noEdge_iff h).mp rfl
    refine ⟨?_, ?_, by simp, fun _ _ => rfl, fun _ _ _ => rfl, fun hq => (by cases hq)⟩
    · simp only [proposed, h, hno]
      rfl
    · rintro _ f ⟨⟩ hf
      cases h.symm.trans hf
  | refused h hmade =>
    -- A document was made, so it was proposed, and the turn has one call.
    have hnew := mt (Command.noEdge_iff h).mpr hmade
    refine ⟨?_, ?_, ?_, fun _ _ => rfl, fun _ _ _ => rfl, fun hq => (by cases hq)⟩
    · simp only [proposed, h, if_neg hnew]
      rfl
    · rintro _ f ⟨⟩ hf
      cases h.symm.trans hf
    · intro call hcall f hf
      obtain rfl := List.mem_singleton.mp hcall
      rw [Except.error.inj hf]
  | kept h hmade =>
    have hnew := mt (Command.noEdge_iff h).mpr hmade
    refine ⟨?_, ?_, ?_, fun f hf => (by cases hf), ?_, fun hq => (by cases hq)⟩
    · simp only [proposed, h, if_neg hnew]
      rfl
    · rintro _ f ⟨⟩ hf
      cases h.symm.trans hf
    · intro call hcall f hf
      obtain rfl := List.mem_singleton.mp hcall
      cases hf
    · rintro _ ⟨⟩ hno
      exact absurd hno hnew

/-- However a turn ends, the document after it is the last one that was accepted in it, or the one
before. -/
theorem Ends.after_eq (h : t.Ends loops) : t.after = lastAccepted t.before t.calls := by
  cases h <;> rfl

end Turn

/-! ## Runs -/

section Serving

variable {σ : Type} (keep : Document → σ → Except Failure Unit × σ)

/-- Every turn ends in one of the ways in which it may. -/
theorem turn_ends (ed : Editor) (q : Request) (ids : IdSource) (s : σ) :
    (ed.turn keep q ids s).Ends ed.loops := by
  cases q with
  | validate => exact .looked
  | command c =>
    simp only [turn, serve, run, propose]
    rcases happly : c.apply ed.loops ed.document ids with ⟨f | ⟨d, made⟩, ids'⟩
    · exact .failed (congrArg Prod.fst happly)
    · have happly := congrArg Prod.fst happly
      cases made with
      | noEdge =>
        obtain rfl := Command.eq_of_noEdge happly
        exact .unchanged happly
      | document | node | edge =>
        -- A new document is handed to the keeper, which fails or accepts it.
        rcases hkeep : keep d s with ⟨f | ⟨⟩, s'⟩
        · simp only [recording, hkeep]
          exact .refused happly (by simp)
        · simp only [recording, hkeep]
          exact .kept happly (by simp)

/-- No request changes whether an editor allows loops. -/
private theorem loops_serve (ed : Editor) (q : Request) (ids : IdSource) (s : σ) :
    (ed.serve keep q ids s).2.1.loops = ed.loops := by
  cases q with
  | validate => rfl
  | command c =>
    have hran := ran_run keep ed c ids s
    rcases hrun : ed.run keep c ids s with ⟨r, ed', ids', s'⟩
    rw [hrun] at hran
    simp only [serve, hrun]
    cases hran <;> rfl

/-- Whatever an editor is asked for, and whatever its keeper does with the documents that it is
handed: before and after each request the document of the editor is the last one that the keeper
accepted, or the first one if there is none; and in each turn the editor did what was asked for. -/
theorem turns_faithful (ed : Editor) (qs : List Request) (ids : IdSource) (s : σ) :
    (ed.turns keep qs ids s).map Turn.request = qs ∧
    (∀ past t future, ed.turns keep qs ids s = past ++ t :: future →
      t.before = lastAccepted ed.document (past.flatMap Turn.calls) ∧
        t.after = lastAccepted ed.document ((past ++ [t]).flatMap Turn.calls)) ∧
    ∀ t ∈ ed.turns keep qs ids s, t.Faithful ed.loops := by
  induction qs generalizing ed ids s with
  | nil => simp [turns]
  | cons q qs ih =>
    have hends := turn_ends keep ed q ids s
    have hloops := loops_serve keep ed q ids s
    obtain ⟨hrequests, hlast, hfaithful⟩ :=
      ih (ed.serve keep q ids s).2.1 (ed.serve keep q ids s).2.2.1 (ed.serve keep q ids s).2.2.2
    rw [hloops] at hfaithful
    refine ⟨congrArg (q :: ·) hrequests, fun past t future hsplit => ?_, ?_⟩
    · -- The turn is the first one, or one of those that start from where it ends.
      rcases List.cons_eq_append_iff.mp hsplit with ⟨rfl, hfirst⟩ | ⟨past, rfl, hrest⟩
      · obtain ⟨rfl, -⟩ := List.cons.inj hfirst
        refine ⟨rfl, ?_⟩
        rw [List.nil_append, List.flatMap_singleton]
        exact hends.after_eq
      · obtain ⟨hbefore, hafter⟩ := hlast past t future hrest
        rw [List.cons_append, List.flatMap_cons, List.flatMap_cons, lastAccepted_append,
          lastAccepted_append]
        have hfirst : (ed.serve keep q ids s).2.1.document =
            lastAccepted ed.document (ed.turn keep q ids s).calls := hends.after_eq
        -- What the rest starts from is what the first turn ended with.
        rw [hfirst] at hbefore hafter
        exact ⟨hbefore, hafter⟩
    · rintro t (_ | ⟨_, ht⟩)
      · exact hends.faithful
      · exact hfaithful t ht

/-- The keeper of the sample commands is called with the node, two edges of which it refuses the
first, the field, and the document without a node. -/
example :
    ((Editor.turns Sample.keep { document := Sample.workflow }
      (.validate :: Sample.commands.map .command) .counter 0).map fun t =>
        t.calls.map Call.accepted) =
      [[], [true], [false], [true], [], [], [], [true], [true], []] := by
  decide +kernel

end Serving

end Editor

end CaseFlow
