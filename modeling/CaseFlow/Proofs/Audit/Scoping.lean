import CaseFlow.Audit.Context
import CaseFlow.Proofs.Value.Fields

/-!
# Scoping of the log context

The log context is a variable that anyone may set or clear at any time, and a block puts back what
it found by taking off its own layer. `Scoped` says how work goes under lexical scoping, without any
layers: what is set holds to the end of the block that it is set in. Running work against the layers
comes to the same, wherever it breaks off (`Activity.runAll_lexical`).

This rests on one invariant: the layers that work puts on have all been taken off again when it
ends, and those that were there before are as they were (`LogContext.Settles`). So at the end of a
block its own layer is still the one that was put on at its start.
-/

namespace CaseFlow

namespace LogContext

/-! ### Layers are taken off again -/

/-- Between two states of the context every layer that was put on has been taken off again, and
those from before are untouched. -/
def Settles (before after : LogContext) : Prop :=
  ∃ spent : List LogLayer,
    after.layers = before.layers ++ spent ∧ ∀ layer ∈ spent, layer.restored = true

variable {c c' c'' : LogContext}

/-- A context that takes or gives back no layer settles. -/
theorem Settles.of_layers_eq (h : c'.layers = c.layers) : c.Settles c' := ⟨[], by simp [h], by simp⟩

/-- Doing nothing settles. -/
@[simp]
theorem Settles.refl (c : LogContext) : c.Settles c := .of_layers_eq rfl

/-- What settles step by step settles as a whole. -/
theorem Settles.trans (h : c.Settles c') (h' : c'.Settles c'') : c.Settles c'' := by
  obtain ⟨spent, hlayers, hspent⟩ := h
  obtain ⟨spent', hlayers', hspent'⟩ := h'
  refine ⟨spent ++ spent', by rw [hlayers', hlayers, List.append_assoc], ?_⟩
  intro layer hlayer
  rcases List.mem_append.mp hlayer with hlayer | hlayer
  · exact hspent layer hlayer
  · exact hspent' layer hlayer

/-- The context in which the work of a block starts. -/
def entered (c : LogContext) (fs : Fields) : LogContext := (c.push (given fs)).2

/-- Inside a block there are the fields from outside with the given ones laid over them. -/
@[simp]
theorem entered_fields (c : LogContext) (fs : Fields) :
    (c.entered fs).fields = c.fields.merge (given fs) := rfl

/-- A block that is entered remembers the fields that there were. -/
private theorem entered_layers (c : LogContext) (fs : Fields) :
    (c.entered fs).layers = c.layers ++ [{ before := c.fields }] := rfl

/-- The layer of a block can be taken off at its end, whatever work was done in between: the fields
from before the block are in force again, and no layer of the block is left on. -/
private theorem reset_of_settles {fs : Fields} (h : (c.entered fs).Settles c') :
    ∃ after, c'.reset c.layers.length = .ok after ∧ after.fields = c.fields ∧ c.Settles after := by
  obtain ⟨spent, hlayers, hspent⟩ := h
  rw [entered_layers, List.append_assoc] at hlayers
  have hlayer : c'.layers[c.layers.length]? = some { before := c.fields } := by simp [hlayers]
  refine ⟨{ fields := c.fields,
            layers := c'.layers.set c.layers.length { before := c.fields, restored := true } },
    by rw [reset, hlayer], rfl, { before := c.fields, restored := true } :: spent, ?_, ?_⟩
  · simp [hlayers]
  · simpa using hspent

/-- A block runs its work in the entered context and then resets to the layers that there were
before. -/
private theorem within_eq {α : Type} (fs : Fields) (work : LogContext → α × LogContext) :
    c.within fs work = ((work (c.entered fs)).1,
      match (work (c.entered fs)).2.reset c.layers.length with
      | .ok restored => restored
      | .error _ => (work (c.entered fs)).2) := rfl

/-- A block puts the fields from before it back, if its work takes off the layers that it puts on
itself. Here `work` may be anything, also work that goes on after a failure of a part of it. -/
theorem within_of_settles {α : Type} {fs : Fields} {work : LogContext → α × LogContext}
    (h : (c.entered fs).Settles (work (c.entered fs)).2) :
    (c.within fs work).1 = (work (c.entered fs)).1 ∧
      (c.within fs work).2.fields = c.fields ∧ c.Settles (c.within fs work).2 := by
  obtain ⟨after, hreset, hfields, hsettles⟩ := reset_of_settles h
  have hwithin : c.within fs work = ((work (c.entered fs)).1, after) := by
    rw [within_eq, hreset]
  rw [hwithin]
  exact ⟨rfl, hfields, hsettles⟩

end LogContext

namespace Activity

open LogContext (given)

variable {c : LogContext}

/-- The first activity of a list decides by failing or not whether the others run. -/
theorem runAll_cons (c : LogContext) (a : Activity) (rest : List Activity) :
    runAll c (a :: rest) =
      if (run c a).1.failed then run c a
      else
        ({ (runAll (run c a).2 rest).1 with
            filed := (run c a).1.filed ++ (runAll (run c a).2 rest).1.filed },
          (runAll (run c a).2 rest).2) := by
  rw [runAll]

mutual

/-- Whatever is done, its layers are taken off again. -/
theorem settles_run (c : LogContext) : ∀ a : Activity, c.Settles (run c a).2
  | .set _ | .clear => .of_layers_eq rfl
  | .file _ | .fail => .refl c
  | .block fs body => (LogContext.within_of_settles (settles_runAll (c.entered fs) body)).2.2

/-- A list of activities settles, by induction on the list and inside each activity. -/
theorem settles_runAll (c : LogContext) : ∀ work : List Activity, c.Settles (runAll c work).2
  | [] => .refl c
  | a :: rest => by
    rw [runAll_cons]
    split
    · exact settles_run c a
    · exact (settles_run c a).trans (settles_runAll (run c a).2 rest)

end

/-- A block does its work with its fields layered over those in force, and what becomes of the
work becomes of the block. -/
theorem course_run_block (c : LogContext) (fs : Fields) (body : List Activity) :
    (run c (.block fs body)).1 = (runAll (c.entered fs) body).1 :=
  (LogContext.within_of_settles (settles_runAll (c.entered fs) body)).1

/-- After a block the fields from before it are in force. -/
theorem fields_run_block (c : LogContext) (fs : Fields) (body : List Activity) :
    (run c (.block fs body)).2.fields = c.fields :=
  (LogContext.within_of_settles (settles_runAll (c.entered fs) body)).2.1

/-! ### Lexical scoping -/

/-- How work goes from the fields in force at its start: what becomes of it, and the fields in force
where it ends or breaks off. What is done in a block has no effect on the fields after it. -/
inductive Scoped : Fields → List Activity → Course → Fields → Prop where
  | done {fs : Fields} : Scoped fs [] {} fs
  | set {fs new after : Fields} {rest : List Activity} {co : Course}
      (go : Scoped (fs.merge new) rest co after) : Scoped fs (.set new :: rest) co after
  | clear {fs after : Fields} {rest : List Activity} {co : Course}
      (go : Scoped [] rest co after) : Scoped fs (.clear :: rest) co after
  | file {fs own after : Fields} {rest : List Activity} {co : Course}
      (go : Scoped fs rest co after) :
      Scoped fs (.file own :: rest) { co with filed := fs.merge own :: co.filed } after
  | fail {fs : Fields} {rest : List Activity} : Scoped fs (.fail :: rest) { failed := true } fs
  | ended {fs new left after : Fields} {body rest : List Activity} {inner co : Course}
      (within : Scoped (fs.merge (given new)) body inner left) (through : inner.failed = false)
      (go : Scoped fs rest co after) :
      Scoped fs (.block new body :: rest) { co with filed := inner.filed ++ co.filed } after
  | brokeOff {fs new left : Fields} {body rest : List Activity} {inner : Course}
      (within : Scoped (fs.merge (given new)) body inner left) (broken : inner.failed = true) :
      Scoped fs (.block new body :: rest) inner fs

/-- Work that is run against the layers goes as lexical scoping says. -/
theorem scoped_runAll (c : LogContext) :
    ∀ work : List Activity, Scoped c.fields work (runAll c work).1 (runAll c work).2.fields
  | [] => .done
  | .set new :: rest => .set (scoped_runAll (c.set new) rest)
  | .clear :: rest => .clear (scoped_runAll c.clear rest)
  | .file _ :: rest => .file (scoped_runAll c rest)
  | .fail :: _ => .fail
  | .block new body :: rest => by
    -- The body runs in the fields that the block enters with, the rest in those from before it.
    have hbody := scoped_runAll (c.entered new) body
    rw [← course_run_block] at hbody
    have hrest := scoped_runAll (run c (.block new body)).2 rest
    rw [fields_run_block] at hrest
    rw [runAll_cons]
    -- A body that fails takes what stands behind the block with it.
    split
    · next hfailed =>
      rw [fields_run_block]
      exact .brokeOff hbody hfailed
    · next hthrough => exact .ended hbody (by simpa using hthrough) hrest

/-- Lexical scoping leaves one way for work to go. -/
theorem Scoped.unique {fs after after' : Fields} {work : List Activity} {co co' : Course}
    (h : Scoped fs work co after) (h' : Scoped fs work co' after') : co = co' ∧ after = after' := by
  -- The second derivation ends with the same rule as the first, since the work to be done starts
  -- alike.
  induction h generalizing co' after' with
  | done =>
    cases h'
    exact ⟨rfl, rfl⟩
  | set _ ih =>
    cases h' with
    | set go => exact ih go
  | clear _ ih =>
    cases h' with
    | clear go => exact ih go
  | file _ ih =>
    cases h' with
    | file go =>
      obtain ⟨rfl, rfl⟩ := ih go
      exact ⟨rfl, rfl⟩
  | fail =>
    cases h'
    exact ⟨rfl, rfl⟩
  | ended _ through _ ihWithin ihGo =>
    cases h' with
    | ended within _ go =>
      obtain ⟨rfl, -⟩ := ihWithin within
      obtain ⟨rfl, rfl⟩ := ihGo go
      exact ⟨rfl, rfl⟩
    | brokeOff within broken =>
      -- The work of the block went in one way, so it did not break off in the other run alone.
      obtain ⟨rfl, -⟩ := ihWithin within
      simp [through] at broken
  | brokeOff _ broken ihWithin =>
    cases h' with
    | ended within through _ =>
      obtain ⟨rfl, -⟩ := ihWithin within
      simp [through] at broken
    | brokeOff within _ =>
      obtain ⟨rfl, -⟩ := ihWithin within
      exact ⟨rfl, rfl⟩

/-- What the lexical rules derive is what the run gives, and nothing else. -/
private theorem scoped_iff_runAll {work : List Activity} {co : Course} {after : Fields} :
    Scoped c.fields work co after ↔
      (runAll c work).1 = co ∧ (runAll c work).2.fields = after := by
  constructor
  · exact fun h => (scoped_runAll c work).unique h
  · rintro ⟨rfl, rfl⟩
    exact scoped_runAll c work

end Activity

/-! ### What is found in the context -/

namespace LogContext

variable {c : LogContext} {fs own : Fields} {name : String} {v : Value}

/-- Of fields with distinct names the given ones have distinct names. -/
theorem nodup_names_given (h : fs.names.Nodup) : (given fs).names.Nodup :=
  h.sublist (List.filter_sublist.map _)

/-- The given fields are those that have a value. -/
theorem get?_given (h : fs.names.Nodup) :
    (given fs).get? name = some v ↔ fs.get? name = some v ∧ v ≠ .null := by
  have hgiven : ∀ p : String × Value, p ∈ given fs ↔ p ∈ fs ∧ p.2 ≠ .null := by
    intro p
    rw [given, List.mem_filter]
    cases p.2 <;> simp
  constructor
  · intro hv
    have hmem := (hgiven _).mp (Fields.mem_of_get? hv)
    exact ⟨Fields.get?_of_mem h hmem.1, hmem.2⟩
  · rintro ⟨hv, hnull⟩
    exact Fields.get?_of_mem (nodup_names_given h) ((hgiven _).mpr ⟨Fields.mem_of_get? hv, hnull⟩)

/-- Within a block a field has the value that the block gives it. A field that the block does not
give a value has the one from around it. -/
private theorem get?_entered (h : fs.names.Nodup) :
    (c.entered fs).fields.get? name = some v ↔
      (fs.get? name = some v ∧ v ≠ .null) ∨
        ((∀ w, fs.get? name = some w → w = .null) ∧ c.fields.get? name = some v) := by
  rw [entered_fields, Fields.get?_merge (nodup_names_given h), Option.or_eq_some_iff, get?_given h,
    Option.eq_none_iff_forall_ne_some]
  simp only [ne_eq, get?_given h, not_and, not_not]

/-- A record has its own value of a field, if it has one, and that of the context if not. -/
private theorem get?_overlaid (h : own.names.Nodup) :
    (c.overlaid own).get? name = (own.get? name).or (c.fields.get? name) :=
  Fields.get?_merge h

end LogContext

namespace Activity

/-- The log context is lexically scoped. Work goes from any context as scoping says, to its end or
to where it breaks off. After each block the fields from before it are in force; its work starts
with the fields of the block that have a value over those around it. A record that is filed carries
the fields in force under its own. -/
theorem runAll_lexical (c : LogContext) (work body : List Activity) {fs own : Fields}
    (hfs : fs.names.Nodup) (hown : own.names.Nodup) :
    (∀ co after, Scoped c.fields work co after ↔
      (runAll c work).1 = co ∧ (runAll c work).2.fields = after) ∧
    ((run c (.block fs body)).2.fields = c.fields ∧
      (run c (.block fs body)).1 = (runAll (c.entered fs) body).1 ∧
      (c.entered fs).fields = c.fields.merge (LogContext.given fs) ∧
      ∀ name v, (c.entered fs).fields.get? name = some v ↔
        (fs.get? name = some v ∧ v ≠ .null) ∨
          ((∀ w, fs.get? name = some w → w = .null) ∧ c.fields.get? name = some v)) ∧
    ((run c (.file own)).1.filed = [c.fields.merge own] ∧
      ∀ name, (c.fields.merge own).get? name = (own.get? name).or (c.fields.get? name)) := by
  refine ⟨fun _ _ => scoped_iff_runAll, ⟨fields_run_block c fs body, course_run_block c fs body,
    rfl, fun _ _ => LogContext.get?_entered hfs⟩, rfl, fun _ => ?_⟩
  exact LogContext.get?_overlaid hown

/-- A block breaks off within a block, after its work has cleared the context and set another
request: the first request is back in force, and the records carry what they were filed under. -/
theorem runAll_lexical_sample :
    let request : Fields := [("request_id", .text "req-9")]
    let step : Fields := [("case_id", .text "case-1"), ("step_id", .null)]
    let own : Fields := [("case_id", .text "case-2")]
    let inner : Activity := .block [("user_id", .text "ada")]
      [.clear, .set [("request_id", .text "req-10")], .file [], .fail]
    let work : List Activity := [.set request, .block step [.file own, inner, .file []], .file []]
    step.names.Nodup ∧ own.names.Nodup ∧
      Scoped [] work
        { filed := [[("request_id", .text "req-9"), ("case_id", .text "case-2")],
            [("request_id", .text "req-10")]],
          failed := true } request := by
  intro request step own inner work
  have hstep : step.names.Nodup := by decide
  have hown : own.names.Nodup := by decide
  -- The context that is left, and what was filed on the way, are computed.
  exact ⟨hstep, hown, ((runAll_lexical {} work [] hstep hown).1 _ _).mpr ⟨by rfl, by rfl⟩⟩

end Activity

end CaseFlow
