import CaseFlow.Error.Cause

/-!
# Kinds of errors

An error is told by its constructor and reported with a kind, a message, details and a context.
Fields that a report files go among its details or into its context, and never change the kind
(`ErrorReport.kind_build`). So the kind of an error is read off the report that it builds, with no
look at the texts in it.

There is one lemma for each error that a completion or an answer may be refused with: those that the
engine raises, and `Error.kind_answerReport` for all errors in answers, which are of one kind
whatever they are about. What an engine or a form refuses is sorted by these kinds later.
-/

namespace CaseFlow

namespace ErrorReport

/-- Filing a field in a report leaves its kind. -/
@[simp]
theorem kind_file (r : ErrorReport) (name : String) (v : Value) :
    (r.file name v).kind = r.kind := by
  unfold file
  split
  · rfl
  · split <;> rfl

/-- An error that is built has the kind that it was built with. -/
@[simp]
theorem kind_build (kind : ErrorKind) (message : String) (fields : Fields) :
    (build kind message fields).kind = kind := by
  have hfold (fs : Fields) (r : ErrorReport) :
      (fs.foldl (fun r f => r.file f.1 f.2) r).kind = r.kind := by
    induction fs generalizing r with
    | nil => rfl
    | cons f fs ih => rw [List.foldl_cons, ih, kind_file]
  rw [build, hfold]

end ErrorReport

namespace Error

/-- A completion of a closed case is refused as such. -/
@[simp]
theorem kind_caseClosed (caseId stepId : String) (label : Option String) :
    (caseClosed caseId stepId label).kind = .closed :=
  ErrorReport.kind_build _ _ _

/-- A completion of a step that the case has left is refused as stale. -/
@[simp]
theorem kind_staleStep (caseId : String) (current stepId : Option String) :
    (staleStep caseId current stepId).kind = .stale :=
  ErrorReport.kind_build _ _ _

/-- A step that does not exist is a broken reference. -/
@[simp]
theorem kind_unknownStep (stepId : Option String) : (unknownStep stepId).kind = .reference :=
  ErrorReport.kind_build _ _ _

/-- A user who is not known may not act at a step. -/
@[simp]
theorem kind_unknownActor (userId : Option String) (label nodeId : String) :
    (unknownActor userId label nodeId).kind = .stepPermission :=
  ErrorReport.kind_build _ _ _

/-- A user to whom a step is not assigned may not act at it. -/
@[simp]
theorem kind_notAssigned (label nodeId userId : String) (assignee : Value) :
    (notAssigned label nodeId userId assignee).kind = .stepPermission :=
  ErrorReport.kind_build _ _ _

@[simp]
theorem kind_deadEnd (stepId : String) : (deadEnd stepId).kind = .deadEnd :=
  ErrorReport.kind_build _ _ _

@[simp]
theorem kind_ambiguous (stepId : String) (candidates : List String) :
    (ambiguous stepId candidates).kind = .ambiguous :=
  ErrorReport.kind_build _ _ _

/-- A user who is no admin is denied the permission. -/
@[simp]
theorem kind_adminOnly (userId : Option String) : (adminOnly userId).kind = .permission :=
  ErrorReport.kind_build _ _ _

@[simp]
theorem kind_unknownNodeAssignee (nodeId : String) (assignee : Value) :
    (unknownNodeAssignee nodeId assignee).kind = .validation :=
  ErrorReport.kind_build _ _ _

/-- An error in an answer is one of validation, whichever answer it is about. -/
@[simp]
theorem kind_answerReport (message fieldId : String) :
    (answerReport message fieldId).kind = .validation := by
  simp [answerReport]

end Error

end CaseFlow
