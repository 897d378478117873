import CaseFlow.Value.Basic

/-!
# Error reports

An operation that is refused answers with a report: what kind of error it is, a message, and two
sets of named values. The details say what the caller needs to mend it, the context says where it
happened. Each kind of error has a category, a severity and an HTTP status.
-/

namespace CaseFlow

/-- The kinds of error. -/
inductive ErrorKind where
  /-- Any error of the engine. -/
  | engine
  /-- Malformed or missing input, or an edit that the document does not admit. -/
  | validation
  /-- A node, edge or field that is not in the document. -/
  | reference
  /-- An operation that the acting user may not perform. -/
  | permission
  /-- A step that the acting user may not complete. -/
  | stepPermission
  /-- A transition that the state of the case does not admit. -/
  | transition
  /-- A step without a way out. -/
  | deadEnd
  /-- Several ways out and no valid choice. -/
  | ambiguous
  /-- A transition of a closed case. -/
  | closed
  /-- A case that is no longer at the step. -/
  | stale
  /-- No such app, case or user. -/
  | notFound
  /-- The store refused to read or write. -/
  | storage
  /-- Settings that cannot be used. -/
  | configuration
  deriving DecidableEq, Repr, Inhabited

/-- What an error is about. -/
inductive ErrorCategory where
  | validation | reference | permission | transition | storage | configuration
  deriving DecidableEq, Repr

/-- How grave an error is. -/
inductive ErrorSeverity where
  | low | medium | high
  deriving DecidableEq, Repr

/-- The word of a category. -/
def ErrorCategory.word : ErrorCategory → String
  | .validation => "validation"
  | .reference => "reference"
  | .permission => "permission"
  | .transition => "transition"
  | .storage => "storage"
  | .configuration => "configuration"

/-- The word of a severity. -/
def ErrorSeverity.word : ErrorSeverity → String
  | .low => "low"
  | .medium => "medium"
  | .high => "high"

namespace ErrorKind

/-- All kinds of error. -/
def all : List ErrorKind :=
  [.engine, .validation, .reference, .permission, .stepPermission, .transition, .deadEnd,
    .ambiguous, .closed, .stale, .notFound, .storage, .configuration]

/-- The code of a kind of error. -/
def code : ErrorKind → String
  | engine => "WorkflowEngineError"
  | validation => "WorkflowValidationError"
  | reference => "NodeReferenceError"
  | permission => "PermissionDeniedError"
  | stepPermission => "StepPermissionError"
  | transition => "TransitionError"
  | deadEnd => "DeadEndError"
  | ambiguous => "AmbiguousTransitionError"
  | closed => "CaseClosedError"
  | stale => "StaleStepError"
  | notFound => "NotFoundError"
  | storage => "StorageError"
  | configuration => "ConfigurationError"

/-- The kind of error with a given code. -/
def ofCode? (s : String) : Option ErrorKind := all.find? (·.code == s)

/-- What a kind of error is about. -/
def category : ErrorKind → ErrorCategory
  | validation => .validation
  | reference => .reference
  | permission | stepPermission => .permission
  | notFound | storage => .storage
  | configuration => .configuration
  | engine | transition | deadEnd | ambiguous | closed | stale => .transition

/-- How grave a kind of error is. -/
def severity : ErrorKind → ErrorSeverity
  | validation | notFound => .low
  | reference | storage | configuration => .high
  | _ => .medium

/-- The HTTP status of a kind of error. -/
def status : ErrorKind → Nat
  | validation => 400
  | reference | notFound => 404
  | permission | stepPermission => 403
  | transition | deadEnd | ambiguous | closed | stale => 409
  | engine | storage | configuration => 500

/-- The fields that a kind of error files under its details. -/
def detailNames : ErrorKind → List String
  | validation => ["validation_errors"]
  | stepPermission => ["assignee_id"]
  | ambiguous => ["candidates"]
  | stale => ["current_step_id"]
  | _ => []

/-- Whether a kind of error is about one step of a case. -/
def isTransition : ErrorKind → Bool
  | transition | deadEnd | ambiguous | closed | stale => true
  | _ => false

end ErrorKind

/-- What a refused operation answers. -/
structure ErrorReport where
  /-- The kind of error. -/
  kind : ErrorKind
  /-- The message. -/
  message : String
  /-- What the caller needs to mend it. -/
  details : Fields := []
  /-- Where it happened. -/
  context : Fields := []
  /-- Values that the error carries besides. -/
  attributes : Fields := []
  deriving Repr, BEq, Inhabited

namespace ErrorReport

/-- Files one field: absent values are left out, the details of the kind go to the details, all
others to the context. -/
def file (r : ErrorReport) (name : String) (v : Value) : ErrorReport :=
  match v with
  | .null => r
  | v =>
    if r.kind.detailNames.contains name then { r with details := Fields.set r.details name v }
    else { r with context := Fields.set r.context name v }

/-- The fields as they are filed. The list of problems of a validation error is left out where it
is empty; the kind of a reference is left out where there is none. -/
def prepared (kind : ErrorKind) (fields : Fields) : Fields :=
  match kind with
  | .validation =>
    let problems := (fields.get? "validation_errors").getD .null
    ("validation_errors", problems.orNull) :: fields.filter (·.1 != "validation_errors")
  | .reference =>
    let reference := (fields.get? "reference").getD .null
    let what := if reference.truthy then (fields.get? "kind").getD (.text "node") else .null
    ("reference", reference) :: ("kind", what) ::
      fields.filter fun f => f.1 != "reference" && f.1 != "kind"
  | _ => fields

/-- The values that an error carries besides its details and context. -/
def attributesOf (kind : ErrorKind) (fields : Fields) : Fields :=
  let field (name : String) (default : Value) := (name, (fields.get? name).getD default)
  match kind with
  | .validation =>
    let problems := (fields.get? "validation_errors").getD .null
    [("validation_errors", if problems.truthy then problems else .list [])]
  | .reference => [field "reference" .null, field "kind" (.text "node")]
  | k => if k.isTransition then [field "step_id" .null] else []

/-- The report of an error with the given fields. A field named "details" holds details as they
are. -/
def build (kind : ErrorKind) (message : String) (fields : Fields) : ErrorReport :=
  let own := ((fields.get? "details").bind Value.fields?).getD []
  let rest := fields.filter (·.1 != "details")
  let start : ErrorReport :=
    { kind, message, details := own, attributes := attributesOf kind rest }
  (prepared kind rest).foldl (fun r f => r.file f.1 f.2) start

/-- The full description of an error, for records of what happened. -/
def description (r : ErrorReport) : Fields :=
  [("error_code", .text r.kind.code), ("message", .text r.message),
    ("severity", .text r.kind.severity.word), ("category", .text r.kind.category.word),
    ("details", .object r.details), ("context", .object r.context)]

/-- The body with which clients are answered. -/
def response (r : ErrorReport) : Fields :=
  [("error", .text r.kind.code), ("message", .text r.message),
    ("details", .object (Fields.set (Fields.set r.details "severity" (.text r.kind.severity.word))
      "category" (.text r.kind.category.word))),
    ("context", .object r.context)]

end ErrorReport

end CaseFlow
