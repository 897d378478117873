import CaseFlow.Error.Report
import CaseFlow.Reading.Problem
import CaseFlow.Value.Display
import CaseFlow.Workflow.Basic

/-!
# Causes of errors

Everything for which an operation can be refused, with its wording and its report in one place,
and the faults that are no refusals: arguments of a shape that an operation cannot take.
-/

namespace CaseFlow

/-- Why a value is no position. -/
inductive PositionFault where
  /-- A value that has no components; its kind is named. -/
  | notAPair (kind : String)
  /-- More than two components. -/
  | tooMany
  /-- Fewer than two components. -/
  | tooFew (count : Nat)
  /-- Components that are no coordinates. -/
  | rejected (r : Rejection)
  deriving DecidableEq, Repr

/-- The wording of a position fault. -/
def PositionFault.text : PositionFault → String
  | .notAPair kind => s!"cannot unpack non-iterable {kind} object"
  | .tooMany => "too many values to unpack (expected 2)"
  | .tooFew count => s!"not enough values to unpack (expected 2, got {count})"
  | .rejected r => r.text

/-- The stored things that are looked up by id. -/
inductive Resource where
  /-- Apps. -/
  | app
  /-- Cases. -/
  | case
  /-- Users. -/
  | user
  deriving DecidableEq, Repr

/-- The word of a resource. -/
def Resource.word : Resource → String
  | .app => "app"
  | .case => "case"
  | .user => "user"

/-- The title of a resource in messages. -/
def Resource.title : Resource → String
  | .app => "App"
  | .case => "Case"
  | .user => "User"

/-- The name of the table that holds a resource. -/
def Resource.table : Resource → String
  | .app => "apps"
  | .case => "cases"
  | .user => "users"

/-- An operation of the store, by the words that reports use for it. -/
structure StoreAction where
  /-- The resource whose table it works on. -/
  resource : Resource
  /-- The name of the operation. -/
  operation : String
  /-- What failed, for clients. -/
  failure : String
  /-- What was going on, for the log. -/
  activity : String
  deriving DecidableEq, Repr

/-- A cause for which an operation is refused. -/
inductive Error where
  /-- A node that is not in the document. -/
  | unknownNode (nodeId : String)
  /-- An edge that is not in the document. -/
  | unknownEdge (edgeId : String)
  /-- A field that is not on the node. -/
  | unknownField (fieldId nodeId : String)
  /-- An edit whose outcome breaks a rule for documents. -/
  | invalidDocument (r : Rejection)
  /-- A value that is no position. -/
  | invalidPosition (given : Value) (fault : PositionFault)
  /-- A field id that is in use. -/
  | takenFieldId (fieldId nodeId : String)
  /-- A select field without options. -/
  | missingOptions (label fieldId nodeId : String)
  /-- A readonly field that shows no field of the document, or itself. -/
  | unknownSource (label source fieldId nodeId : String)
  /-- A form on a node that is no task. -/
  | formOnlyOnTask (nodeId : String) (type : NodeType)
  /-- A node without a form. -/
  | noForm (nodeId : String)
  /-- Data that is no form field. -/
  | invalidField (r : Rejection)
  /-- A word that is no kind of node. -/
  | unknownNodeType (given : Value)
  /-- A node id that is in use. -/
  | takenNodeId (nodeId : String)
  /-- Data that is no node. -/
  | invalidNode (r : Rejection)
  /-- Attributes that a patch must not name. -/
  | lockedAttributes (names : List String) (nodeId : String)
  /-- A blank label. -/
  | emptyLabel (nodeId : String)
  /-- An assignee of a node that is no task. -/
  | assigneeOnlyOnTask (nodeId : String) (type : NodeType)
  /-- Data that is no form. -/
  | invalidForm (r : Rejection) (nodeId : String)
  /-- A word that is no form mode. -/
  | unknownFormMode (given : Value) (nodeId : String)
  /-- An answer that is no number. -/
  | answerNotNumber (label fieldId : String)
  /-- An answer that is no date. -/
  | answerNotDate (label fieldId : String)
  /-- An answer that is none of the options. -/
  | answerNotOption (label : String) (options : List String) (fieldId : String)
  /-- An answer that is no truth value. -/
  | answerNotBoolean (label fieldId : String)
  /-- A required field without an answer. -/
  | missingAnswer (label fieldId : String)
  /-- A step that is not in the workflow. -/
  | unknownStep (stepId : Option String)
  /-- A workflow at which no case can begin. -/
  | noStart
  /-- A step without a way out. -/
  | deadEnd (stepId : String)
  /-- Several ways out and no valid choice. -/
  | ambiguous (stepId : String) (candidates : List String)
  /-- A user that nobody knows, at a step. -/
  | unknownActor (userId : Option String) (label nodeId : String)
  /-- A step that is assigned to another user. -/
  | notAssigned (label nodeId userId : String) (assignee : Value)
  /-- A case that sits at a final step; the label of the step may be told. -/
  | caseClosed (caseId stepId : String) (label : Option String)
  /-- A case that is no longer at the step. -/
  | staleStep (caseId : String) (current : Option String) (stepId : Option String)
  /-- No such app, case or user. -/
  | notFound (resource : Resource) (id : Option String)
  /-- The store refused. -/
  | storage (action : StoreAction)
  /-- A text that is no email address. -/
  | invalidEmail (email : String)
  /-- An email address that is in use. -/
  | takenEmail
  /-- A blank user name. -/
  | emptyUserName
  /-- A user who deletes themselves. -/
  | selfDeletion (userId : String)
  /-- A change of users by someone who is no admin. -/
  | adminOnly (userId : Option String)
  /-- Data that is no app. -/
  | invalidApp (problems : List String)
  /-- An app id that is in use. -/
  | takenAppId (appId : String)
  /-- A blank app name. -/
  | emptyAppName
  /-- A workflow with structural errors. -/
  | invalidWorkflow (errors : List String)
  /-- An assignee of a new case whom nobody knows. -/
  | unknownAssignee (assignee : Value)
  /-- Data that is no case. -/
  | invalidCase (problems : List String)
  /-- An assignee of a node whom nobody knows. -/
  | unknownNodeAssignee (nodeId : String) (assignee : Value)
  /-- Settings that cannot be used. -/
  | configuration (problems : List String)
  deriving Repr, BEq

namespace Error

/-- The text of an optional id. -/
def idText (id : Option String) : String := id.getD "None"

/-- Messages joined by semicolons. -/
def joined (messages : List String) : String := String.intercalate "; " messages

/-- The report of an error in a form answer. -/
def answerReport (message fieldId : String) : ErrorReport :=
  .build .validation message [("field_id", .text fieldId)]

/-- The report of an error about a field of a node. -/
def fieldReport (message fieldId nodeId : String) : ErrorReport :=
  .build .validation message [("field_id", .text fieldId), ("node_id", .text nodeId)]

/-- The report of an error about a node. -/
def nodeReport (message nodeId : String) : ErrorReport :=
  .build .validation message [("node_id", .text nodeId)]

/-- The report of an error with a list of problems. -/
def problemsReport (message : String) (problems : List String) : ErrorReport :=
  .build .validation message [("validation_errors", .ofTexts problems)]

/-- The report of an error. -/
def report : Error → ErrorReport
  | unknownNode id => .build .reference s!"Node '{id}' does not exist in the workflow"
      [("reference", .text id)]
  | unknownEdge id => .build .reference s!"Edge '{id}' does not exist in the workflow"
      [("reference", .text id), ("kind", .text "edge")]
  | unknownField id nodeId => .build .reference s!"Field '{id}' does not exist on node '{nodeId}'"
      [("reference", .text id), ("kind", .text "field")]
  | invalidDocument r => .build .validation ("Invalid workflow document: " ++ r.text) []
  | invalidPosition given fault =>
      .build .validation s!"Invalid position {given.written}: {fault.text}" []
  | takenFieldId id nodeId =>
      fieldReport s!"Field ID '{id}' is already used in this workflow" id nodeId
  | missingOptions label id nodeId =>
      fieldReport s!"Select field '{label}' needs at least one option" id nodeId
  | unknownSource label source id nodeId =>
      fieldReport s!"Read-only field '{label}' references unknown field '{source}'" id nodeId
  | formOnlyOnTask id type =>
      nodeReport s!"Only Task nodes can have a form, '{id}' is a {type.word} node" id
  | noForm id => nodeReport s!"Node '{id}' has no form" id
  | invalidField r => .build .validation ("Invalid form field: " ++ r.text) []
  | unknownNodeType given => .build .validation s!"Unknown node type: {given.shown}" []
  | takenNodeId id => nodeReport s!"Node ID '{id}' already exists" id
  | invalidNode r => .build .validation ("Invalid node: " ++ r.text) []
  | lockedAttributes names id =>
      nodeReport ("Cannot update node attribute(s): " ++ String.intercalate ", " names) id
  | emptyLabel id => nodeReport "Node label cannot be empty" id
  | assigneeOnlyOnTask id type =>
      nodeReport s!"Only Task nodes can be assigned, '{id}' is a {type.word} node" id
  | invalidForm r id => nodeReport ("Invalid form: " ++ r.text) id
  | unknownFormMode given id => nodeReport s!"Unknown form mode: {given.shown}" id
  | answerNotNumber label id => answerReport s!"{label} must be a number" id
  | answerNotDate label id => answerReport s!"{label} must be a date in YYYY-MM-DD format" id
  | answerNotOption label options id =>
      answerReport (s!"{label} must be one of: " ++ String.intercalate ", " options) id
  | answerNotBoolean label id => answerReport s!"{label} must be true or false" id
  | missingAnswer label id => answerReport s!"Please fill out the required field: {label}" id
  | unknownStep id => .build .reference s!"Step '{idText id}' does not exist in the workflow"
      [("reference", .ofText? id)]
  | noStart => .build .validation "Workflow has no Start node; cases cannot be created" []
  | deadEnd id => .build .deadEnd s!"Step '{id}' has no outgoing transition"
      [("step_id", .text id)]
  | ambiguous id candidates =>
      .build .ambiguous (s!"Step '{id}' has {candidates.length} outgoing transitions " ++
        "and no valid choice was made")
        [("step_id", .text id), ("candidates", .ofTexts candidates)]
  | unknownActor userId label nodeId =>
      .build .stepPermission s!"Unknown user '{idText userId}' cannot complete step '{label}'"
        [("step_id", .text nodeId), ("user_id", .ofText? userId)]
  | notAssigned label nodeId userId assignee =>
      .build .stepPermission s!"Access denied: step '{label}' is assigned to another user"
        [("step_id", .text nodeId), ("user_id", .text userId), ("assignee_id", assignee)]
  | caseClosed caseId stepId label =>
      let place := match label with
        | some l => s!" at '{l}'"
        | none => ""
      .build .closed s!"Case '{caseId}' is closed{place} and accepts no further transitions"
        [("step_id", .text stepId), ("case_id", .text caseId)]
  | staleStep caseId current stepId =>
      .build .stale s!"Case '{caseId}' is at '{idText current}', not '{idText stepId}'"
        [("step_id", .ofText? stepId), ("case_id", .text caseId),
          ("current_step_id", .ofText? current)]
  | notFound resource id => .build .notFound s!"{resource.title} with ID '{idText id}' not found"
      [("resource", .text resource.word), ("resource_id", .ofText? id)]
  | storage action => .build .storage ("Failed to " ++ action.failure)
      [("operation", .text action.operation), ("table", .text action.resource.table)]
  | invalidEmail email => .build .validation s!"Invalid email address: '{email}'" []
  | takenEmail => .build .validation "A user with this email already exists." []
  | emptyUserName => .build .validation "User name cannot be empty" []
  | selfDeletion id => .build .permission "You cannot delete yourself." [("user_id", .text id)]
  | adminOnly id => .build .permission "Only admins may manage users" [("user_id", .ofText? id)]
  | invalidApp problems => problemsReport ("Invalid app: " ++ joined problems) problems
  | takenAppId id => .build .validation s!"App with ID '{id}' already exists" []
  | emptyAppName => .build .validation "App name cannot be empty" []
  | invalidWorkflow errors =>
      problemsReport ("Workflow validation failed: " ++ joined errors) errors
  | unknownAssignee assignee => .build .validation s!"Unknown assignee '{assignee.shown}'" []
  | invalidCase problems => problemsReport ("Invalid case: " ++ joined problems) problems
  | unknownNodeAssignee nodeId assignee =>
      .build .validation s!"Cannot assign node '{nodeId}' to unknown user '{assignee.shown}'"
        [("node_id", .text nodeId), ("assignee_id", assignee)]
  | configuration problems =>
      .build .configuration ("Configuration validation failed: " ++ joined problems) []

/-- The message of an error. -/
def message (e : Error) : String := e.report.message

/-- The kind of an error. -/
def kind (e : Error) : ErrorKind := e.report.kind

end Error

/-- An argument of a shape that an operation cannot take. -/
inductive Fault where
  /-- A form, a field or a list is not made of named values or items. -/
  | shape
  /-- A label is neither a text nor empty. -/
  | labelKind
  /-- Local timestamps are compared with universal ones. -/
  | mixedClocks
  /-- The arguments of a message do not fit its places, in number or in kind. -/
  | messageArguments
  /-- A place of a message is cut short, unknown, or cannot show the number it is given. -/
  | messagePlace
  /-- A message names an argument that it was not given. -/
  | messageName
  /-- A number is out of the range of its place in a message. -/
  | messageRange
  /-- A layout asks for what records do not have, or for nothing. -/
  | recordLayout
  /-- A moment lies outside the calendar. -/
  | outsideCalendar
  /-- A word names no role. -/
  | unknownRole
  /-- A word names no kind of node. -/
  | unknownNodeType
  /-- An angle is infinite. -/
  | infiniteAngle
  /-- A word names no logging level. -/
  | unknownLevel
  /-- A context was restored a second time. -/
  | tokenUsed
  /-- The environment takes no such name. -/
  | variableName
  /-- The database cannot be opened. -/
  | databaseUnusable
  deriving DecidableEq, Repr

/-- The name under which a fault is reported. -/
def Fault.kind : Fault → String
  | .shape | .mixedClocks | .messageArguments => "TypeError"
  | .labelKind | .unknownLevel => "AttributeError"
  | .unknownRole | .unknownNodeType | .infiniteAngle | .variableName | .messagePlace
  | .recordLayout | .outsideCalendar => "ValueError"
  | .messageName => "KeyError"
  | .messageRange => "OverflowError"
  | .tokenUsed => "RuntimeError"
  | .databaseUnusable => "OperationalError"

/-- Why an operation gave no result. -/
inductive Failure where
  /-- It was refused. -/
  | refused (e : Error)
  /-- The data given or stored cannot be read. -/
  | rejected (r : Rejection)
  /-- An argument has the wrong shape. -/
  | fault (f : Fault)
  deriving Repr, BEq

/-- The name under which a failure is reported. -/
def Failure.kind : Failure → String
  | .refused e => e.kind.code
  | .rejected _ => "ValidationError"
  | .fault f => f.kind

end CaseFlow
