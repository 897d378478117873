import CaseFlow.Calendar.Timestamp

/-!
# Problems of given data

What can be wrong with data that is read as a document, a case, a user or a set of settings.
Reading reports all problems at once, each with the path to its place.
-/

namespace CaseFlow

/-- A rule of the domain that well-typed data can break. -/
inductive Rule where
  /-- A node id or an edge end is blank. -/
  | emptyNodeId
  /-- A node id has a character outside letters, digits, underscore and hyphen. -/
  | nodeIdCharacters
  /-- A field id is blank. -/
  | emptyFieldId
  /-- A field id has a character outside letters, digits, underscore and hyphen. -/
  | fieldIdCharacters
  /-- A node that is no task carries a form. -/
  | formOwner (nodeId kind : String)
  /-- Two nodes share an id. -/
  | repeatedNodeId
  /-- Two edges share an id. -/
  | repeatedEdgeId
  /-- Two fields of the document share an id. -/
  | repeatedFieldId (fieldId : String)
  /-- A case title is blank. -/
  | emptyTitle
  /-- An app name is blank. -/
  | emptyAppName
  /-- A database address is empty. -/
  | emptyDatabaseUrl
  /-- A database address names a system that is not supported. -/
  | databaseScheme (scheme : String)
  deriving DecidableEq, Repr

/-- The wording of a broken rule. -/
def Rule.text : Rule → String
  | .emptyNodeId => "Node ID cannot be empty"
  | .nodeIdCharacters =>
    "Node ID must contain only alphanumeric characters, underscores, and hyphens"
  | .emptyFieldId => "Field ID cannot be empty"
  | .fieldIdCharacters =>
    "Field ID must contain only alphanumeric characters, underscores, and hyphens"
  | .formOwner nodeId kind => s!"Only Task nodes may carry a form, '{nodeId}' is a {kind} node"
  | .repeatedNodeId => "All node IDs must be unique"
  | .repeatedEdgeId => "All edge IDs must be unique"
  | .repeatedFieldId fieldId => s!"Field ID '{fieldId}' is used more than once in the workflow"
  | .emptyTitle => "Case title cannot be empty"
  | .emptyAppName => "App name cannot be empty"
  | .emptyDatabaseUrl => "Database URL cannot be empty"
  | .databaseScheme scheme => s!"Unsupported database scheme '{scheme}', expected one of " ++
    "['sqlite', 'postgresql', 'mysql']"

/-- What is wrong with one piece of data. -/
inductive Complaint where
  /-- A required field is absent. -/
  | missing
  /-- No text. -/
  | text
  /-- No truth value. -/
  | boolean
  /-- A text or number that stands for no truth value. -/
  | unreadableBoolean
  /-- No number. -/
  | number
  /-- A text that is no number. -/
  | unreadableNumber
  /-- No whole number. -/
  | whole
  /-- A text that is no whole number. -/
  | unreadableWhole
  /-- A text with too many digits. -/
  | oversizedWhole
  /-- A number with a fraction where a whole one is wanted. -/
  | fractional
  /-- A special value where a whole number is wanted. -/
  | infinite
  /-- A number below a bound. -/
  | atLeast (bound : Int)
  /-- A number above a bound. -/
  | atMost (bound : Int)
  /-- A number that does not exceed a bound. -/
  | above (bound : Int)
  /-- None of the admitted words. -/
  | choice (words : List String)
  /-- No list. -/
  | list
  /-- No object. -/
  | object
  /-- No object that a record of this name can be read from. -/
  | record (name : String)
  /-- No object at a place of a request body where a record is wanted. -/
  | bodyRecord
  /-- No timestamp. -/
  | timestamp
  /-- A number that is no timestamp. -/
  | unixTimestamp (fault : String)
  /-- A text that is no timestamp. -/
  | unreadableTimestamp (fault : Timestamp.DateFault)
  /-- A request body that is no JSON text. -/
  | malformedJson
  /-- A broken rule of the domain. -/
  | rule (r : Rule)
  deriving DecidableEq, Repr

/-- Words in quotation marks with commas, and "or" before the last one. -/
def alternatives : List String → String
  | [] => ""
  | [a] => s!"'{a}'"
  | [a, b] => s!"'{a}' or '{b}'"
  | a :: rest => s!"'{a}', " ++ alternatives rest

namespace Complaint

/-- The wording of a complaint. -/
def message : Complaint → String
  | missing => "Field required"
  | text => "Input should be a valid string"
  | boolean => "Input should be a valid boolean"
  | unreadableBoolean => "Input should be a valid boolean, unable to interpret input"
  | number => "Input should be a valid number"
  | unreadableNumber => "Input should be a valid number, unable to parse string as a number"
  | whole => "Input should be a valid integer"
  | unreadableWhole => "Input should be a valid integer, unable to parse string as an integer"
  | oversizedWhole => "Unable to parse input string as an integer, exceeded maximum size"
  | fractional => "Input should be a valid integer, got a number with a fractional part"
  | infinite => "Input should be a finite number"
  | atLeast n => s!"Input should be greater than or equal to {n}"
  | atMost n => s!"Input should be less than or equal to {n}"
  | above n => s!"Input should be greater than {n}"
  | choice words => "Input should be " ++ alternatives words
  | list => "Input should be a valid list"
  | object => "Input should be a valid dictionary"
  | record name => s!"Input should be a valid dictionary or instance of {name}"
  | bodyRecord => "Input should be a valid dictionary or object to extract fields from"
  | timestamp => "Input should be a valid datetime"
  | unixTimestamp fault => s!"Input should be a valid datetime, {fault}"
  | unreadableTimestamp fault => "Input should be a valid datetime or date, " ++ fault.text
  | malformedJson => "JSON decode error"
  | rule r => "Value error, " ++ r.text

/-- The short name of a complaint. -/
def code : Complaint → String
  | missing => "missing"
  | text => "string_type"
  | boolean => "bool_type"
  | unreadableBoolean => "bool_parsing"
  | number => "float_type"
  | unreadableNumber => "float_parsing"
  | whole => "int_type"
  | unreadableWhole => "int_parsing"
  | oversizedWhole => "int_parsing_size"
  | fractional => "int_from_float"
  | infinite => "finite_number"
  | atLeast _ => "greater_than_equal"
  | atMost _ => "less_than_equal"
  | above _ => "greater_than"
  | choice _ => "enum"
  | list => "list_type"
  | object => "dict_type"
  | record _ => "model_type"
  | bodyRecord => "model_attributes_type"
  | timestamp => "datetime_type"
  | unixTimestamp _ => "datetime_parsing"
  | unreadableTimestamp _ => "datetime_from_date_parsing"
  | malformedJson => "json_invalid"
  | rule _ => "value_error"

end Complaint

/-- One step of a path into data. -/
inductive Place where
  /-- The field of that name. -/
  | field (name : String)
  /-- The item at that index, from 0. -/
  | item (index : Nat)
  deriving DecidableEq, Repr

/-- The text of a step. -/
def Place.text : Place → String
  | .field name => name
  | .item index => toString index

/-- A complaint and the path to what it is about. -/
structure Problem where
  /-- The path from the whole data. -/
  path : List Place
  /-- What is wrong there. -/
  complaint : Complaint
  deriving DecidableEq, Repr

/-- A problem on one line; a problem of the whole has no path. -/
def Problem.text (p : Problem) : String :=
  let about := p.complaint.message ++ s!" [{p.complaint.code}]"
  if p.path.isEmpty then about
  else String.intercalate "." (p.path.map Place.text) ++ ": " ++ about

/-- Data that was refused as a record of a given name, with all its problems. -/
structure Rejection where
  /-- The name of the record. -/
  record : String
  /-- The problems, in the order of the record's fields. -/
  problems : List Problem
  deriving DecidableEq, Repr

/-- A rejection on one line. -/
def Rejection.text (r : Rejection) : String :=
  s!"{r.problems.length} invalid in {r.record}: " ++
    String.intercalate "; " (r.problems.map Problem.text)

end CaseFlow
