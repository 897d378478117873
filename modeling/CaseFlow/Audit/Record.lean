import CaseFlow.Audit.Context
import CaseFlow.Audit.Note
import CaseFlow.Audit.Template
import CaseFlow.Json.Writer

/-!
# Log records

A record is a message with its arguments, the moment and the place where it was filed, fields, and
what went wrong if something did. It is written in a layout of its own attributes, or as a JSON
object.
-/

namespace CaseFlow

/-- What went wrong when a record was filed: an error of the engine, or a value that is not fit. -/
structure Mishap where
  /-- The kind of error, if it is one of the engine. -/
  kind : Option ErrorKind
  /-- The message. -/
  message : String
  deriving DecidableEq, Repr

namespace Mishap

/-- The name of what went wrong. -/
def name (m : Mishap) : String := (m.kind.map ErrorKind.code).getD "ValueError"

/-- The name with its family. -/
def fullName (m : Mishap) : String :=
  (m.kind.map fun k => "casework.core.exceptions." ++ k.code).getD "ValueError"

/-- The line that tells what went wrong. -/
def line (m : Mishap) : String :=
  if m.message.isEmpty then m.fullName else m.fullName ++ ": " ++ m.message

end Mishap

/-- A record of the log. -/
structure LogRecord where
  /-- The message, with slots for arguments. -/
  message : Value
  /-- The arguments. -/
  arguments : List Value := []
  /-- The level. -/
  level : Option Level := some .info
  /-- The name of the logger. -/
  logger : String
  /-- The module where it was filed. -/
  unit : String
  /-- The function where it was filed. -/
  function : String
  /-- The line where it was filed. -/
  line : Value
  /-- When it was filed, in seconds since 1970. -/
  created : Value := .int 0
  /-- The fields. -/
  fields : Fields := []
  /-- What went wrong. -/
  mishap : Option Mishap := none
  deriving Repr

namespace LogRecord

/-- The record as filed in a context. -/
def filed (r : LogRecord) (c : LogContext) : LogRecord := { r with fields := c.overlaid r.fields }

/-- The text of the message. A single object among the arguments gives them by name. A message
without arguments is taken as it is. -/
def text (r : LogRecord) : Except Fault String :=
  let message := r.message.shown
  match r.arguments with
  | [] => .ok message
  | [.object (f :: fs)] => (Template.ofText message).fill (.named (f :: fs))
  | values => (Template.ofText message).fill (.listed values)

/-! ## Moments -/

/-- A number of seconds as whole ones, toward zero, and the rest in binary. -/
def splitSeconds (v : Value) : Except Fault (Int × Float) :=
  match v with
  | .int n => .ok (n, 0)
  | .bool b => .ok (if b then 1 else 0, 0)
  | .float x => (Shown.whole v).map fun n => (n, x - Float.ofInt n)
  | _ => .error .shape

/-- A binary number as the nearest whole one; an exact half goes to the even one. -/
def nearest (x : Float) : Int :=
  match Decimal.parts x with
  | .finite negative m e =>
    let n : Nat := Decimal.roundDiv (m * Nat.pow 2 e.toNat) (Nat.pow 2 (-e).toNat)
    if negative then -(n : Int) else n
  | _ => 0

/-- The timestamp of a count of microseconds since 1970. -/
def momentOf (micros : Int) : Except Fault Timestamp :=
  match Timestamp.ofWall? (micros + Timestamp.unixEpoch * 86400 * 1000000) (some 0) with
  | some t => .ok t
  | none => .error .outsideCalendar

/-- When the record was filed, to the microsecond. -/
def moment (r : LogRecord) : Except Fault Timestamp := do
  let (whole, rest) ← splitSeconds r.created
  momentOf (whole * 1000000 + nearest (rest * 1000000))

/-- The thousandths of a second in which the record was filed. -/
def thousandths (r : LogRecord) : Except Fault Int := do
  let (_, rest) ← splitSeconds r.created
  Shown.whole (.float (rest * 1000))

/-- Date and time of day, without the fraction of the second. -/
def clockText (r : LogRecord) : Except Fault String := do
  let (whole, rest) ← splitSeconds r.created
  let t ← momentOf ((if rest < 0 then whole - 1 else whole) * 1000000)
  return t.asLocal.displayText

/-! ## Layouts -/

/-- A layout in which records are written. -/
structure Layout where
  /-- The layout itself: a template with a slot for each attribute. -/
  format : String
  /-- Whether moments show thousandths of a second. -/
  thousandths : Bool := true
  deriving DecidableEq, Repr

/-- The fields that are shown behind a message, in this order. -/
def contextNames : List String := ["request_id", "user_id", "app_id", "case_id", "step_id"]

/-- The fields shown behind a message: those of the context that are given. -/
def contextText (fs : Fields) : String :=
  let shown := contextNames.filterMap fun name =>
    match fs.get? name with
    | some v => if v.truthy then some (name ++ "=" ++ v.shown) else none
    | none => none
  if shown.isEmpty then "" else " [" ++ String.intercalate " " shown ++ "]"

/-- Whether a text begins with the rest of a slot for an attribute, after percent sign and
parenthesis. -/
def isAttributeSlot (cs : List Char) : Bool :=
  let isNameChar (c : Char) : Bool := c.isAlphanum || c == '_' || 0x80 ≤ c.toNat
  let afterCount (cs : List Char) : List Char := (Slot.takeCount cs).2
  match cs.takeWhile isNameChar, cs.dropWhile isNameChar with
  | _ :: _, ')' :: rest =>
    let rest := afterCount (rest.dropWhile fun c => ['#', '0', '+', ' ', '-'].contains c)
    let rest := match rest with
      | '.' :: r => if (afterCount r).length < r.length then afterCount r else rest
      | r => r
    match rest with
    | c :: _ => "diouxefgcrsa%".toList.contains c.toLower
    | [] => false
  | _, _ => false

/-- Whether a layout has a slot for some attribute. -/
def hasAttributeSlot : List Char → Bool
  | '%' :: '(' :: rest => isAttributeSlot rest || hasAttributeSlot rest
  | _ :: rest => hasAttributeSlot rest
  | [] => false

/-- The attributes of a record, with its message and its context filled in. -/
def attributes (r : LogRecord) (message : String) : Fields :=
  [("name", .text r.logger), ("msg", r.message), ("args", .list r.arguments),
    ("levelname", .text (levelWord r.level)), ("levelno", .int (levelRank r.level)),
    ("pathname", .text (r.unit ++ ".py")), ("filename", .text (r.unit ++ ".py")),
    ("module", .text r.unit), ("exc_text", .null), ("stack_info", .null), ("lineno", r.line),
    ("funcName", .text r.function), ("created", r.created),
    ("threadName", .text "MainThread"), ("processName", .text "MainProcess"),
    ("extra_fields", .object r.fields), ("context", .text (contextText r.fields)),
    ("message", .text message)]

/-- Whether a template has a slot of that name. -/
def asksFor (t : Template) (name : String) : Bool :=
  t.any fun
    | .slot s => s.name == .named name
    | .plain _ => false

/-- The attributes of the moment at which a record was filed, as far as a layout asks for them. -/
def momentAttributes (r : LogRecord) (l : Layout) (t : Template) : Except Fault Fields := do
  let clock ←
    if asksFor t "asctime" then do
      let text ← r.clockText
      let n ← r.thousandths
      let fraction ← (Template.ofText ",%03d").fill (.listed [.int n])
      pure [("asctime", Value.text (if l.thousandths then text ++ fraction else text))]
    else pure []
  let fraction ←
    if asksFor t "msecs" then do pure [("msecs", Value.float (Float.ofInt (← r.thousandths)))]
    else pure []
  return clock ++ fraction

/-- A layout, if it can be used. An empty one shows the message alone. -/
def Layout.make (format : String) : Except Fault Layout :=
  let format := if format.isEmpty then "%(message)s" else format
  if hasAttributeSlot format.toList then .ok { format } else .error .recordLayout

/-- A record in a layout; what went wrong follows on a line of its own. -/
def plain (l : Layout) (r : LogRecord) : Except Fault String := do
  let message ← r.text
  let t := Template.ofText l.format
  let moment ← r.momentAttributes l t
  let line ← match t.fill (.named (r.attributes message ++ moment)) with
    | .error .messageName => .error .recordLayout
    | outcome => outcome
  match r.mishap with
  | none => return line
  | some m => return (if line.endsWith "\n" then line else line ++ "\n") ++ m.line

/-! ## Objects -/

/-- A record as an object; its fields come after its attributes and win over them. -/
def toFields (r : LogRecord) : Except Fault Fields := do
  let moment ← r.moment
  let message ← r.text
  let mishap := match r.mishap with
    | none => []
    | some m => [("exception", Value.object
        [("type", .text m.name), ("message", .text m.message),
          ("traceback", .ofTexts [m.line ++ "\n"])])]
  let own : Fields :=
    [("timestamp", .text moment.isoText), ("level", .text (levelWord r.level)),
      ("logger", .text r.logger), ("message", .text message), ("module", .text r.unit),
      ("function", .text r.function), ("line", r.line)] ++ mishap
  return own.merge r.fields

/-- A record as a JSON text. -/
def structured (r : LogRecord) : Except Fault String :=
  r.toFields.map fun fs => Json.write (.object fs)

end LogRecord

end CaseFlow
