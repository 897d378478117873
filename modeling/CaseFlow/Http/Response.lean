import CaseFlow.Error.Cause
import CaseFlow.Value.Portable

/-!
# Responses

A response has a status and, unless there is nothing to say, a body. A refusal is answered with
its report, a request that cannot be read with a list of what is wrong with it.
-/

namespace CaseFlow.Http

/-- A response of the service. -/
structure Response where
  /-- The status. -/
  status : Nat
  /-- The body; no value is no body. -/
  body : Value := .null
  deriving Repr, BEq, Inhabited

namespace Response

/-- The request was carried out. -/
def ok (v : Value) : Response := { status := 200, body := v }

/-- Something was created. -/
def created (v : Value) : Response := { status := 201, body := v }

/-- The request was carried out, and there is nothing to say. -/
def empty : Response := { status := 204 }

/-- A response that explains itself in one text. -/
def detail (status : Nat) (text : String) : Response :=
  { status, body := .object [("detail", .text text)] }

/-- Nothing is found at the path. -/
def notFound : Response := detail 404 "Not Found"

/-- The path does not admit the method. -/
def wrongMethod : Response := detail 405 "Method Not Allowed"

/-- The same thing is found at another path. -/
def elsewhere : Response := { status := 307 }

/-- The body is JSON that cannot be taken. -/
def unreadableBody : Response := detail 400 "There was an error parsing the body"

/-- A step of a path in a response. -/
def placeValue : Place → Value
  | .field name => .text name
  | .item n => .int n

/-- A problem in a response. -/
def problemValue (p : Problem) : Value :=
  .object [("type", .text p.complaint.code), ("loc", .list (p.path.map placeValue)),
    ("msg", .text p.complaint.message)]

/-- The request cannot be read. -/
def unprocessable (ps : List Problem) : Response :=
  { status := 422, body := .object [("detail", .list (ps.map problemValue))] }

/-- The request was refused. -/
def refusal (e : Error) : Response :=
  { status := e.kind.status, body := .object e.report.response }

/-- Nobody expected what happened. -/
def unexpected (kind requestId : String) : Response :=
  { status := 500
    body := .object
      [("error", .text "InternalServerError"), ("message", .text "An unexpected error occurred"),
        ("details", .object [("error_type", .text kind)]), ("request_id", .text requestId)] }

end Response

end CaseFlow.Http
