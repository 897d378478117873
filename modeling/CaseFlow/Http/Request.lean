import CaseFlow.Http.Target
import CaseFlow.Text.Lowercase

/-!
# Requests

A request has a method, a target, headers and, if it brings data, a body. Names of headers do not
depend on case.
-/

namespace CaseFlow.Http

open CaseFlow.Text

/-- A request to the service. -/
structure Request where
  /-- The method, in capitals. -/
  method : String
  /-- Where it goes. -/
  target : Target
  /-- The headers, in order. -/
  headers : List (String × String) := []
  /-- The text sent with it. -/
  body : String := ""
  deriving DecidableEq, Repr, Inhabited

namespace Request

/-- The first header of a name. -/
def header? (q : Request) (name : String) : Option String :=
  (q.headers.find? fun h => lowerAscii h.1 == lowerAscii name).map (·.2)

/-- The user on whose behalf the request is made. -/
def actingUser (q : Request) : Option String := q.header? "X-User-Id"

/-- The id that the sender gave the request; an empty one counts as none. -/
def givenId? (q : Request) : Option String := (q.header? "X-Request-ID").filter (!·.isEmpty)

/-- Whether the body is declared to be JSON. -/
def isJson (q : Request) : Bool :=
  match q.header? "content-type" with
  | none => true
  | some t =>
    let kind := trim (String.ofList ((lowerAscii t).toList.takeWhile (· != ';')))
    match kind.splitOn "/" with
    | ["application", subtype] => subtype == "json" || subtype.endsWith "+json"
    | _ => false

/-- What a request brings. -/
inductive Payload where
  /-- Nothing. -/
  | absent
  /-- A value. -/
  | value (v : Value)
  /-- A text that is not declared to be JSON. -/
  | plainText
  deriving Repr, Inhabited

/-- The text of a body; a byte order mark before it is no part of it. -/
def bodyText (q : Request) : String :=
  match q.body.toList with
  | '\ufeff' :: cs => String.ofList cs
  | _ => q.body

/-- What a request brings; a text that should be JSON has to be. -/
def payload (q : Request) : Except Json.TextFault Payload :=
  if q.body.isEmpty then .ok .absent
  else if q.isJson then
    match Json.read q.bodyText with
    | .ok .null => .ok .absent
    | .ok v => .ok (.value v)
    | .error f => .error f
  else .ok .plainText

end Request

end CaseFlow.Http
