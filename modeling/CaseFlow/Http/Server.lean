import CaseFlow.Http.Route
import CaseFlow.Settings.Location

/-!
# The server

A server answers requests one after the other. Every request has an id, which the sender may
give; what happens to it is written to the log. A refusal is answered with its report; a failure
that is no refusal is answered with little more than the id of the request.
-/

namespace CaseFlow.Http

open CaseFlow.Text

/-- How long a request takes. -/
structure Stopwatch where
  /-- The seconds. -/
  seconds : Float
  /-- The seconds as the log shows them. -/
  text : String
  deriving Repr, Inhabited

/-- A server with all that it works on. -/
structure Server where
  /-- The settings. -/
  settings : Settings
  /-- The number of seconds after which a request counts as slow, as it was configured. -/
  threshold : Value := .float settings.slowRequestThreshold
  /-- Whether its services have been started. -/
  started : Bool := true
  /-- The store and whatever else the services work on. -/
  world : World := {}
  /-- The source of ids for requests. -/
  requestIds : IdSource := IdSource.counter
  deriving Inhabited

/-- What the sender of a request gets. -/
structure Reply where
  /-- The response. -/
  response : Response
  /-- The id of the request. -/
  requestId : String
  /-- Whether the response tells how long it took. -/
  timed : Bool
  deriving Repr, Inhabited

/-! ## Starting and stopping -/

/-- Whether the database of settings can be opened. -/
def canOpenDatabase (s : Settings) : Bool :=
  match s.database with
  | .memory => true
  | .file p => !p.isNoRegularFile
  | .unsupported => false

/-- Fills the store with what the settings ask for. -/
def seeding (s : Settings) : Service Unit := do
  if s.seedDemoData then
    let _ ← Directory.seed Seed.users
    let _ ← Apps.seed Seed.apps
    if s.seedDemoCases then
      let _ ← Cases.seed Seed.cases

namespace Server

/-- A server whose services have not been started. -/
def idle (s : Settings) (clock : Clock) : Except Failure Server :=
  match s.check with
  | .error e => .error (.refused e)
  | .ok () =>
    let policy : Policy := { strict := s.strictTransitions, loops := s.allowSelfLoops }
    .ok { settings := s, started := false, world := { clock, policy } }

/-- A server with an open database and all of its services. -/
def start (s : Settings) (clock : Clock) : Except Failure Server := do
  let server ← idle s clock
  if !canOpenDatabase s then throw (.fault .databaseUnusable)
  let (outcome, world) := Service.perform (seeding s) server.world
  outcome
  return { server with started := true, world }

/-- The note of a server that stops. -/
def stopNote (s : Server) : Note :=
  Logger.application.note .info (s.settings.appName ++ " stopped")

/-! ## Answering -/

/-- The method and the path of a request in the log. -/
def caption (q : Request) : String := s!"{q.method} {q.target.shownPath}"

/-- The response to a request of a route. -/
def carryOut (s : Server) (q : Request) (r : Route) : Service Response := do
  let payload := if r.readsBody then q.payload else .ok .absent
  match payload with
  | .error (.malformed offset) =>
    return .unprocessable [⟨[.field "body", .item offset], .malformedJson⟩]
  | .error .oversized => return .unreadableBody
  | .ok payload =>
    match if s.started then none else r.service? with
    | some service => return .detail 500 (Route.serviceTitle service ++ " not initialized")
    | none =>
      match r.serve s.settings { actingUser := q.actingUser, payload, target := q.target } with
      | .bad ps => return .unprocessable ps
      | .ok m =>
        match ← Service.attempt m with
        | .ok response => return response
        | .error (.refused e) =>
          let level := if 500 ≤ e.kind.status then Level.error else .warning
          Service.note .requests level
            s!"{caption q} rejected with {e.kind.status} ({e.kind.code}): {e.message}"
          return .refusal e
        | .error f => throw f

/-- The response to a request. A path with slashes too many is told to be elsewhere if there is
something without them. -/
def respond (s : Server) (q : Request) : Service Response := do
  match Route.ofTarget q.target with
  | [] =>
    match q.target.withoutSlash? with
    | some t => return if (Route.ofTarget t).isEmpty then .notFound else .elsewhere
    | none => return .notFound
  | routes =>
    match routes.find? (·.1 == q.method) with
    | none => return .wrongMethod
    | some (_, r) => carryOut s q r

/-- Whether a request was slow. -/
def isSlow (s : Server) (t : Stopwatch) : Bool :=
  match Reader.float s.threshold with
  | .ok limit => limit < t.seconds
  | .bad _ => false

/-- Answers a request, with all that is written to the log. -/
def exchange (s : Server) (t : Stopwatch) (id : String) (q : Request) : Service Reply := do
  let monitored := s.settings.enablePerformanceMonitoring
  if monitored && !q.target.query.isEmpty then
    let query : Fields := Fields.merge [] (q.target.query.map fun p => (p.1, .text p.2))
    Service.note .requests .debug s!"{caption q} query={(Value.object query).written}"
  match ← Service.attempt (s.respond q) with
  | .error f =>
    Service.note .requests .error s!"Unhandled {f.kind} on {caption q} after {t.text}s"
    return { response := .unexpected f.kind id, requestId := id, timed := false }
  | .ok response =>
    if monitored && s.isSlow t then
      Service.note .requests .warning
        s!"Slow request: {caption q} took {t.text}s (threshold {s.threshold.shown}s)"
    Service.note .requests .info s!"{caption q} -> {response.status} in {t.text}s"
    return { response, requestId := id, timed := monitored }

/-- The id of a request: the one given, or a new one. -/
def identify (s : Server) (q : Request) : String × Server :=
  match q.givenId? with
  | some id => (id, s)
  | none => (s.requestIds.head 32 0, { s with requestIds := s.requestIds.skip 1 })

/-- Answers one request. -/
def answer (s : Server) (t : Stopwatch) (q : Request) : Reply × Server :=
  let (id, s) := s.identify q
  let (outcome, world) := Service.perform (s.exchange t id q) s.world
  let reply := match outcome with
    | .ok r => r
    | .error f => { response := .unexpected f.kind id, requestId := id, timed := false }
  (reply, { s with world })

/-- Answers a request of a sender who looks elsewhere when told to. -/
def follow (s : Server) (t : Stopwatch) (q : Request) : Reply × Server :=
  let (reply, s) := s.answer t q
  match reply.response == .elsewhere, q.target.withoutSlash? with
  | true, some target => s.answer t { q with target }
  | _, _ => (reply, s)

end Server

end CaseFlow.Http
