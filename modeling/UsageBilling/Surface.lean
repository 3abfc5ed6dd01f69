import UsageBilling.Database
import UsageBilling.Json.Printer

/-!
# The operational surface

Three paths for operators: the health of the service, its readiness and its
metrics. They are read with GET, or with HEAD for the answer without its body.
Every answer carries the identifier of its request, which is the caller's if
that can be used and a fresh one otherwise.
-/

namespace UsageBilling.Surface

/-- A request as far as the surface looks at it. -/
structure Request where
  method : String
  /-- The path, perhaps with a query behind it. -/
  target : String
  headers : List (String × String)
  deriving DecidableEq, Repr

/-- The identifier of a request. -/
inductive RequestId where
  | given (text : String)
  | minted
  deriving DecidableEq, Repr

/-- An answer. -/
structure Response where
  status : Nat
  contentType : Option String
  allow : Option String
  requestId : RequestId
  body : String
  deriving DecidableEq, Repr

/-- The paths of the surface. -/
inductive Place where
  | health
  | ready
  | metrics
  deriving DecidableEq, Repr

/-- The place that a target names; its query and fragment do not count. -/
def placeOf (target : String) : Option Place :=
  match String.ofList (target.toList.takeWhile fun c => c ≠ '?' && c ≠ '#') with
  | "/health" => some .health
  | "/ready" => some .ready
  | "/metrics" => some .metrics
  | _ => none

/-- A character that an identifier may hold. -/
def isIdChar (c : Char) : Bool :=
  c = '\t' || (0x20 ≤ c.toNat && c.toNat < 0x7F)

/-- The identifier of a request: that of its first header for one, if it is usable. -/
def requestId (r : Request) : RequestId :=
  match r.headers.find? fun header => Text.lowerAscii header.1 = "x-request-id" with
  | some (_, text) => if !text.isEmpty && text.toList.all isIdChar then .given text else .minted
  | none => .minted

/-- What is told of the health of the service when its database fails. -/
def unhealthyBody (e : ServiceError) : String :=
  String.ofList <| Json.object
    [("error", Json.string e.message), ("service", Json.string "metering-service"),
      ("status", Json.string "unhealthy")]

/-- The answer at a place to a reader, and the metrics after it. -/
def read (id : RequestId) (m : Metrics) : Place → Response × Metrics
  | .health =>
    (⟨503, some "application/json", none, id, unhealthyBody Database.Operation.health.refused⟩,
      Database.Operation.health.observe m)
  | .ready => (⟨503, none, none, id, ""⟩, Database.Operation.health.observe m)
  | .metrics => (⟨200, some "text/plain; charset=utf-8", none, id, m.text⟩, m)

/-- The answer to a request, and the metrics after it. -/
def answer (m : Metrics) (r : Request) : Response × Metrics :=
  let id := requestId r
  match placeOf r.target with
  | none => (⟨404, none, none, id, ""⟩, m)
  | some place =>
    match r.method with
    | "GET" => read id m place
    | "HEAD" =>
      let (response, m) := read id m place
      ({ response with body := "" }, m)
    | _ => (⟨405, none, some "GET,HEAD", id, ""⟩, m)

/-- The answers to some requests one after another. -/
def answerAll (m : Metrics) : List Request → List Response
  | [] => []
  | r :: requests =>
    let (response, m) := answer m r
    response :: answerAll m requests

end UsageBilling.Surface
