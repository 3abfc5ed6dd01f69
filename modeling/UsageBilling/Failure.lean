import UsageBilling.Instance
import UsageBilling.Usage

/-!
# Outstanding usage records

A usage record that was not accepted yet, with the reason and two time stamps,
and the row that it becomes in the failure queue. A row keeps the record as raw
text; whether the text can be read is found out when it is needed.
-/

namespace UsageBilling

open Calendar (Instant Readings)

/-- A usage record that was not accepted, before it is stored. -/
structure UsageFailure where
  payload : UsagePayload
  message : String
  created : Instant
  updated : Instant
  deriving DecidableEq, Repr, Inhabited

/-- A new failure, stamped with the time `now` of the wall clock. -/
def UsageFailure.stamped (payload : UsagePayload) (message : String) (now : Instant) :
    UsageFailure :=
  ⟨payload, message, now, now⟩

/-- New failures of these records, with their reasons; the wall clock is read for each of them. -/
def UsageFailure.stampAll (clock : Readings) : List (UsagePayload × String) → List UsageFailure
  | [] => []
  | (payload, message) :: rejected =>
    .stamped payload message clock.first :: stampAll clock.later rejected

/-- A row of the failure queue. -/
structure FailureRecord where
  id : Int
  /-- The usage record as JSON. -/
  payload : String
  message : String
  created : Instant
  updated : Instant
  deriving DecidableEq, Repr, Inhabited

namespace FailureRecord

/-- The row that stores a failure under an id. -/
def ofFailure (id : Int) (f : UsageFailure) : FailureRecord :=
  ⟨id, f.payload.toJson, f.message, f.created, f.updated⟩

/-- The usage record of a row. -/
def usagePayload (r : FailureRecord) : Except Json.Fault UsagePayload :=
  UsagePayload.ofJson r.payload

/-- The row as an outstanding failure: created when it was, updated `now`. -/
def toFailure (r : FailureRecord) (now : Instant) : Except Json.Fault UsageFailure := do
  return ⟨← r.usagePayload, r.message, r.created, now⟩

/-- A row as JSON. -/
def toJson (r : FailureRecord) : String :=
  String.ofList <| Json.object [
    ("id", Json.integer r.id),
    ("payload", Json.string r.payload),
    ("message", Json.string r.message),
    ("created_utc", renderTimestamp r.created),
    ("updated_utc", renderTimestamp r.updated)]

/-- The fields of a row as far as they are read. -/
structure Draft where
  id : Option Int := none
  payload : Option String := none
  message : Option String := none
  created : Option Instant := none
  updated : Option Instant := none

/-- The fields of a row, in order. -/
def fields : List (Json.Field Draft) :=
  [.required "id" (·.id) (fun d n => { d with id := some n })
      (Json.integerBetween Int64.minValue.toInt Int64.maxValue.toInt),
    .required "payload" (·.payload) (fun d s => { d with payload := some s }) Json.text,
    .required "message" (·.message) (fun d s => { d with message := some s }) Json.text,
    .required "created_utc" (·.created) (fun d t => { d with created := some t })
      timestampReader,
    .required "updated_utc" (·.updated) (fun d t => { d with updated := some t })
      timestampReader]

/-- A row with all its fields. -/
def Draft.finish (d : Draft) : Option FailureRecord :=
  return ⟨← d.id, ← d.payload, ← d.message, ← d.created, ← d.updated⟩

/-- The row that a text holds. -/
def ofJson (raw : String) : Except Json.Fault FailureRecord :=
  Json.decode (Json.record fields {} Draft.finish) raw

end FailureRecord

end UsageBilling
