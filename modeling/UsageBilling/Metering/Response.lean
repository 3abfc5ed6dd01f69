import UsageBilling.Failure
import UsageBilling.Metering.Policy

/-!
# Responses of the metering API

A response to a batch is mapped onto the records that were not accepted. Status
201 accepts the batch. Status 202 has one result for each record, by position.
Anything else, a body that cannot be read, and a wrong number of results leave
the whole batch outstanding. The wall clock is read once for each record that is
left outstanding, in their order.
-/

namespace UsageBilling

open Calendar (Readings)

/-- The result for one record of a batch. -/
structure ItemResult where
  status : Nat
  message : Option String
  deriving DecidableEq, Repr

namespace ItemResult

/-- The fields of a result as far as they are read. -/
structure Draft where
  status : Option Int := none
  message : Option (Option String) := none

/-- The fields of a result, in order. -/
def fields : List (Json.Field Draft) :=
  [.required "status" (·.status) (fun d n => { d with status := some n })
      (Json.integerBetween 0 65535),
    .nullable "message" (·.message) (fun d s => { d with message := some s }) Json.text]

/-- A result with a status. -/
def Draft.finish (d : Draft) : Option ItemResult :=
  return ⟨(← d.status).toNat, d.message.join⟩

/-- A result from JSON. -/
def reader : Json.Reader ItemResult :=
  Json.record fields {} Draft.finish

/-- The record was accepted. -/
def isAccepted (r : ItemResult) : Bool :=
  200 ≤ r.status && r.status < 300

/-- The record is kept for another try. -/
def isKept (policy : RejectionPolicy) (r : ItemResult) : Bool :=
  !r.isAccepted && (r.status == 409 || policy == .allRejected)

/-- The reason why the record is kept. -/
def reason (r : ItemResult) (p : UsagePayload) : String :=
  r.message.getD <|
    "Usage record for " ++ p.instanceId ++ " rejected with status: " ++
      String.ofList (Text.decimal r.status)

end ItemResult

namespace Metering

/-- The reason for a batch that was not accepted at all. -/
def unexpectedFailure : String :=
  "Billing request failed unexpectedly. Check logs for information."

/-- The reason for a batch whose results cannot be read. -/
def malformedResponse : String :=
  "Malformed multi-status response from metering API"

/-- The results of a batch as far as they are read. -/
structure BatchDraft where
  resources : Option (List ItemResult) := none

/-- The results in the body of a response. -/
def batchResults (body : String) : Except Json.Fault (List ItemResult) :=
  Json.decode
    (Json.record
      [Json.Field.required "resources" BatchDraft.resources (fun _ r => ⟨some r⟩)
        (Json.listOf ItemResult.reader)]
      {} BatchDraft.resources)
    body

/-- All records of a batch, with one reason. -/
def failAll (payloads : List UsagePayload) (reason : String) (clock : Readings) :
    List UsageFailure :=
  UsageFailure.stampAll clock (payloads.map fun p => (p, reason))

/-- The records that are kept for another try, each with its result, and the reasons why. -/
def rejected (policy : RejectionPolicy) (results : List (ItemResult × UsagePayload)) :
    List (UsagePayload × String) :=
  results.filterMap fun (r, p) => if r.isKept policy then some (p, r.reason p) else none

/-- The records that a body with one result for each of them leaves outstanding. -/
def classifyItems (body : String) (payloads : List UsagePayload) (policy : RejectionPolicy)
    (clock : Readings) : List UsageFailure :=
  match batchResults body with
  | .error _ => failAll payloads malformedResponse clock
  | .ok results =>
    if results.length = payloads.length then
      UsageFailure.stampAll clock (rejected policy (results.zip payloads))
    else failAll payloads malformedResponse clock

/-- The records that a response leaves outstanding. -/
def classify (status : Nat) (body : String) (payloads : List UsagePayload)
    (policy : RejectionPolicy) (clock : Readings) : List UsageFailure :=
  if status = 201 then []
  else if status = 202 then classifyItems body payloads policy clock
  else if 200 ≤ status ∧ status < 300 then
    failAll payloads
      ("Billing request failed with status: " ++ String.ofList (Text.decimal status)) clock
  else failAll payloads unexpectedFailure clock

end Metering

end UsageBilling
