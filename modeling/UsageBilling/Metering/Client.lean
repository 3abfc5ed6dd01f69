import UsageBilling.Error
import UsageBilling.Metering.Response
import UsageBilling.Metrics

/-!
# The metering client

The client sends a batch to the usage address of a catalog resource and turns
the reply into the records that are still outstanding, with the counts to
record. A batch never exceeds the page size, an empty batch is not sent, and a
reply that does not arrive in full leaves the whole batch outstanding.
-/

namespace UsageBilling.Metering

open Calendar (Readings)

/-- What came back for a batch. -/
inductive Reply where
  | answered (status : Nat) (body : String)
  /-- No response, or one whose body broke off. -/
  | lost
  deriving DecidableEq, Repr

/-- The address that usage of a catalog resource is sent to. -/
def usageUrl (endpoint resourceId : String) : String :=
  Text.trimSlashes endpoint ++ "/v4/metering/resources/" ++ resourceId ++ "/usage"

/-- Where and how usage is sent. -/
structure Client where
  usageUrl : String
  /-- The largest batch. -/
  pageSize : Nat
  policy : RejectionPolicy
  deriving DecidableEq, Repr

/-- A client whose page size is at least one. -/
def Client.atLeastOne (endpoint resourceId : String) (pageSize : Nat)
    (policy : RejectionPolicy) : Client :=
  ⟨Metering.usageUrl endpoint resourceId, max pageSize 1, policy⟩

/-- The records that a submission left outstanding, or its error, and what it counts. -/
structure Submission where
  result : Except ServiceError (List UsageFailure)
  observations : List Observation

/-- A batch larger than the page size. -/
def oversized (batch pageSize : Nat) : ServiceError :=
  ErrorKind.badRequest.because <|
    "Usage batch of " ++ String.ofList (Text.decimal batch) ++ " exceeds page size " ++
      String.ofList (Text.decimal pageSize)

/-- What a reply to a batch that was sent means. -/
def Client.conclude (c : Client) (payloads : List UsagePayload) (clock : Readings) :
    Reply → Submission
  | .lost =>
    ⟨.ok (failAll payloads unexpectedFailure clock),
      [.submission "transport_error", .failures "transport" payloads.length]⟩
  | .answered status body =>
    let failures := classify status body payloads c.policy clock
    let code := String.ofList (Text.decimal status)
    ⟨.ok failures,
      .submission code :: if failures.isEmpty then [] else [.failures code failures.length]⟩

/-- Submit a batch, to which `reply` comes back if it is sent. -/
def Client.submit (c : Client) (payloads : List UsagePayload) (reply : Reply)
    (clock : Readings) : Submission :=
  if payloads.isEmpty then ⟨.ok [], []⟩
  else if c.pageSize < payloads.length then ⟨.error (oversized payloads.length c.pageSize), []⟩
  else c.conclude payloads clock reply

end UsageBilling.Metering
