import UsageBilling.Metrics
import UsageBilling.Notification.Summary
import UsageBilling.Program
import UsageBilling.Queue
import UsageBilling.Retry
import UsageBilling.Window

/-!
# Billing runs

A run seeds the failure queue, passes over it up to the attempt limit of the
retry policy, refilling it after each pass with what is still failing, and
escalates what remains at the end. One queue-backed run is active at a time: a
call takes the run guard first and gives it back however it ends. Billing a
single instance goes past the queue and the guard.

The calls are programs. What they ask of their surroundings is `Request`; the
clock, the queue, the metering API and the notification channel are whoever
answers.
-/

namespace UsageBilling

open Calendar (Instant Readings)

/-- Where a notification goes. -/
inductive Channel where
  | main
  /-- The channel for test notifications, where there is one. -/
  | test
  deriving DecidableEq, Repr

/-- What a billing call asks of its surroundings. -/
inductive Request where
  /-- Take the run guard, if it is free. -/
  | takeGuard
  /-- Give the run guard back. -/
  | releaseGuard
  /-- The instances that the monthly run bills, ascending by id. -/
  | activeInstances
  | instanceOf (id : String)
  /-- Read the reference clock of billing windows. -/
  | now
  /-- Read the wall clock of time stamps, as often as the call needs to before it asks again. -/
  | wallClock
  | token
  /-- Submit a batch; what comes back was not accepted. -/
  | submit (token : String) (batch : List UsagePayload)
  | page (cursor : Option Int) (limit : Nat)
  | seed (failures : List UsageFailure)
  | clear
  | listAll
  | notify (channel : Channel) (summary : Summary)
  /-- Wait some milliseconds. -/
  | wait (ms : Nat)
  | observe (observation : Observation)

/-- The answer to a request. -/
@[reducible] def Request.Answer : Request → Type
  | takeGuard => Bool
  | releaseGuard => Unit
  | activeInstances => Except ServiceError (List ServiceInstance)
  | instanceOf _ => Except ServiceError (Option ServiceInstance)
  | now => Option Instant
  | wallClock => Readings
  | token => Except ServiceError String
  | submit _ _ => Except ServiceError (List UsageFailure)
  | page _ _ => Except ServiceError FailurePage
  | seed _ => Except ServiceError Unit
  | clear => Except ServiceError Unit
  | listAll => Except ServiceError (List FailureRecord)
  | notify _ _ => Except ServiceError Unit
  | wait _ => Unit
  | observe _ => Unit

/-- The surroundings of a billing call. -/
@[reducible] def surroundings : Interface := ⟨Request, Request.Answer⟩

/-- A part of a billing call that cannot fail with an error. -/
abbrev Action (α : Type) := Program surroundings α

/-- A part of a billing call that may fail with an error. -/
abbrev Billing (α : Type) := ExceptT ServiceError (Program surroundings) α

/-- How a run ended. -/
inductive RunOutcome where
  /-- Every record was accepted. -/
  | succeeded (attempts submitted : Nat)
  /-- The attempts ran out with some records remaining. -/
  | escalated (attempts remaining : Nat)
  /-- Another run was active. -/
  | skipped
  deriving DecidableEq, Repr

/-- The name of an outcome in the metrics. -/
def RunOutcome.name : RunOutcome → String
  | succeeded .. => "succeeded"
  | escalated .. => "escalated"
  | skipped => "skipped"

/-- How a service bills. -/
structure BillingPlan where
  /-- The product that escalations name. -/
  product : String
  retry : RetryPolicy
  /-- The largest batch of a submission. -/
  batchSize : Nat
  /-- Test notifications have a channel of their own. -/
  hasTestChannel : Bool
  deriving Repr

/-! ## Asking -/

namespace Billing

/-- Ask a question that is always answered. -/
def ask (r : Request) : Action r.Answer :=
  Program.request (I := surroundings) r

/-- Count something. -/
def observe (o : Observation) : Action Unit :=
  ask (.observe o)

/-- A step as a part that may fail. -/
def always {α : Type} (step : Action α) : Billing α :=
  ExceptT.lift step

/-- A result that may be a breakdown. -/
def orCrash {α : Type} : Except Crash α → Action α
  | .ok a => .done a
  | .error reason => .crash reason

/-- The reading of the reference clock. -/
def readClock : Action Instant := do
  match ← ask .now with
  | some t => return t
  | none => .crash .clock

def activeInstances : Billing (List ServiceInstance) :=
  ExceptT.mk (ask .activeInstances)

def instanceOf (id : String) : Billing (Option ServiceInstance) :=
  ExceptT.mk (ask (.instanceOf id))

def token : Billing String :=
  ExceptT.mk (ask .token)

def submit (token : String) (batch : List UsagePayload) : Billing (List UsageFailure) :=
  ExceptT.mk (ask (.submit token batch))

def page (cursor : Option Int) (limit : Nat) : Billing FailurePage :=
  ExceptT.mk (ask (.page cursor limit))

def seed (failures : List UsageFailure) : Billing Unit :=
  ExceptT.mk (ask (.seed failures))

def clear : Billing Unit :=
  ExceptT.mk (ask .clear)

def listAll : Billing (List FailureRecord) :=
  ExceptT.mk (ask .listAll)

def notify (channel : Channel) (summary : Summary) : Billing Unit :=
  ExceptT.mk (ask (.notify channel summary))

/-! ## Escalation -/

/-- Dispatch a summary; a refusal is counted and goes no further. -/
def dispatch (summary : Summary) : Action Bool := do
  match ← (notify .main summary).run with
  | .ok () => do
    observe (.escalation "sent")
    return true
  | .error _ => do
    observe (.escalation "failed")
    return false

/-- Tell a human about failures. -/
def escalate (plan : BillingPlan) (failures : List UsageFailure) : Action Bool :=
  dispatch (.ofFailures plan.product failures)

/-- Tell a human about rows whose payload cannot be read. -/
def escalateUndecodable (plan : BillingPlan) (records : List FailureRecord) : Action Bool :=
  dispatch (.ofUndecodable plan.product records)

/-- Send a sample to the channel of test notifications. -/
def testNotification (plan : BillingPlan) : Billing Unit := do
  let clock ← always (ask .wallClock)
  notify (if plan.hasTestChannel then .test else .main)
    (.ofRecords plan.product (Summary.sampleRecords clock.first))

/-! ## One pass over the queue -/

/-- What a pass has found so far. -/
structure Pass where
  failures : List UsageFailure := []
  undecodable : List FailureRecord := []

/-- The payloads of some rows and the rows whose payload cannot be read, both in order. -/
def decodePage : List FailureRecord → List UsagePayload × List FailureRecord
  | [] => ([], [])
  | r :: records =>
    let (payloads, undecodable) := decodePage records
    match r.usagePayload with
    | .ok p => (p :: payloads, undecodable)
    | .error _ => (payloads, r :: undecodable)

/-- Count each row whose payload cannot be read. -/
def reportUndecodable : List FailureRecord → Action Unit
  | [] => return ()
  | _ :: records => do
    observe (.error "corrupt_failure_record")
    reportUndecodable records

/-- Submit the payloads of a page, if there are any. -/
def submitPage (token : String) (records : List FailureRecord) (pass : Pass) : Billing Pass := do
  let (payloads, undecodable) := decodePage records
  always (reportUndecodable undecodable)
  let pass := { pass with undecodable := pass.undecodable ++ undecodable }
  if payloads.isEmpty then return pass
  else do
    let failures ← submit token payloads
    return { pass with failures := pass.failures ++ failures }

/-- Fetch and submit the pages of a scan to its end, at most `fuel` of them. -/
def passOver (token : String) : Nat → Scan → Pass → Billing Pass
  | 0, _, pass => return pass
  | fuel + 1, scan, pass => do
    if scan.finished then return pass
    else do
      let page ← page scan.cursor scan.limit
      match scan.advance page with
      | (_, none) => return pass
      | (scan, some records) => do
        let pass ← submitPage token records pass
        passOver token fuel scan pass

/-- More pages than a queue can hand out: each page but the last has a new id, and ids have
64 bits. -/
def pageBound : Nat := UInt64.size

/-- A token for an attempt; a refusal is counted. -/
def attemptToken : Billing String :=
  ExceptT.mk do
    match ← token.run with
    | .ok t => return .ok t
    | .error e => do
      observe (.error "token")
      return .error e

/-- One attempt to bill the queue: a pass over it, the report of rows that cannot be read, and
the new generation of exactly what is still failing. -/
def attempt (plan : BillingPlan) (_number : Nat) : Billing (Attempt (List UsageFailure)) := do
  let token ← attemptToken
  let pass ← passOver token pageBound (Scan.start plan.batchSize) {}
  if !pass.undecodable.isEmpty then
    discard <| always (escalateUndecodable plan pass.undecodable)
  if pass.failures.isEmpty then do
    clear
    always (observe (.depth 0))
    return .success
  else do
    seed pass.failures
    always (observe (.depth pass.failures.length))
    return .retryable pass.failures

/-! ## Runs -/

/-- Attempt to bill the queue as the retry policy says, and escalate what remains. -/
def attemptAndEscalate (plan : BillingPlan) (submitted : Nat) : Billing RunOutcome := do
  let outcome ← ExceptT.mk <|
    plan.retry.attempts (ask (.wait plan.retry.backoff)) fun n => (attempt plan n).run
  match outcome with
  | .succeeded attempts => return .succeeded attempts submitted
  | .exhausted attempts last => do
    discard <| always (escalate plan last)
    return .escalated attempts last.length

/-- The reason of the records that a scheduled run starts with. -/
def initialFailure : String := "Initial billing failure"

/-- The records of a scheduled run: one for each instance, at the reading `now` of the reference
clock. The wall clock is read for each of them. -/
def scheduledFailures (now : Instant) (clock : Readings) :
    List ServiceInstance → Except Crash (List UsageFailure)
  | [] => .ok []
  | i :: instances => do
    let payload ← usagePayload i .scheduled now
    let failures ← scheduledFailures now clock.later instances
    return .stamped payload initialFailure clock.first :: failures

/-- Fill the queue with one record for each active instance. -/
def seedFromInstances : Billing Nat := do
  let instances ← activeInstances
  let now ← always readClock
  let clock ← always (ask .wallClock)
  let failures ← always (orCrash (scheduledFailures now clock instances))
  seed failures
  always (observe (.depth failures.length))
  return failures.length

/-- Count how a run ended. -/
def finishRun : Except ServiceError RunOutcome → Action Unit
  | .ok outcome => observe (.run outcome.name)
  | .error _ => observe (.run "error")

/-- A run that is counted at its end. -/
def counted (run : Billing RunOutcome) : Billing RunOutcome :=
  ExceptT.mk do
    let result ← run.run
    finishRun result
    return result

/-- Hold the run guard throughout `body`, or do `busy` if it is taken. -/
def guarded {α : Type} (busy body : Billing α) : Billing α :=
  ExceptT.mk do
    if ← ask .takeGuard then Program.ensuring (I := surroundings) .releaseGuard body.run
    else busy.run

/-- A scheduled call that finds the guard taken. -/
def skip : Billing RunOutcome := do
  always (observe (.run RunOutcome.skipped.name))
  return .skipped

/-- The monthly run: bill every active instance for the previous month. -/
def runScheduled (plan : BillingPlan) : Billing RunOutcome :=
  guarded skip <| counted do
    let seeded ← seedFromInstances
    attemptAndEscalate plan seeded

/-- A manual call that finds the guard taken. -/
def runInProgress : ServiceError :=
  ErrorKind.conflict.because "A billing run is already in progress"

/-- The outstanding failures of some rows and the rows whose payload cannot be read. The wall clock
is read for each row whose payload can be. -/
def outstanding (clock : Readings) :
    List FailureRecord → List UsageFailure × List FailureRecord
  | [] => ([], [])
  | r :: records =>
    match r.toFailure clock.first with
    | .ok f =>
      let (failures, undecodable) := outstanding clock.later records
      (f :: failures, undecodable)
    | .error _ =>
      let (failures, undecodable) := outstanding clock records
      (failures, r :: undecodable)

/-- Submit whatever the queue holds once more, and return the rows that are still failing. -/
def retryOutstanding (plan : BillingPlan) : Billing (List FailureRecord) :=
  guarded (throw runInProgress) do
    let records ← listAll
    let clock ← always (ask .wallClock)
    let (failures, undecodable) := outstanding clock records
    always (reportUndecodable undecodable)
    if !undecodable.isEmpty then
      discard <| always (escalateUndecodable plan undecodable)
    seed failures
    always (observe (.depth failures.length))
    match ← counted (attemptAndEscalate plan failures.length) with
    | .escalated .. => listAll
    | _ => return []

/-! ## Single instances -/

/-- The metering API did not accept the record of an instance. -/
def billingFailed (instanceId reason : String) : ServiceError :=
  ErrorKind.badGateway.because ("Billing for instance: " ++ instanceId ++ " failed: " ++ reason)

/-- Bill one instance at once, past the queue. -/
def billInstance (i : ServiceInstance) (ctx : BillingContext) : Billing Unit := do
  let now ← always readClock
  let payload ← always (orCrash (usagePayload i ctx now))
  let token ← token
  match ← submit token [payload] with
  | [] => return ()
  | f :: _ => throw (billingFailed i.instanceId f.message)

/-- There is no such instance. -/
def instanceMissing (id : String) : ServiceError :=
  ErrorKind.notFound.because ("Instance " ++ id ++ " missing")

/-- Bill one instance by its id, as a manual trigger. -/
def billInstanceId (id : String) (dryRun : Bool) : Billing Unit := do
  match ← instanceOf id with
  | none => throw (instanceMissing id)
  | some i => billInstance i (.byHand dryRun)

/-- The final bill of an instance that is deprovisioned. -/
def billDeprovisioned (i : ServiceInstance) : Billing Unit :=
  billInstance i (.byHand false)

end Billing

end UsageBilling
