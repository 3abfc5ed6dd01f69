import UsageBilling.Metering.Client
import UsageBilling.Reconciliation
import UsageBilling.Rehearsal.QueueStep

/-!
# Scenarios

A rehearsal plays billing calls against collaborators that follow a script.
Each call of a collaborator takes the next entry of its script, and the last
resort for ever after; an entry may take some time and do steps of its own
before it answers, so that calls overlap.
-/

namespace UsageBilling.Rehearsal

open Calendar (Instant)

/-- One step of a scenario. -/
inductive Step where
  | queue (step : QueueStep)
  /-- The monthly run. -/
  | run
  /-- The manual retry. -/
  | retry
  | billId (id : String) (dryRun : Bool)
  | bill (i : ServiceInstance) (ctx : BillingContext)
  | deprovision (i : ServiceInstance)
  | testNotification
  /-- Escalate failures. -/
  | escalate (failures : List UsageFailure)
  /-- Escalate rows whose payload cannot be read. -/
  | escalateUndecodable (records : List FailureRecord)
  /-- A run is active. -/
  | isActive
  /-- The retry policy. -/
  | policy
  | addInstance (i : ServiceInstance)
  | setNow (now : Instant)
  | instances
  | instanceOf (id : String)
  /-- Start the scheduler. -/
  | start
  /-- Stop the scheduler. -/
  | stop
  | isRunning
  /-- From now on the reference clock cannot be read. -/
  | breakClock
  /-- Let some milliseconds pass. -/
  | advance (ms : Nat)

/-- What a step returns. -/
inductive Value where
  | none
  | flag (b : Bool)
  | queue (value : QueueValue)
  | unit (result : Except ServiceError Unit)
  | rows (result : Except ServiceError (List FailureRecord))
  | outcome (result : Except ServiceError RunOutcome)
  | policy (policy : RetryPolicy)
  | instances (instances : List ServiceInstance)
  | instance? (i : Option ServiceInstance)

/-- What an entry of a script does before it answers. -/
structure Interlude where
  /-- Milliseconds that pass first. -/
  wait : Nat
  steps : List Step

/-- An entry of a script. -/
structure Entry (α : Type) where
  interludes : List Interlude
  answer : α

/-- A script of a collaborator. -/
structure Script (α : Type) where
  entries : List (Entry α)
  /-- The entry of all calls after the listed ones. -/
  lastResort : Entry α

/-- The entry of the next call, and the script after it. -/
def Script.next {α : Type} (s : Script α) : Entry α × Script α :=
  match s.entries with
  | [] => (s.lastResort, s)
  | entry :: entries => (entry, { s with entries := entries })

/-- What the metering API makes of a batch. -/
inductive Verdict where
  | acceptAll
  /-- A response, read under the scenario's rejection policy. -/
  | respond (status : Nat) (body : String)
  /-- The records of these instances are not accepted. -/
  | rejectIds (ids : List String) (reason : String)
  /-- These failures come back whatever was submitted. -/
  | report (failures : List (UsagePayload × String))
  | rejectAll (reason : String)
  | fail (e : ServiceError)

/-- The outstanding records that a verdict makes of a batch. -/
def Verdict.on (policy : RejectionPolicy) (batch : List UsagePayload) (now : Instant) :
    Verdict → Except ServiceError (List UsageFailure)
  | .acceptAll => .ok []
  | .respond status body => .ok (Metering.classify status body batch policy now)
  | .rejectIds ids reason =>
    .ok ((batch.filter fun p => ids.contains p.instanceId).map fun p => .stamped p reason now)
  | .report failures => .ok (failures.map fun (p, reason) => .stamped p reason now)
  | .rejectAll reason => .ok (Metering.failAll batch reason now)
  | .fail e => .error e

/-- A collaborator's call that can be made to fail. -/
inductive Target where
  | seed
  | clear
  | nextPage
  | listAll
  | listInstances
  | getInstance
  deriving DecidableEq, Repr

/-- The name of a call in the error that it is made to fail with. -/
def Target.name : Target → String
  | seed => "seed"
  | clear => "clear"
  | nextPage => "next_page"
  | listAll => "list_all"
  | listInstances => "list_instances"
  | getInstance => "get_instance"

/-- Usage that is sent over a network where every message is lost. -/
structure Remote where
  client : Metering.Client
  /-- What comes of asking for a token, if that goes over the network as well. -/
  token : Option (Except ServiceError String)

/-- A rehearsal from its beginning. -/
structure Scenario where
  plan : BillingPlan
  policy : RejectionPolicy
  now : Instant
  /-- The reference clock advances with the time that passes. -/
  ticking : Bool
  /-- The wall clock stands at this instant. -/
  wallClock : Instant
  instances : List ServiceInstance
  submissions : Script Verdict
  tokens : Script (Except ServiceError String)
  deliveries : Script (Except ServiceError Unit)
  /-- The calls that fail, counted from 1. -/
  faults : List (Target × Nat)
  remote : Option Remote
  steps : List Step

/-- Something that happened during a step. -/
inductive Event where
  | page (cursor : Option Int) (limit : Nat)
  | submit (batch : List UsagePayload) (token : String)
  | notify (summary : Summary) (channel : Channel)
  | tokenRefused
  /-- A step of an interlude was done. -/
  | nested (step : Step) (value : Value)

end UsageBilling.Rehearsal
