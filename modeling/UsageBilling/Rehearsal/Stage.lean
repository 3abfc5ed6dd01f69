import UsageBilling.Rehearsal.Scenario
import UsageBilling.Scheduler

/-!
# The stage

The state that all tasks of a rehearsal share, and the programs that do a step
on it. A task looks at the stage, changes it, and lets time pass; whatever it
does between two waits happens at once. Billing calls are interpreted here:
each of their requests is answered from the stage and the scripts.
-/

namespace UsageBilling.Rehearsal

open Calendar (Instant)

/-- The state that all tasks of a rehearsal share. -/
structure Stage where
  plan : BillingPlan
  policy : RejectionPolicy
  wallClock : Instant
  ticking : Bool
  faults : List (Target × Nat)
  remote : Option Remote
  /-- What the reference clock shows, less the time passed if it ticks. -/
  base : Instant
  clockBroken : Bool := false
  /-- Milliseconds since the beginning. -/
  elapsed : Nat := 0
  queue : FailureQueue := {}
  instances : InstanceStore
  runActive : Bool := false
  metrics : Metrics := {}
  submissions : Script Verdict
  tokens : Script (Except ServiceError String)
  deliveries : Script (Except ServiceError Unit)
  /-- The calls made so far that can be made to fail. -/
  calls : List Target := []
  scheduler : Scheduler := {}
  /-- What happened in the current step, the latest first. -/
  events : List Event := []

/-- The reading of the reference clock. -/
def Stage.clock (s : Stage) : Option Instant :=
  if s.clockBroken then none
  else some (if s.ticking then s.base.addMillis s.elapsed else s.base)

/-- What a task does on the stage. -/
inductive Act where
  | look
  | become (s : Stage)
  /-- Let some milliseconds pass. -/
  | wait (ms : Nat)
  /-- Let everything happen that is due by now. -/
  | settle

/-- What an act returns. -/
@[reducible] def Act.Answer : Act → Type
  | look => Stage
  | become _ => Unit
  | wait _ => Unit
  | settle => Unit

/-- The stage as the surroundings of a task. -/
@[reducible] def onStage : Interface := ⟨Act, Act.Answer⟩

/-- A task of a rehearsal. -/
abbrev Task (α : Type) := Program onStage α

namespace Task

def look : Task Stage := Program.request (I := onStage) .look

def become (s : Stage) : Task Unit := Program.request (I := onStage) (.become s)

def wait (ms : Nat) : Task Unit := Program.request (I := onStage) (.wait (waitLasting ms))

def settle : Task Unit := Program.request (I := onStage) .settle

/-- Change the stage. -/
def change (f : Stage → Stage) : Task Unit := do
  become (f (← look))

/-- Note that something happened. -/
def note (e : Event) : Task Unit :=
  change fun s => { s with events := e :: s.events }

/-- Count a call, and the error that it is made to fail with. -/
def fault? (target : Target) : Task (Option ServiceError) := do
  let s ← look
  let calls := target :: s.calls
  become { s with calls := calls }
  let n := calls.count target
  if s.faults.contains (target, n) then
    return some <| ErrorKind.database.because <|
      target.name ++ " call " ++ Summary.countText n ++ " failed"
  else return none

/-- A call that may be made to fail. -/
def orFault {α : Type} (target : Target) (call : Task (Except ServiceError α)) :
    Task (Except ServiceError α) := do
  match ← fault? target with
  | some e => return .error e
  | none => call

/-- Wait, and do the steps of an interlude. -/
def playSteps (nested : Step → Task Value) : List Step → Task Unit
  | [] => return ()
  | step :: steps => do
    let value ← nested step
    note (.nested step value)
    playSteps nested steps

/-- Play the interludes of an entry. -/
def playInterludes (nested : Step → Task Value) : List Interlude → Task Unit
  | [] => return ()
  | i :: interludes => do
    wait i.wait
    playSteps nested i.steps
    playInterludes nested interludes

/-- A batch that the scripted metering API takes. -/
def scriptedSubmit (nested : Step → Task Value) (token : String) (batch : List UsagePayload) :
    Task (Except ServiceError (List UsageFailure)) := do
  note (.submit batch token)
  let s ← look
  let (entry, rest) := s.submissions.next
  become { s with submissions := rest }
  playInterludes nested entry.interludes
  return entry.answer.on s.policy batch s.wallClock

/-- A batch that is lost on the network. -/
def remoteSubmit (remote : Remote) (batch : List UsagePayload) :
    Task (Except ServiceError (List UsageFailure)) := do
  let s ← look
  let submission := remote.client.submit batch .lost s.wallClock
  become { s with metrics := s.metrics.observeAll submission.observations }
  return submission.result

/-- A token from the script. -/
def scriptedToken (nested : Step → Task Value) : Task (Except ServiceError String) := do
  let s ← look
  let (entry, rest) := s.tokens.next
  become { s with tokens := rest }
  playInterludes nested entry.interludes
  if let .error _ := entry.answer then note .tokenRefused
  return entry.answer

/-- A notification by the script. -/
def scriptedNotify (nested : Step → Task Value) (channel : Channel) (summary : Summary) :
    Task (Except ServiceError Unit) := do
  note (.notify summary channel)
  let s ← look
  let (entry, rest) := s.deliveries.next
  become { s with deliveries := rest }
  playInterludes nested entry.interludes
  return entry.answer

/-- A page of the queue. -/
def fetchPage (cursor : Option Int) (limit : Nat) : Task (Except ServiceError FailurePage) := do
  note (.page cursor limit)
  orFault .nextPage do return .ok ((← look).queue.page cursor limit)

/-- A new generation of the queue. -/
def seedQueue (failures : List UsageFailure) : Task (Except ServiceError Unit) :=
  orFault .seed do
    let s ← look
    match s.queue.seed failures with
    | .error e => return .error e
    | .ok q => do
      become { s with queue := q }
      return .ok ()

/-- An empty queue. -/
def clearQueue : Task (Except ServiceError Unit) :=
  orFault .clear do
    change fun s => { s with queue := s.queue.clear }
    return .ok ()

/-- Take the run guard if it is free. -/
def takeGuard : Task Bool := do
  let s ← look
  if s.runActive then return false
  else do
    become { s with runActive := true }
    return true

/-- Answer a request of a billing call. -/
def answer (nested : Step → Task Value) : (r : Request) → Task r.Answer
  | .takeGuard => takeGuard
  | .releaseGuard => change fun s => { s with runActive := false }
  | .activeInstances => orFault .listInstances do return .ok (← look).instances.rows
  | .instanceOf id => orFault .getInstance do return .ok ((← look).instances.get? id)
  | .now => do return (← look).clock
  | .wallClock => do return .still (← look).wallClock
  | .token => do
    match (← look).remote.bind (·.token) with
    | some token => return token
    | none => scriptedToken nested
  | .submit token batch => do
    match (← look).remote with
    | some remote => remoteSubmit remote batch
    | none => scriptedSubmit nested token batch
  | .page cursor limit => fetchPage cursor limit
  | .seed failures => seedQueue failures
  | .clear => clearQueue
  | .listAll => orFault .listAll do return .ok (← look).queue.rows
  | .notify channel summary => scriptedNotify nested channel summary
  | .wait ms => wait ms
  | .observe o => change fun s => { s with metrics := s.metrics.observe o }

/-- Make a billing call. -/
def call {α : Type} (nested : Step → Task Value) (action : Action α) : Task α :=
  Program.interpret (answer nested) action

/-- Start or stop the scheduler. -/
def schedule (f : Scheduler → Scheduler × Bool) : Task Value := do
  let s ← look
  let (scheduler, answer) := f s.scheduler
  become { s with scheduler := scheduler }
  return .flag answer

/-- Do a step; the steps of interludes are done by `nested`. -/
def doStep (nested : Step → Task Value) : Step → Task Value
  | .queue step => do
    let s ← look
    let (value, session) := step.perform s.wallClock { queue := s.queue }
    become { s with queue := session.queue }
    return .queue value
  | .run => do return .outcome (← call nested (Billing.runScheduled (← look).plan).run)
  | .retry => do return .rows (← call nested (Billing.retryOutstanding (← look).plan).run)
  | .billId id dryRun => do return .unit (← call nested (Billing.billInstanceId id dryRun).run)
  | .bill i ctx => do return .unit (← call nested (Billing.billInstance i ctx).run)
  | .deprovision i => do return .unit (← call nested (Billing.billDeprovisioned i).run)
  | .testNotification => do
    return .unit (← call nested (Billing.testNotification (← look).plan).run)
  | .escalate failures => do
    return .flag (← call nested (Billing.escalate (← look).plan failures))
  | .escalateUndecodable records => do
    return .flag (← call nested (Billing.escalateUndecodable (← look).plan records))
  | .isActive => do return .flag (← look).runActive
  | .policy => do return .policy (← look).plan.retry
  | .addInstance i => do
    change fun s => { s with instances := s.instances.insert i }
    return .none
  | .setNow now => do
    change fun s => { s with base := now }
    return .none
  | .instances => do return .instances (← look).instances.rows
  | .instanceOf id => do return .instance? ((← look).instances.get? id)
  | .start => schedule Scheduler.start
  | .stop => schedule Scheduler.stop
  | .isRunning => do return .flag (← look).scheduler.isRunning
  | .breakClock => do
    change fun s => { s with clockBroken := true }
    return .none
  | .advance ms => do
    wait ms
    settle
    return .none

/-- Do a step; interludes inside interludes are played down to `depth`. -/
def perform : (depth : Nat) → Step → Task Value
  | 0 => fun _ => return .none
  | depth + 1 => doStep (perform depth)

end Task

end UsageBilling.Rehearsal
