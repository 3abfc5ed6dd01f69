import UsageBilling.Proofs.Courses.Submissions

/-!
# Histories

Scheduled and manual calls, one after another, each with the course it takes.
What a call finds is what all calls before it have left.
-/

namespace UsageBilling

open Billing
open Calendar (Instant Readings)

/-- The calls that go through the queue. -/
inductive Call where
  | scheduled
  | byHand
  deriving DecidableEq, Repr

/-- The call came back without an outcome: with an error, or not at all. -/
def hasFailed {α : Type} : Except Crash (Except ServiceError α) → Bool
  | .ok (.ok _) => false
  | _ => true

namespace Collaborators

variable {c : Collaborators} {plan : BillingPlan}

/-- The call takes this course, and fails or does not. -/
def Takes (c : Collaborators) (plan : BillingPlan) (past : Chronicle) (failed : Bool)
    (course : List Happening) : Call → Prop
  | .scheduled => ∃ result, c.Does (runScheduled plan).run past result course ∧
      failed = hasFailed result
  | .byHand => ∃ result, c.Does (retryOutstanding plan).run past result course ∧
      failed = hasFailed result

/-- Some calls, one after another; each end is noted down. -/
inductive History (c : Collaborators) (plan : BillingPlan) : Chronicle → Prop where
  | start : History c plan []
  | call {past : Chronicle} {failed : Bool} {course : List Happening} {call : Call}
      (before : History c plan past) (takes : c.Takes plan past failed course call) :
      History c plan (past ++ (course ++ [.ended failed]))

/-- A call is undisturbed if others append nothing. -/
theorem Takes.undisturbed {past : Chronicle} {failed : Bool} {course : List Happening} {call : Call}
    (h : c.Takes plan past failed course call) (alone : ∀ past, c.arrivals past = []) :
    Undisturbed course := by
  cases call with
  | scheduled =>
    obtain ⟨_, does, -⟩ := h
    exact does.undisturbed alone
  | byHand =>
    obtain ⟨_, does, -⟩ := h
    exact does.undisturbed alone

end Collaborators

/-! ## The writes of a call -/

/-- The part of a call that fills the queue; it ends with the number of records to bill, or not. -/
inductive Opens (plan : BillingPlan) (q : FailureQueue) :
    Call → List Happening → Option Nat → Prop where
  | scheduled {course : List Happening} {result : Except Crash (Except ServiceError Nat)}
      (seeds : Seeds course result) :
      Opens plan q .scheduled course (result.toOption.bind (·.toOption))
  | byHand {course : List Happening} {result : Except ServiceError Nat}
      (reseeds : Reseeds plan q course result) : Opens plan q .byHand course result.toOption

/-- A call: what it does to the queue, and whether it fails. -/
inductive Calls (plan : BillingPlan) (q : FailureQueue) (call : Call) :
    List Happening → Bool → Prop where
  | busy {others closing : List Happening} (arrivals : Arrivals others) (quiet : Passive closing)
      (failed : Bool) :
      Calls plan q call (others ++ .exchange .takeGuard false :: closing) failed
  | unopened {others opening closing : List Happening} (arrivals : Arrivals others)
      (opens : Opens plan (q.afterAll others) call opening none) (quiet : Passive closing) :
      Calls plan q call (others ++ .exchange .takeGuard true :: (opening ++ closing)) true
  | billed {others opening run closing : List Happening} {submitted : Nat} {failed : Bool}
      {outcome : Except ServiceError RunOutcome} (arrivals : Arrivals others)
      (opens : Opens plan (q.afterAll others) call opening (some submitted))
      (bills : Bills plan submitted ((q.afterAll others).afterAll opening) run outcome)
      (quiet : Passive closing) (ended : failed = false → ∃ o, outcome = .ok o) :
      Calls plan q call (others ++ .exchange .takeGuard true :: (opening ++ (run ++ closing))) failed

theorem passive_observe (o : Observation) : Passive [.exchange (.observe o) ()] :=
  .cons ⟨rfl, rfl, id⟩ .nil

theorem passive_releaseGuard : Passive [.exchange .releaseGuard ()] :=
  .cons ⟨rfl, rfl, id⟩ .nil

theorem Lists.passive {q : FailureQueue} {outcome : RunOutcome} {course : List Happening}
    {result : Except ServiceError (List FailureRecord)} (h : Lists q outcome course result) :
    Passive course := by
  cases h with
  | remaining => exact .cons ⟨rfl, rfl, id⟩ .nil
  | unlisted => exact .cons ⟨rfl, rfl, id⟩ .nil
  | nothing => exact .nil

/-- A scheduled call under the guard is one of the two kinds of calls. -/
theorem Guards.calls_scheduled {plan : BillingPlan} {q : FailureQueue} {course : List Happening}
    {result : Except Crash (Except ServiceError RunOutcome)}
    (h : Guards Skips (Schedules plan) q course result) :
    Calls plan q .scheduled course (hasFailed result) := by
  cases h with
  | busy arrivals leaves =>
    obtain ⟨rfl, rfl⟩ := leaves
    exact .busy arrivals (passive_observe _) _
  | held arrivals schedules =>
    cases schedules with
    | broken seeds => exact .unopened arrivals (.scheduled seeds) passive_releaseGuard
    | unseeded seeds =>
      rw [List.append_assoc]
      exact .unopened arrivals (.scheduled seeds)
        ((passive_observe _).append passive_releaseGuard)
    | @billed _ _ _ outcome seeds bills =>
      rw [List.append_assoc, List.append_assoc]
      refine .billed arrivals (.scheduled seeds) bills
        ((passive_observe _).append passive_releaseGuard) fun ended => ?_
      cases outcome with
      | ok o => exact ⟨o, rfl⟩
      | error e => cases ended

theorem Guards.calls_byHand {plan : BillingPlan} {q : FailureQueue} {course : List Happening}
    {result : Except ServiceError (List FailureRecord)}
    (h : Guards Conflicts (RetriesByHand plan) q course result) :
    Calls plan q .byHand course (hasFailed (.ok result)) := by
  cases h with
  | busy arrivals leaves =>
    obtain ⟨rfl, rfl⟩ := leaves
    exact .busy arrivals (List.forall_mem_nil _) _
  | held arrivals retries =>
    cases retries with
    | unseeded reseeds => exact .unopened arrivals (.byHand reseeds) passive_releaseGuard
    | failed reseeds bills =>
      rw [List.append_assoc, List.append_assoc]
      exact .billed arrivals (.byHand reseeds) bills
        ((passive_observe _).append passive_releaseGuard) nofun
    | billed reseeds bills lists =>
      rw [List.append_assoc, List.append_assoc, List.cons_append]
      exact .billed arrivals (.byHand reseeds) bills
        ((passive_observe _).append (lists.passive.append passive_releaseGuard)) fun _ => ⟨_, rfl⟩

namespace Collaborators

/-- What a call does to the queue. -/
theorem Takes.calls {c : Collaborators} {plan : BillingPlan} {past : Chronicle} {failed : Bool}
    {course : List Happening} {call : Call} (h : c.Takes plan past failed course call)
    (numbered : (c.queueAt past).Numbered) (unspent : (c.queueAt (past ++ course)).Unspent) :
    Calls plan (c.queueAt past) call course failed := by
  cases call with
  | scheduled =>
    obtain ⟨result, does, rfl⟩ := h
    exact (does.runScheduled numbered unspent).calls_scheduled
  | byHand =>
    obtain ⟨result, does, rfl⟩ := h
    obtain ⟨answer, rfl, guards⟩ := does.retryOutstanding numbered unspent
    exact guards.calls_byHand

end Collaborators

/-- The write that leaves these failures in the queue. -/
def refillWith (failures : List UsageFailure) : Happening :=
  if failures = [] then .exchange .clear (.ok ()) else .exchange (.seed failures) (.ok ())

/-- Where a call writes the queue `q`, given what has happened in it before: it fills the queue from
the instances, it stores the rows anew, or it refills the queue after a pass. -/
inductive WritesAt (plan : BillingPlan) (q : FailureQueue) :
    Call → List Happening → Happening → Prop where
  | seeding {others : List Happening} {instances : List ServiceInstance}
      {now : Instant} {clock : Readings} (arrivals : Arrivals others) (failures : List UsageFailure) :
      WritesAt plan q .scheduled
        (others ++ [.exchange .takeGuard true, .exchange .activeInstances (.ok instances),
          .exchange .now (some now), .exchange .wallClock clock])
        (.exchange (.seed failures) (.ok ()))
  | reseeding {others asides report : List Happening} {clock : Readings}
      (arrivals : Arrivals others) (quiet : Asides asides)
      (reports : Reports plan (undecodableOf (q.afterAll others).rows) report) :
      WritesAt plan q .byHand
        (others ++ .exchange .takeGuard true ::
          .exchange .listAll (.ok (q.afterAll others).rows) :: .exchange .wallClock clock ::
          (asides ++ report))
        (.exchange (.seed (outstandingOf clock (q.afterAll others).rows)) (.ok ()))
  | refilling {call : Call} {before pass report : List Happening} {token : String} {found : Pass}
      (passes : Passes token (max plan.batchSize 1) (q.afterAll before).rows pass (.ok found))
      (reports : Reports plan found.undecodable report) :
      WritesAt plan q call (before ++ .exchange .token (.ok token) :: (pass ++ report))
        (refillWith found.failures)

/-- If this is a write, it is one of those. -/
def WrittenAt (plan : BillingPlan) (q : FailureQueue) (call : Call) (since : List Happening)
    (h : Happening) : Prop :=
  h.IsWrite → WritesAt plan q call since h

section Writes

variable {plan : BillingPlan} {q : FailureQueue} {call : Call} {before course : List Happening}

/-- Passive happenings write nowhere. -/
theorem Passive.writtenAt (h : Passive course) :
    Throughout (WrittenAt plan q call) before course :=
  .of_forall fun _ happening member write => absurd write (h.unwritten happening member)

theorem Submits.writtenAt {token : String} {payloads : List UsagePayload}
    {result : Except ServiceError (List UsageFailure)} (h : Submits token payloads course result) :
    Throughout (WrittenAt plan q call) before course := by
  cases h with
  | nothing => exact throughout_nil
  | batch => exact ⟨nofun, throughout_nil⟩

theorem Passes.writtenAt {token : String} {limit : Nat} {rows : List FailureRecord}
    {result : Except ServiceError Pass} (h : Passes token limit rows course result) :
    Throughout (WrittenAt plan q call) before course := by
  induction h generalizing before with
  | finished quiet => exact quiet.passive.writtenAt
  | unread => exact ⟨nofun, throughout_nil⟩
  | refused _ quiet submits =>
    exact throughout_append.2 ⟨quiet.passive.writtenAt, submits.writtenAt⟩
  | page _ quiet submits _ ih =>
    exact throughout_append.2 ⟨quiet.passive.writtenAt, throughout_append.2 ⟨submits.writtenAt, ih⟩⟩

/-- The queue is refilled with what the pass has left. -/
theorem Refills.writtenAt {failures : List UsageFailure}
    {result : Except ServiceError (Attempt (List UsageFailure))} (h : Refills failures course result)
    (site : WritesAt plan q call before (refillWith failures)) :
    Throughout (WrittenAt plan q call) before course := by
  cases h with
  | cleared => exact ⟨fun _ => site, nofun, throughout_nil⟩
  | uncleared => exact ⟨nofun, throughout_nil⟩
  | refilled some_left =>
    rw [refillWith, if_neg some_left] at site
    exact ⟨fun _ => site, nofun, throughout_nil⟩
  | unfilled => exact ⟨nofun, throughout_nil⟩

/-- An attempt writes where its pass is over. -/
theorem Tries.writtenAt {result : Except ServiceError (Attempt (List UsageFailure))}
    (h : Tries plan (q.afterAll before) course result) :
    Throughout (WrittenAt plan q call) before course := by
  cases h with
  | tokenless arrivals =>
    exact throughout_append.2 ⟨arrivals.passive.writtenAt, nofun, nofun, throughout_nil⟩
  | broken arrivals passes =>
    exact throughout_append.2 ⟨arrivals.passive.writtenAt, nofun, passes.writtenAt⟩
  | @passed others pass report refill token found _ arrivals passes reports refills =>
    rw [← FailureQueue.afterAll_append] at passes
    refine throughout_append.2 ⟨arrivals.passive.writtenAt, nofun, throughout_append.2
      ⟨passes.writtenAt, throughout_append.2 ⟨reports.passive.writtenAt, ?_⟩⟩⟩
    have site : WritesAt plan q call _ _ := .refilling passes reports
    simpa using refills.writtenAt site

/-- Every attempt writes where its own pass is over. -/
theorem Retries.writtenAt {more number : Nat}
    {result : Except ServiceError (RetryOutcome (List UsageFailure))}
    (h : Retries plan more number (q.afterAll before) course result) :
    Throughout (WrittenAt plan q call) before course := by
  generalize same : q.afterAll before = q' at h
  induction h generalizing before with
  | failed tries => exact Tries.writtenAt (same ▸ tries)
  | succeeded tries => exact Tries.writtenAt (same ▸ tries)
  | exhausted tries => exact Tries.writtenAt (same ▸ tries)
  | again tries _ ih =>
    subst same
    refine throughout_append.2 ⟨tries.writtenAt, nofun, ih ?_⟩
    simp [FailureQueue.after]

/-- Billing writes in its attempts only. -/
theorem Bills.writtenAt {submitted : Nat} {result : Except ServiceError RunOutcome}
    (h : Bills plan submitted (q.afterAll before) course result) :
    Throughout (WrittenAt plan q call) before course := by
  cases h with
  | failed retries => exact retries.writtenAt
  | succeeded retries => exact retries.writtenAt
  | escalated retries dispatches =>
    exact throughout_append.2 ⟨retries.writtenAt, dispatches.passive.writtenAt⟩

/-- A call fills the queue from the instances or with its own rows. -/
theorem Opens.writtenAt {others : List Happening} {submitted : Option Nat} (arrivals : Arrivals others)
    (h : Opens plan (q.afterAll others) call course submitted) :
    Throughout (WrittenAt plan q call) (others ++ [.exchange .takeGuard true]) course := by
  cases h with
  | scheduled seeds =>
    cases seeds with
    | unlisted => exact ⟨nofun, throughout_nil⟩
    | unclocked => exact ⟨nofun, nofun, throughout_nil⟩
    | overflown => exact ⟨nofun, nofun, nofun, throughout_nil⟩
    | unstored => exact ⟨nofun, nofun, nofun, nofun, throughout_nil⟩
    | seeded =>
      refine ⟨nofun, nofun, nofun, fun _ => ?_, nofun, throughout_nil⟩
      simpa using WritesAt.seeding arrivals _
  | byHand reseeds =>
    cases reseeds with
    | unlisted => exact ⟨nofun, throughout_nil⟩
    | unstored quiet reports =>
      exact ⟨nofun, nofun, throughout_append.2 ⟨quiet.passive.writtenAt, throughout_append.2
        ⟨reports.passive.writtenAt, nofun, throughout_nil⟩⟩⟩
    | reseeded quiet reports =>
      refine ⟨nofun, nofun, throughout_append.2 ⟨quiet.passive.writtenAt, throughout_append.2
        ⟨reports.passive.writtenAt, fun _ => ?_, nofun, throughout_nil⟩⟩⟩
      simpa using WritesAt.reseeding arrivals quiet reports

/-- Every write of a call is one of those. -/
theorem Calls.writtenAt {failed : Bool} (h : Calls plan q call course failed) :
    Throughout (WrittenAt plan q call) [] course := by
  cases h with
  | busy arrivals quiet =>
    exact throughout_append.2 ⟨arrivals.passive.writtenAt, nofun, quiet.writtenAt⟩
  | unopened arrivals opens quiet =>
    exact throughout_append.2 ⟨arrivals.passive.writtenAt, nofun, throughout_append.2
      ⟨opens.writtenAt arrivals, quiet.writtenAt⟩⟩
  | @billed others opening run closing submitted failed outcome arrivals opens bills quiet =>
    have bills : Bills plan submitted
        (q.afterAll ([] ++ others ++ [.exchange .takeGuard true] ++ opening)) run outcome := by
      simpa [FailureQueue.after] using bills
    exact throughout_append.2 ⟨arrivals.passive.writtenAt, nofun, throughout_append.2
      ⟨opens.writtenAt arrivals, throughout_append.2 ⟨bills.writtenAt, quiet.writtenAt⟩⟩⟩

end Writes

end UsageBilling
