import UsageBilling.Proofs.Courses.Attempt

/-!
# The course of a call

A scheduled call fills the queue from the instances and bills it. A manual
call reports the rows that cannot be read, stores the others anew and bills
those. Either holds the run guard throughout, or finds it taken and leaves.
-/

namespace UsageBilling

open Billing
open Calendar (Instant Readings)

/-! ## Courses -/

/-- Filling the queue with a record for each active instance. -/
inductive Seeds : List Happening → Except Crash (Except ServiceError Nat) → Prop where
  | unlisted (e : ServiceError) :
      Seeds [.exchange .activeInstances (.error e)] (.ok (.error e))
  | unclocked (instances : List ServiceInstance) :
      Seeds [.exchange .activeInstances (.ok instances), .exchange .now none] (.error .clock)
  | overflown {instances : List ServiceInstance} {now : Instant} {clock : Readings} {reason : Crash}
      (scheduled : scheduledFailures now clock instances = .error reason) :
      Seeds [.exchange .activeInstances (.ok instances), .exchange .now (some now),
        .exchange .wallClock clock] (.error reason)
  | unstored {instances : List ServiceInstance} {now : Instant} {clock : Readings}
      {failures : List UsageFailure} (scheduled : scheduledFailures now clock instances = .ok failures)
      (e : ServiceError) :
      Seeds [.exchange .activeInstances (.ok instances), .exchange .now (some now),
        .exchange .wallClock clock, .exchange (.seed failures) (.error e)] (.ok (.error e))
  | seeded {instances : List ServiceInstance} {now : Instant} {clock : Readings}
      {failures : List UsageFailure} (scheduled : scheduledFailures now clock instances = .ok failures)
      (storable : FailureQueue.Storable failures) :
      Seeds [.exchange .activeInstances (.ok instances), .exchange .now (some now),
        .exchange .wallClock clock, .exchange (.seed failures) (.ok ()),
        .exchange (.observe (.depth failures.length)) ()] (.ok (.ok failures.length))

/-- Storing anew what the queue `q` holds, reporting the rows that cannot be read first. -/
inductive Reseeds (plan : BillingPlan) (q : FailureQueue) :
    List Happening → Except ServiceError Nat → Prop where
  | unlisted (e : ServiceError) : Reseeds plan q [.exchange .listAll (.error e)] (.error e)
  | unstored {clock : Readings} {asides report : List Happening} (quiet : Asides asides)
      (reports : Reports plan (undecodableOf q.rows) report) (e : ServiceError) :
      Reseeds plan q (.exchange .listAll (.ok q.rows) :: .exchange .wallClock clock ::
        (asides ++ (report ++ [.exchange (.seed (outstandingOf clock q.rows)) (.error e)])))
        (.error e)
  | reseeded {clock : Readings} {asides report : List Happening} (quiet : Asides asides)
      (reports : Reports plan (undecodableOf q.rows) report)
      (storable : FailureQueue.Storable (outstandingOf clock q.rows)) :
      Reseeds plan q (.exchange .listAll (.ok q.rows) :: .exchange .wallClock clock ::
        (asides ++ (report ++ [.exchange (.seed (outstandingOf clock q.rows)) (.ok ()),
          .exchange (.observe (.depth (outstandingOf clock q.rows).length)) ()])))
        (.ok (outstandingOf clock q.rows).length)

/-- The name under which the end of a run is counted. -/
def endName : Except ServiceError RunOutcome → String
  | .ok outcome => outcome.name
  | .error _ => "error"

/-- A scheduled call that holds the guard. -/
inductive Schedules (plan : BillingPlan) (q : FailureQueue) :
    List Happening → Except Crash (Except ServiceError RunOutcome) → Prop where
  | broken {opening : List Happening} {reason : Crash} (seeds : Seeds opening (.error reason)) :
      Schedules plan q opening (.error reason)
  | unseeded {opening : List Happening} {e : ServiceError} (seeds : Seeds opening (.ok (.error e))) :
      Schedules plan q (opening ++ [.exchange (.observe (.run "error")) ()]) (.ok (.error e))
  | billed {opening run : List Happening} {submitted : Nat}
      {outcome : Except ServiceError RunOutcome} (seeds : Seeds opening (.ok (.ok submitted)))
      (bills : Bills plan submitted (q.afterAll opening) run outcome) :
      Schedules plan q (opening ++ (run ++ [.exchange (.observe (.run (endName outcome))) ()]))
        (.ok outcome)

/-- What a manual call returns after its run. -/
inductive Lists (q : FailureQueue) : RunOutcome → List Happening →
    Except ServiceError (List FailureRecord) → Prop where
  | remaining (attempts left : Nat) :
      Lists q (.escalated attempts left) [.exchange .listAll (.ok q.rows)] (.ok q.rows)
  | unlisted (attempts left : Nat) (e : ServiceError) :
      Lists q (.escalated attempts left) [.exchange .listAll (.error e)] (.error e)
  | nothing {outcome : RunOutcome} (settled : ∀ attempts left, outcome ≠ .escalated attempts left) :
      Lists q outcome [] (.ok [])

/-- A manual call that holds the guard. -/
inductive RetriesByHand (plan : BillingPlan) (q : FailureQueue) :
    List Happening → Except ServiceError (List FailureRecord) → Prop where
  | unseeded {opening : List Happening} {e : ServiceError}
      (reseeds : Reseeds plan q opening (.error e)) : RetriesByHand plan q opening (.error e)
  | failed {opening run : List Happening} {submitted : Nat} {e : ServiceError}
      (reseeds : Reseeds plan q opening (.ok submitted))
      (bills : Bills plan submitted (q.afterAll opening) run (.error e)) :
      RetriesByHand plan q (opening ++ (run ++ [.exchange (.observe (.run "error")) ()])) (.error e)
  | billed {opening run closing : List Happening} {submitted : Nat} {outcome : RunOutcome}
      {result : Except ServiceError (List FailureRecord)}
      (reseeds : Reseeds plan q opening (.ok submitted))
      (bills : Bills plan submitted (q.afterAll opening) run (.ok outcome))
      (lists : Lists ((q.afterAll opening).afterAll run) outcome closing result) :
      RetriesByHand plan q
        (opening ++ (run ++ .exchange (.observe (.run outcome.name)) () :: closing)) result

/-- A call under the guard: it finds the guard taken, or holds it throughout. -/
inductive Guards {ρ : Type} (Busy : List Happening → ρ → Prop)
    (Holds : FailureQueue → List Happening → ρ → Prop) (q : FailureQueue) :
    List Happening → ρ → Prop where
  | busy {others course : List Happening} {result : ρ} (arrivals : Arrivals others)
      (leaves : Busy course result) :
      Guards Busy Holds q (others ++ .exchange .takeGuard false :: course) result
  | held {others course : List Happening} {result : ρ} (arrivals : Arrivals others)
      (holds : Holds (q.afterAll others) course result) :
      Guards Busy Holds q
        (others ++ .exchange .takeGuard true :: (course ++ [.exchange .releaseGuard ()])) result

/-- A scheduled call that finds the guard taken. -/
def Skips (course : List Happening) (result : Except Crash (Except ServiceError RunOutcome)) : Prop :=
  course = [.exchange (.observe (.run RunOutcome.skipped.name)) ()] ∧ result = .ok (.ok .skipped)

/-- A manual call that finds the guard taken. -/
def Conflicts (course : List Happening) (result : Except ServiceError (List FailureRecord)) : Prop :=
  course = [] ∧ result = .error runInProgress

/-! ## Every call takes such a course -/

namespace Collaborators

variable {c : Collaborators} {past : Chronicle} {course : List Happening}

/-- The clock is read, or the call breaks down over it. -/
theorem Does.readClock {result : Except Crash Instant}
    (h : c.Does readClock past result course) :
    (result = .error .clock ∧ course = [.exchange .now none]) ∨
      ∃ now, result = .ok now ∧ course = [.exchange .now (some now)] := by
  rcases h.bind with ⟨_, -, broken⟩ | ⟨answer, _, _, rfl, asked, h⟩
  · exact broken.not_broken.elim
  obtain ⟨_, -, same, rfl⟩ := asked.settled rfl
  cases same
  cases answer with
  | none =>
    obtain ⟨rfl, rfl⟩ := does_crash.1 h
    exact .inl ⟨rfl, rfl⟩
  | some now =>
    obtain ⟨rfl, rfl⟩ := does_done.1 h
    exact .inr ⟨now, rfl, rfl⟩

theorem Does.orCrash {α : Type} {value : Except Crash α} {result : Except Crash α}
    (h : c.Does (orCrash value) past result course) : result = value ∧ course = [] := by
  cases value with
  | ok a => exact does_done.1 h
  | error reason => exact does_crash.1 h

/-- A scheduled call seeds the queue with records of the active instances, or ends before it can. -/
theorem Does.seedFromInstances {result : Except Crash (Except ServiceError Nat)}
    (h : c.Does seedFromInstances.run past result course) : Seeds course result := by
  unfold Billing.seedFromInstances at h
  rcases h.then with ⟨_, -, broken⟩ | ⟨e, rfl, refused⟩ | ⟨instances, _, _, rfl, listed, h⟩
  · exact broken.not_broken.elim
  · obtain ⟨_, -, same, rfl⟩ := refused.settled rfl
    cases same
    exact .unlisted e
  obtain ⟨_, -, same, rfl⟩ := listed.settled rfl
  cases same
  rcases h.alwaysThen with ⟨reason, rfl, broken⟩ | ⟨now, _, _, rfl, clock, h⟩
  · rcases broken.readClock with ⟨same, rfl⟩ | ⟨_, ended, -⟩
    · cases same
      exact .unclocked instances
    · cases ended
  obtain ⟨_, same, rfl⟩ := clock.readClock.resolve_left (by rintro ⟨ended, -⟩; cases ended)
  cases same
  rcases h.alwaysThen with ⟨_, -, broken⟩ | ⟨wall, _, _, rfl, shown, h⟩
  · exact broken.not_broken.elim
  obtain ⟨_, -, same, rfl⟩ := shown.settled rfl
  cases same
  rcases h.alwaysThen with ⟨reason, rfl, broken⟩ | ⟨failures, _, _, rfl, computed, h⟩
  · obtain ⟨scheduled, rfl⟩ := broken.orCrash
    exact .overflown scheduled.symm
  obtain ⟨scheduled, rfl⟩ := computed.orCrash
  rcases h.then with ⟨_, -, broken⟩ | ⟨e, rfl, refused⟩ | ⟨_, _, _, rfl, seeded, h⟩
  · exact broken.not_broken.elim
  · obtain ⟨_, -, same, rfl⟩ := refused.settled rfl
    cases same
    exact .unstored scheduled.symm e
  obtain ⟨_, genuine, same, rfl⟩ := seeded.settled rfl
  cases same
  obtain ⟨_, rfl, ended⟩ := h.observeThen
  obtain ⟨rfl, rfl⟩ := ended.pure
  exact .seeded scheduled.symm (reply_seed genuine)

/-- A run that comes to an outcome or an error is counted; one that breaks down is not. -/
theorem Does.counted {run : Billing RunOutcome} {result : Except Crash (Except ServiceError RunOutcome)}
    (h : c.Does (counted run).run past result course) :
    (∃ reason, result = .error reason ∧ c.Does run.run past (.error reason) course) ∨
    ∃ outcome first, result = .ok outcome ∧ c.Does run.run past (.ok outcome) first ∧
      course = first ++ [.exchange (.observe (.run (endName outcome))) ()] := by
  rcases h.bind with broken | ⟨outcome, first, rest, rfl, ran, h⟩
  · exact .inl broken
  have finish : finishRun outcome = Billing.observe (.run (endName outcome)) := by
    cases outcome <;> rfl
  rw [finish] at h
  rcases h.bind with ⟨_, -, broken⟩ | ⟨_, _, _, rfl, counted, h⟩
  · exact broken.not_broken.elim
  obtain ⟨-, rfl⟩ := counted.observe
  obtain ⟨rfl, rfl⟩ := does_done.1 h
  exact .inr ⟨outcome, first, rfl, ran, rfl⟩

/-- The guard is free and the body runs under it, or the call stands aside. -/
theorem Does.guarded {α : Type} {busy body : Billing α}
    {result : Except Crash (Except ServiceError α)}
    (h : c.Does (guarded busy body).run past result course) :
    ∃ others, Arrivals others ∧
      ((∃ rest, course = others ++ .exchange .takeGuard false :: rest ∧
        c.Does busy.run (past ++ (others ++ [.exchange .takeGuard false])) result rest) ∨
      ∃ rest, course = others ++ .exchange .takeGuard true :: (rest ++ [.exchange .releaseGuard ()]) ∧
        c.Does body.run (past ++ (others ++ [.exchange .takeGuard true])) result rest) := by
  rcases h.bind with ⟨_, -, broken⟩ | ⟨free, _, rest, rfl, taken, h⟩
  · exact broken.not_broken.elim
  obtain ⟨_, -, same, rfl⟩ := taken.request
  cases same
  refine ⟨c.meanwhile past .takeGuard, arrivals_meanwhile .takeGuard, ?_⟩
  cases free with
  | false => exact .inl ⟨rest, by simp, h⟩
  | true =>
    obtain ⟨body, _, does, rfl⟩ := Does.ensuring h
    exact .inr ⟨body, by simp [meanwhile_eq_nil (r := .releaseGuard) rfl], does⟩

/-- Taking the guard changes nothing about the queue; what arrived before is there. -/
theorem queueAt_guard (others : List Happening) (free : Bool) :
    c.queueAt (past ++ (others ++ [.exchange .takeGuard free])) =
      (c.queueAt past).afterAll others := by
  simp [FailureQueue.after]

/-- A scheduled call under the guard takes such a course. -/
theorem Does.schedules {plan : BillingPlan} {result : Except Crash (Except ServiceError RunOutcome)}
    (h : c.Does (Billing.counted do
      let seeded ← Billing.seedFromInstances
      Billing.attemptAndEscalate plan seeded).run past result course)
    (numbered : (c.queueAt past).Numbered) (unspent : (c.queueAt (past ++ course)).Unspent) :
    Schedules plan (c.queueAt past) course result := by
  rcases h.counted with ⟨reason, rfl, broken⟩ | ⟨outcome, run, rfl, ran, rfl⟩
  · rcases broken.then with ⟨_, same, seeded⟩ | ⟨_, ended, -⟩ | ⟨_, opening, run, rfl, seeded, billed⟩
    · cases same
      exact .broken seeded.seedFromInstances
    · cases ended
    · obtain ⟨_, ended, -⟩ := billed.attemptAndEscalate
        (queueAt_append ▸ numbered.afterAll opening) (by simpa using unspent)
      cases ended
  · rcases ran.then with ⟨_, ended, -⟩ | ⟨e, same, seeded⟩ | ⟨_, opening, run, rfl, seeded, billed⟩
    · cases ended
    · cases same
      exact .unseeded seeded.seedFromInstances
    · obtain ⟨_, same, bills⟩ := billed.attemptAndEscalate
        (queueAt_append ▸ numbered.afterAll opening)
        (by simpa using unspent_before unspent)
      cases same
      rw [List.append_assoc]
      exact .billed seeded.seedFromInstances (by simpa using bills)

/-- A scheduled call takes such a course. -/
theorem Does.runScheduled {plan : BillingPlan}
    {result : Except Crash (Except ServiceError RunOutcome)}
    (h : c.Does (runScheduled plan).run past result course) (numbered : (c.queueAt past).Numbered)
    (unspent : (c.queueAt (past ++ course)).Unspent) :
    Guards Skips (Schedules plan) (c.queueAt past) course result := by
  obtain ⟨others, arrivals, ⟨_, rfl, skipped⟩ | ⟨body, rfl, held⟩⟩ := h.guarded
  · obtain ⟨_, rfl, ended⟩ := skipped.observeThen
    obtain ⟨rfl, rfl⟩ := ended.pure
    exact .busy arrivals ⟨rfl, rfl⟩
  refine .held arrivals ?_
  have queue := @queueAt_guard c past others true
  rw [← queue]
  refine held.schedules (queue ▸ numbered.afterAll others) ?_
  have to_end : (c.queueAt (past ++ (others ++ [.exchange .takeGuard true]) ++
      (body ++ [.exchange .releaseGuard ()]))).Unspent := by simpa using unspent
  exact unspent_before to_end

/-- The first part of a manual call takes such a course. -/
theorem Does.reseeds {plan : BillingPlan} {next : Nat → Billing (List FailureRecord)}
    {result : Except Crash (Except ServiceError (List FailureRecord))}
    (h : c.Does (do
      let records ← Billing.listAll
      let clock ← Billing.always (Billing.ask .wallClock)
      let (failures, undecodable) := Billing.outstanding clock records
      Billing.always (Billing.reportUndecodable undecodable)
      if !undecodable.isEmpty then
        discard <| Billing.always (Billing.escalateUndecodable plan undecodable)
      Billing.seed failures
      Billing.always (Billing.observe (.depth failures.length))
      next failures.length : Billing (List FailureRecord)).run past result course) :
    (∃ e, result = .ok (.error e) ∧ Reseeds plan (c.queueAt past) course (.error e)) ∨
    ∃ submitted opening rest, course = opening ++ rest ∧
      Reseeds plan (c.queueAt past) opening (.ok submitted) ∧
      c.Does (next submitted).run (past ++ opening) result rest := by
  rcases h.then with ⟨_, -, broken⟩ | ⟨e, rfl, refused⟩ | ⟨rows, _, _, rfl, listed, h⟩
  · exact broken.not_broken.elim
  · obtain ⟨_, -, same, rfl⟩ := refused.settled rfl
    cases same
    exact .inl ⟨e, rfl, .unlisted e⟩
  obtain ⟨_, genuine, same, rfl⟩ := listed.settled rfl
  cases same
  obtain rfl := reply_listAll genuine
  rcases h.alwaysThen with ⟨_, -, broken⟩ | ⟨wall, _, _, rfl, shown, h⟩
  · exact broken.not_broken.elim
  obtain ⟨_, -, same, rfl⟩ := shown.settled rfl
  cases same
  simp only [outstanding_eq] at h
  rcases h.alwaysThen with ⟨_, -, broken⟩ | ⟨_, asides, _, rfl, reported, h⟩
  · cases broken.reportUndecodable.1
  have quiet := reported.reportUndecodable.2
  obtain ⟨report, _, rfl, reports, h⟩ := h.reporting
  rcases h.then with ⟨_, -, broken⟩ | ⟨e, rfl, refused⟩ | ⟨_, _, _, rfl, seeded, h⟩
  · exact broken.not_broken.elim
  · obtain ⟨_, -, same, rfl⟩ := refused.settled rfl
    cases same
    exact .inl ⟨e, rfl, .unstored quiet reports e⟩
  obtain ⟨_, served, same, rfl⟩ := seeded.settled rfl
  cases same
  obtain ⟨rest, rfl, continued⟩ := h.observeThen
  exact .inr ⟨_, _, rest, by simp, .reseeded quiet reports (reply_seed served),
    by simpa using continued⟩

/-- What a manual call returns after its run. -/
def remainingRows : RunOutcome → Billing (List FailureRecord)
  | .escalated .. => Billing.listAll
  | _ => return []

/-- After a run that does not stand aside the remaining rows are listed. -/
theorem Does.lists {outcome : RunOutcome}
    {result : Except Crash (Except ServiceError (List FailureRecord))}
    (h : c.Does (remainingRows outcome).run past result course) :
    ∃ answer, result = .ok answer ∧ Lists (c.queueAt past) outcome course answer := by
  cases outcome with
  | escalated attempts left =>
    obtain ⟨answer, genuine, rfl, rfl⟩ := Does.settled (r := .listAll) rfl h
    cases answer with
    | error e => exact ⟨_, rfl, .unlisted attempts left e⟩
    | ok rows =>
      obtain rfl := reply_listAll genuine
      exact ⟨_, rfl, .remaining attempts left⟩
  | succeeded attempts submitted =>
    obtain ⟨rfl, rfl⟩ := Does.pure h
    exact ⟨_, rfl, .nothing nofun⟩
  | skipped =>
    obtain ⟨rfl, rfl⟩ := Does.pure h
    exact ⟨_, rfl, .nothing nofun⟩

/-- A manual call takes such a course. -/
theorem Does.retryOutstanding {plan : BillingPlan}
    {result : Except Crash (Except ServiceError (List FailureRecord))}
    (h : c.Does (retryOutstanding plan).run past result course) (numbered : (c.queueAt past).Numbered)
    (unspent : (c.queueAt (past ++ course)).Unspent) :
    ∃ answer, result = .ok answer ∧
      Guards Conflicts (RetriesByHand plan) (c.queueAt past) course answer := by
  obtain ⟨others, arrivals, ⟨_, rfl, conflict⟩ | ⟨body, rfl, held⟩⟩ := h.guarded
  · obtain ⟨rfl, rfl⟩ := conflict.throw
    exact ⟨_, rfl, .busy arrivals ⟨rfl, rfl⟩⟩
  have queue := @queueAt_guard c past others true
  have numbered := queue ▸ numbered.afterAll others
  have to_end : (c.queueAt (past ++ (others ++ [.exchange .takeGuard true]) ++
      (body ++ [.exchange .releaseGuard ()]))).Unspent := by simpa using unspent
  have unspent := unspent_before to_end
  suffices ∃ answer, result = .ok answer ∧
      RetriesByHand plan (c.queueAt (past ++ (others ++ [.exchange .takeGuard true]))) body answer by
    obtain ⟨answer, rfl, holds⟩ := this
    exact ⟨answer, rfl, .held arrivals (queue ▸ holds)⟩
  have parts := @Does.reseeds c _ _ plan (fun submitted => do
    remainingRows (← Billing.counted (Billing.attemptAndEscalate plan submitted))) _ held
  obtain ⟨e, rfl, reseeds⟩ | ⟨submitted, opening, _, rfl, reseeds, h⟩ := parts
  · exact ⟨_, rfl, .unseeded reseeds⟩
  have numbered := numbered.afterAll opening
  rw [← queueAt_append] at numbered
  rcases h.then with ⟨_, -, broken⟩ | ⟨e, rfl, failed⟩ | ⟨outcome, _, closing, rfl, billed, h⟩
  · rcases broken.counted with ⟨_, -, broken⟩ | ⟨_, _, ended, -⟩
    · obtain ⟨_, ended, -⟩ := broken.attemptAndEscalate numbered (by simpa using unspent)
      cases ended
    · cases ended
  · rcases failed.counted with ⟨_, ended, -⟩ | ⟨_, run, same, ran, rfl⟩
    · cases ended
    cases same
    obtain ⟨_, same, bills⟩ := ran.attemptAndEscalate numbered
      (.of_afterAll [.exchange (.observe (.run "error")) ()] (by simpa [endName] using unspent))
    cases same
    exact ⟨_, rfl, .failed reseeds (by simpa using bills)⟩
  · rcases billed.counted with ⟨_, ended, -⟩ | ⟨_, run, same, ran, rfl⟩
    · cases ended
    cases same
    obtain ⟨_, same, bills⟩ := ran.attemptAndEscalate numbered
      (.of_afterAll (.exchange (.observe (.run outcome.name)) () :: closing)
        (by simpa [endName] using unspent))
    cases same
    obtain ⟨answer, rfl, lists⟩ := Does.lists h
    refine ⟨answer, rfl, ?_⟩
    rw [List.append_assoc]
    exact .billed reseeds (by simpa using bills) (by simpa [FailureQueue.after] using lists)

end Collaborators

end UsageBilling
