import UsageBilling.Proofs.Courses.Pass

/-!
# The course of the attempts

An attempt takes a token, passes over the queue, reports the rows that cannot
be read, and refills the queue with what is still failing. Attempts follow one
another, a wait in between, until nothing is left to retry or the policy's
attempts are used up; what remains then is escalated.
-/

namespace UsageBilling

/-! ## Courses -/

/-- Rows that others append. -/
def Arrivals (course : List Happening) : Prop :=
  ∀ h ∈ course, ∃ payload message now, h = .arrival payload message now

/-- A summary is dispatched, and counted as sent or failed. -/
inductive Dispatches (summary : Summary) : List Happening → Prop where
  | sent : Dispatches summary
      [.exchange (.notify .main summary) (.ok ()), .exchange (.observe (.escalation "sent")) ()]
  | failed (e : ServiceError) : Dispatches summary
      [.exchange (.notify .main summary) (.error e),
        .exchange (.observe (.escalation "failed")) ()]

/-- Rows that cannot be read are reported, if there are any. -/
inductive Reports (plan : BillingPlan) : List FailureRecord → List Happening → Prop where
  | nothing : Reports plan [] []
  | told {rows : List FailureRecord} {course : List Happening} (some_left : rows ≠ [])
      (dispatches : Dispatches (.ofUndecodable plan.product rows) course) : Reports plan rows course

/-- The queue is refilled with what is still failing, or emptied if that is nothing. -/
inductive Refills : List UsageFailure → List Happening →
    Except ServiceError (Attempt (List UsageFailure)) → Prop where
  | cleared : Refills []
      [.exchange .clear (.ok ()), .exchange (.observe (.depth 0)) ()] (.ok .success)
  | uncleared (e : ServiceError) : Refills [] [.exchange .clear (.error e)] (.error e)
  | refilled {failures : List UsageFailure} (some_left : failures ≠ [])
      (storable : FailureQueue.Storable failures) : Refills failures
      [.exchange (.seed failures) (.ok ()), .exchange (.observe (.depth failures.length)) ()]
      (.ok (.retryable failures))
  | unfilled {failures : List UsageFailure} (some_left : failures ≠ []) (e : ServiceError) :
      Refills failures [.exchange (.seed failures) (.error e)] (.error e)

/-- One attempt to bill the queue `q`. -/
inductive Tries (plan : BillingPlan) (q : FailureQueue) : List Happening →
    Except ServiceError (Attempt (List UsageFailure)) → Prop where
  | tokenless {others : List Happening} (arrivals : Arrivals others) (e : ServiceError) :
      Tries plan q (others ++ [.exchange .token (.error e), .exchange (.observe (.error "token")) ()])
        (.error e)
  | broken {others pass : List Happening} {token : String} {e : ServiceError}
      (arrivals : Arrivals others)
      (passes : Passes token (max plan.batchSize 1) (q.afterAll others).rows pass (.error e)) :
      Tries plan q (others ++ .exchange .token (.ok token) :: pass) (.error e)
  | passed {others pass report refill : List Happening} {token : String} {found : Billing.Pass}
      {result : Except ServiceError (Attempt (List UsageFailure))} (arrivals : Arrivals others)
      (passes : Passes token (max plan.batchSize 1) (q.afterAll others).rows pass (.ok found))
      (reports : Reports plan found.undecodable report)
      (refills : Refills found.failures refill result) :
      Tries plan q (others ++ .exchange .token (.ok token) :: (pass ++ (report ++ refill))) result

/-- Attempt `number` to bill the queue `q`, with up to `more` to follow. -/
inductive Retries (plan : BillingPlan) : (more number : Nat) → FailureQueue → List Happening →
    Except ServiceError (RetryOutcome (List UsageFailure)) → Prop where
  | failed {more number : Nat} {q : FailureQueue} {course : List Happening} {e : ServiceError}
      (tries : Tries plan q course (.error e)) : Retries plan more number q course (.error e)
  | succeeded {more number : Nat} {q : FailureQueue} {course : List Happening}
      (tries : Tries plan q course (.ok .success)) :
      Retries plan more number q course (.ok (.succeeded number))
  | exhausted {number : Nat} {q : FailureQueue} {course : List Happening}
      {left : List UsageFailure} (tries : Tries plan q course (.ok (.retryable left))) :
      Retries plan 0 number q course (.ok (.exhausted number left))
  | again {more number : Nat} {q : FailureQueue} {first rest : List Happening}
      {left : List UsageFailure} {result : Except ServiceError (RetryOutcome (List UsageFailure))}
      (tries : Tries plan q first (.ok (.retryable left)))
      (retries : Retries plan more (number + 1) (q.afterAll first) rest result) :
      Retries plan (more + 1) number q
        (first ++ .exchange (.wait plan.retry.backoff) () :: rest) result

/-- The attempts at `submitted` records in the queue `q`, and the escalation of what remains. -/
inductive Bills (plan : BillingPlan) (submitted : Nat) (q : FailureQueue) : List Happening →
    Except ServiceError RunOutcome → Prop where
  | failed {course : List Happening} {e : ServiceError}
      (retries : Retries plan (max plan.retry.maxAttempts 1 - 1) 1 q course (.error e)) :
      Bills plan submitted q course (.error e)
  | succeeded {course : List Happening} {attempts : Nat}
      (retries : Retries plan (max plan.retry.maxAttempts 1 - 1) 1 q course
        (.ok (.succeeded attempts))) :
      Bills plan submitted q course (.ok (.succeeded attempts submitted))
  | escalated {course escalation : List Happening} {attempts : Nat} {left : List UsageFailure}
      (retries : Retries plan (max plan.retry.maxAttempts 1 - 1) 1 q course
        (.ok (.exhausted attempts left)))
      (dispatches : Dispatches (.ofFailures plan.product left) escalation) :
      Bills plan submitted q (course ++ escalation) (.ok (.escalated attempts left.length))

/-- What no appended row shows is not found where rows are appended. -/
theorem Arrivals.filterMap_eq_nil {β : Type} {others : List Happening} (h : Arrivals others)
    {f : Happening → Option β} (unseen : ∀ payload message now, f (.arrival payload message now) = none) :
    others.filterMap f = [] := by
  refine List.filterMap_eq_nil_iff.2 fun happening member => ?_
  obtain ⟨payload, message, now, rfl⟩ := h happening member
  exact unseen payload message now

theorem Dispatches.afterAll {summary : Summary} {course : List Happening}
    (h : Dispatches summary course) (q : FailureQueue) : q.afterAll course = q := by
  cases h <;> rfl

theorem Reports.afterAll {plan : BillingPlan} {rows : List FailureRecord} {course : List Happening}
    (h : Reports plan rows course) (q : FailureQueue) : q.afterAll course = q := by
  cases h with
  | nothing => rfl
  | told _ dispatches => exact dispatches.afterAll q

/-! ## Ids left -/

/-- The ids of the queue have not run out. -/
def FailureQueue.Unspent (q : FailureQueue) : Prop :=
  q.lastId ≤ Int64.maxValue.toInt

/-- If ids are left at the end of a course, they were left at its beginning. -/
theorem FailureQueue.Unspent.of_afterAll {q : FailureQueue} (course : List Happening)
    (h : (q.afterAll course).Unspent) : q.Unspent :=
  Int.le_trans (q.lastId_le_afterAll course) h

/-- A pass can fetch all rows. -/
theorem FailureQueue.Numbered.length_lt_pageBound {q : FailureQueue} (h : q.Numbered)
    (unspent : q.Unspent) : q.rows.length < Billing.pageBound := by
  have rows := h.length_le
  have ids : q.lastId ≤ 9223372036854775807 := unspent
  show q.rows.length < 18446744073709551616
  omega

/-! ## Every run takes such a course -/

namespace Collaborators

open Billing

variable {c : Collaborators} {past : Chronicle} {course : List Happening}

theorem unspent_before {first second : List Happening}
    (h : (c.queueAt (past ++ (first ++ second))).Unspent) : (c.queueAt (past ++ first)).Unspent :=
  .of_afterAll second (by simpa using h)

/-- What others do at a pause is to append rows. -/
theorem arrivals_meanwhile (r : Request) : Arrivals (c.meanwhile past r) := by
  intro _ member
  obtain ⟨payload, message, now, rfl, -⟩ := mem_meanwhile member
  exact ⟨payload, message, now, rfl⟩

theorem Does.discardThen {α β : Type} {p : Action α} {f : Unit → Billing β}
    {result : Except Crash (Except ServiceError β)}
    (h : c.Does (discard (Billing.always p) >>= f).run past result course) :
    c.Does (Billing.always p >>= fun _ => f ()).run past result course := by
  have same : (discard (Billing.always p) >>= f) = (Billing.always p >>= fun _ => f ()) := by
    simp [discard, Functor.discard, LawfulFunctor.map_const]
  rwa [same] at h

/-- Dispatching a summary cannot fail, and takes one of the two courses. -/
theorem Does.dispatch {summary : Summary} {result : Except Crash Bool}
    (h : c.Does (dispatch summary) past result course) :
    (∃ sent, result = .ok sent) ∧ Dispatches summary course := by
  rcases h.bind with ⟨_, -, broken⟩ | ⟨answer, first, _, rfl, notified, h⟩
  · exact broken.not_broken.elim
  obtain ⟨_, -, same, rfl⟩ := notified.settled rfl
  cases same
  cases answer with
  | ok _ =>
    rcases h.bind with ⟨_, -, broken⟩ | ⟨_, _, _, rfl, counted, h⟩
    · exact broken.not_broken.elim
    obtain ⟨-, rfl⟩ := counted.observe
    obtain ⟨rfl, rfl⟩ := does_done.1 h
    exact ⟨⟨true, rfl⟩, .sent⟩
  | error e =>
    rcases h.bind with ⟨_, -, broken⟩ | ⟨_, _, _, rfl, counted, h⟩
    · exact broken.not_broken.elim
    obtain ⟨-, rfl⟩ := counted.observe
    obtain ⟨rfl, rfl⟩ := does_done.1 h
    exact ⟨⟨false, rfl⟩, .failed e⟩

/-- Rows that cannot be read are reported, if there are any, before the program goes on. -/
theorem Does.reporting {β : Type} {plan : BillingPlan} {rows : List FailureRecord}
    {next : Unit → Billing β} {result : Except Crash (Except ServiceError β)}
    (h : c.Does (if (!rows.isEmpty) = true then
      discard (Billing.always (escalateUndecodable plan rows)) >>= next else next ()).run past result course) :
    ∃ report rest, course = report ++ rest ∧ Reports plan rows report ∧
      c.Does (next ()).run (past ++ report) result rest := by
  split at h
  next some_left =>
    rcases h.discardThen.alwaysThen with ⟨_, -, broken⟩ | ⟨_, report, rest, rfl, told, h⟩
    · obtain ⟨_, ended⟩ := broken.dispatch.1
      cases ended
    · exact ⟨report, rest, rfl, .told (by simpa using some_left) told.dispatch.2, h⟩
  next nothing =>
    have empty : rows = [] := by simpa using nothing
    exact ⟨[], course, rfl, empty ▸ .nothing, by simpa using h⟩

/-- A token is given, or its refusal is counted. -/
theorem Does.attemptToken {result : Except Crash (Except ServiceError String)}
    (h : c.Does attemptToken.run past result course) :
    (∃ token others, Arrivals others ∧ result = .ok (.ok token) ∧
      course = others ++ [.exchange .token (.ok token)]) ∨
    ∃ e others, Arrivals others ∧ result = .ok (.error e) ∧
      course = others ++ [.exchange .token (.error e), .exchange (.observe (.error "token")) ()] := by
  rcases h.bind with ⟨_, -, broken⟩ | ⟨answer, first, _, rfl, answered, h⟩
  · exact broken.not_broken.elim
  obtain ⟨_, -, same, rfl⟩ := answered.request
  cases same
  cases answer with
  | ok token =>
    obtain ⟨rfl, rfl⟩ := does_done.1 h
    exact .inl ⟨token, _, arrivals_meanwhile _, rfl, List.append_nil _⟩
  | error e =>
    rcases h.bind with ⟨_, -, broken⟩ | ⟨_, _, _, rfl, counted, h⟩
    · exact broken.not_broken.elim
    obtain ⟨-, rfl⟩ := counted.observe
    obtain ⟨rfl, rfl⟩ := does_done.1 h
    exact .inr ⟨e, _, arrivals_meanwhile _, rfl, List.append_assoc _ _ _⟩

/-- The end of an attempt. -/
theorem Does.refill {failures : List UsageFailure}
    {result : Except Crash (Except ServiceError (Attempt (List UsageFailure)))}
    (h : c.Does (if failures.isEmpty = true then do
        Billing.clear
        Billing.always (Billing.observe (.depth 0))
        return .success
      else do
        Billing.seed failures
        Billing.always (Billing.observe (.depth failures.length))
        return .retryable failures : Billing (Attempt (List UsageFailure))).run past result course) :
    ∃ answer, result = .ok answer ∧ Refills failures course answer := by
  split at h
  next nothing =>
    obtain rfl := List.isEmpty_iff.1 nothing
    rcases h.then with ⟨_, -, broken⟩ | ⟨e, rfl, refused⟩ | ⟨_, _, _, rfl, cleared, h⟩
    · exact broken.not_broken.elim
    · obtain ⟨_, -, same, rfl⟩ := refused.settled rfl
      cases same
      exact ⟨_, rfl, .uncleared e⟩
    obtain ⟨_, -, same, rfl⟩ := cleared.settled rfl
    cases same
    obtain ⟨_, rfl, ended⟩ := h.observeThen
    obtain ⟨rfl, rfl⟩ := ended.pure
    exact ⟨_, rfl, .cleared⟩
  next nonempty =>
    have some_left : failures ≠ [] := by simpa using nonempty
    rcases h.then with ⟨_, -, broken⟩ | ⟨e, rfl, refused⟩ | ⟨_, _, _, rfl, seeded, h⟩
    · exact broken.not_broken.elim
    · obtain ⟨_, -, same, rfl⟩ := refused.settled rfl
      cases same
      exact ⟨_, rfl, .unfilled some_left e⟩
    obtain ⟨_, genuine, same, rfl⟩ := seeded.settled rfl
    cases same
    obtain ⟨_, rfl, ended⟩ := h.observeThen
    obtain ⟨rfl, rfl⟩ := ended.pure
    exact ⟨_, rfl, .refilled some_left (reply_seed genuine)⟩

/-- Every attempt on a queue with ids left takes such a course. -/
theorem Does.attempt {plan : BillingPlan} {number : Nat}
    {result : Except Crash (Except ServiceError (Attempt (List UsageFailure)))}
    (h : c.Does (attempt plan number).run past result course)
    (numbered : (c.queueAt past).Numbered) (unspent : (c.queueAt (past ++ course)).Unspent) :
    ∃ answer, result = .ok answer ∧ Tries plan (c.queueAt past) course answer := by
  unfold Billing.attempt at h
  rcases h.then with ⟨_, -, broken⟩ | ⟨e, rfl, refused⟩ | ⟨token, _, rest, rfl, answered, h⟩
  · rcases broken.attemptToken with ⟨_, _, -, ended, -⟩ | ⟨_, _, -, ended, -⟩ <;> cases ended
  · rcases refused.attemptToken with ⟨_, _, -, ended, -⟩ | ⟨_, others, arrivals, ended, rfl⟩ <;>
      cases ended
    exact ⟨_, rfl, .tokenless arrivals e⟩
  obtain ⟨_, others, arrivals, same, rfl⟩ := answered.attemptToken.resolve_right
    (by rintro ⟨_, _, -, ended, -⟩; cases ended)
  cases same
  have queue : c.queueAt (past ++ (others ++ [.exchange .token (.ok token)])) =
      (c.queueAt past).afterAll others := by
    simp [FailureQueue.after]
  have all_rows : ((c.queueAt past).afterAll others).rows.length < pageBound := by
    refine (numbered.afterAll others).length_lt_pageBound (.of_afterAll rest ?_)
    rw [← queue, ← queueAt_append, List.append_assoc]
    exact unspent
  have pass {result : Except Crash (Except ServiceError Pass)} {course : List Happening}
      (h : c.Does (Billing.passOver token pageBound (Scan.start plan.batchSize) {}).run
        (past ++ (others ++ [.exchange .token (.ok token)])) result course) :
      ∃ found, result = .ok found ∧ Passes token (max plan.batchSize 1)
        ((c.queueAt past).afterAll others).rows course found := by
    have unread : (c.queueAt (past ++ (others ++ [.exchange .token (.ok token)]))).rows =
        [] ++ ((c.queueAt past).afterAll others).rows := by
      rw [queue]
      rfl
    obtain ⟨found, rfl, passes⟩ := h.passOver (queue ▸ numbered.afterAll others) unread (by omega)
      (Scan.start_stands _ _) all_rows
    refine ⟨_, rfl, ?_⟩
    cases found <;> simpa [Except.map, Pass.plus] using passes
  rcases h.then with ⟨_, -, broken⟩ | ⟨e, rfl, failed⟩ | ⟨found, _, _, rfl, passed, h⟩
  · obtain ⟨_, ended, -⟩ := pass broken
    cases ended
  · obtain ⟨_, same, passes⟩ := pass failed
    cases same
    exact ⟨_, rfl, by simpa using Tries.broken arrivals passes⟩
  obtain ⟨_, same, passes⟩ := pass passed
  cases same
  obtain ⟨report, _, rfl, reports, h⟩ := h.reporting
  obtain ⟨answer, rfl, refills⟩ := h.refill
  exact ⟨answer, rfl, by simpa using Tries.passed arrivals passes reports refills⟩

/-- The attempts take such a course, however often they are made. -/
theorem Does.retries {plan : BillingPlan} {more number : Nat}
    {result : Except Crash (Except ServiceError (RetryOutcome (List UsageFailure)))}
    (h : c.Does (RetryPolicy.attemptsFrom (m := Program surroundings)
      (Billing.ask (.wait plan.retry.backoff)) (fun n => (Billing.attempt plan n).run) more number)
      past result course)
    (numbered : (c.queueAt past).Numbered) (unspent : (c.queueAt (past ++ course)).Unspent) :
    ∃ answer, result = .ok answer ∧ Retries plan more number (c.queueAt past) course answer := by
  induction more generalizing past course number with
  | zero =>
    rw [RetryPolicy.attemptsFrom] at h
    rcases h.bind with ⟨_, -, broken⟩ | ⟨answer, first, rest, rfl, tried, h⟩
    · obtain ⟨_, ended, -⟩ := broken.attempt numbered unspent
      cases ended
    have left : (c.queueAt (past ++ first)).Unspent := unspent_before unspent
    obtain ⟨_, same, tries⟩ := tried.attempt numbered left
    cases same
    cases answer with
    | error e =>
      obtain ⟨rfl, rfl⟩ := does_done.1 h
      exact ⟨_, rfl, by simpa using .failed tries⟩
    | ok outcome =>
      cases outcome <;> obtain ⟨rfl, rfl⟩ := does_done.1 h
      · exact ⟨_, rfl, by simpa using .succeeded tries⟩
      · exact ⟨_, rfl, by simpa using .exhausted tries⟩
  | succ more ih =>
    rw [RetryPolicy.attemptsFrom] at h
    rcases h.bind with ⟨_, -, broken⟩ | ⟨answer, first, rest, rfl, tried, h⟩
    · obtain ⟨_, ended, -⟩ := broken.attempt numbered unspent
      cases ended
    have left : (c.queueAt (past ++ first)).Unspent := unspent_before unspent
    obtain ⟨_, same, tries⟩ := tried.attempt numbered left
    cases same
    cases answer with
    | error e =>
      obtain ⟨rfl, rfl⟩ := does_done.1 h
      exact ⟨_, rfl, by simpa using .failed tries⟩
    | ok outcome =>
      cases outcome with
      | success =>
        obtain ⟨rfl, rfl⟩ := does_done.1 h
        exact ⟨_, rfl, by simpa using .succeeded tries⟩
      | retryable last =>
        rcases h.bind with ⟨_, -, broken⟩ | ⟨_, _, others, rfl, waited, h⟩
        · exact broken.not_broken.elim
        obtain ⟨_, -, -, rfl⟩ := waited.settled rfl
        have queue : c.queueAt (past ++ first ++ [.exchange (.wait plan.retry.backoff) ()]) =
            (c.queueAt past).afterAll first := by
          simp [FailureQueue.after]
        obtain ⟨answer, rfl, retries⟩ := ih h (queue ▸ numbered.afterAll first)
          (by simpa using unspent)
        exact ⟨answer, rfl, .again tries (queue ▸ retries)⟩

/-- A run on a queue with ids left takes such a course. -/
theorem Does.attemptAndEscalate {plan : BillingPlan} {submitted : Nat}
    {result : Except Crash (Except ServiceError RunOutcome)}
    (h : c.Does (attemptAndEscalate plan submitted).run past result course)
    (numbered : (c.queueAt past).Numbered) (unspent : (c.queueAt (past ++ course)).Unspent) :
    ∃ answer, result = .ok answer ∧ Bills plan submitted (c.queueAt past) course answer := by
  rcases h.then with ⟨_, -, broken⟩ | ⟨e, rfl, failed⟩ | ⟨outcome, first, rest, rfl, retried, h⟩
  · obtain ⟨_, ended, -⟩ := Does.retries broken numbered unspent
    cases ended
  · obtain ⟨_, same, retries⟩ := Does.retries failed numbered unspent
    cases same
    exact ⟨_, rfl, .failed retries⟩
  have left : (c.queueAt (past ++ first)).Unspent := unspent_before unspent
  obtain ⟨_, same, retries⟩ := Does.retries retried numbered left
  cases same
  cases outcome with
  | succeeded attempts =>
    obtain ⟨rfl, rfl⟩ := h.pure
    exact ⟨_, rfl, by simpa using .succeeded retries⟩
  | exhausted attempts last =>
    rcases h.discardThen.alwaysThen with ⟨_, -, broken⟩ | ⟨_, escalation, _, rfl, told, h⟩
    · obtain ⟨_, ended⟩ := broken.dispatch.1
      cases ended
    obtain ⟨rfl, rfl⟩ := h.pure
    exact ⟨_, rfl, by simpa using .escalated retries told.dispatch.2⟩

end Collaborators

end UsageBilling
