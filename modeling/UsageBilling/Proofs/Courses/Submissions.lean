import UsageBilling.Proofs.Courses.Run

/-!
# What a course submits

The batches that are submitted in a course, each with its answer, and the
tokens that are asked for. A pass that comes to its end has submitted every
usage record of its rows that can be read, in order, batch by batch.
-/

namespace UsageBilling

open Billing

/-- A batch and what the metering API answered. -/
abbrev Submitted := List UsagePayload × Except ServiceError (List UsageFailure)

/-- The batch that is submitted in this happening. -/
def Happening.submitted? : Happening → Option Submitted
  | .exchange (.submit _ batch) answer => some (batch, answer)
  | _ => none

/-- A token is asked for. -/
def Happening.isToken : Happening → Bool
  | .exchange .token _ => true
  | _ => false

/-- No token, no submission and no write to the queue. -/
def Happening.IsPassive (h : Happening) : Prop :=
  h.isToken = false ∧ h.submitted? = none ∧ ¬ h.IsWrite

/-- What the submissions came back with. -/
def returnedFrom (sent : List Submitted) : List UsageFailure :=
  sent.flatMap fun s => s.2.toOption.getD []

/-- The batches of a course with their answers. -/
def submittedIn (course : List Happening) : List Submitted :=
  course.filterMap (·.submitted?)

/-- The batches of a course. -/
def batchesIn (course : List Happening) : List (List UsagePayload) :=
  (submittedIn course).map (·.1)

/-- The failures that the batches of a course came back with. -/
def returnedIn (course : List Happening) : List UsageFailure :=
  returnedFrom (submittedIn course)

/-- How many tokens are asked for in a course. -/
def tokensIn (course : List Happening) : Nat :=
  course.countP (·.isToken)

/-- Passive happenings only. -/
def Passive (course : List Happening) : Prop :=
  ∀ h ∈ course, h.IsPassive

section Projections

variable {first second course : List Happening}

@[simp] theorem submittedIn_nil : submittedIn [] = [] := rfl

@[simp] theorem submittedIn_append :
    submittedIn (first ++ second) = submittedIn first ++ submittedIn second :=
  List.filterMap_append

theorem submittedIn_cons_of_none {h : Happening} (unsent : h.submitted? = none) :
    submittedIn (h :: course) = submittedIn course :=
  List.filterMap_cons_none unsent

/-- Only a submission shows a batch. -/
theorem exists_submit_of_submitted {h : Happening} {s : Submitted} (sent : h.submitted? = some s) :
    ∃ token batch answer, h = .exchange (.submit token batch) answer := by
  unfold Happening.submitted? at sent
  split at sent
  · exact ⟨_, _, _, rfl⟩
  · cases sent

@[simp] theorem batchesIn_append : batchesIn (first ++ second) = batchesIn first ++ batchesIn second := by
  simp [batchesIn]

@[simp] theorem returnedIn_append :
    returnedIn (first ++ second) = returnedIn first ++ returnedIn second := by
  simp [returnedIn, returnedFrom]

@[simp] theorem tokensIn_append : tokensIn (first ++ second) = tokensIn first + tokensIn second :=
  List.countP_append

theorem tokensIn_cons_token (answer : Except ServiceError String) :
    tokensIn (.exchange .token answer :: course) = tokensIn course + 1 :=
  List.countP_cons_of_pos rfl

theorem Passive.append (h : Passive first) (h' : Passive second) : Passive (first ++ second) := by
  intro happening member
  rcases List.mem_append.1 member with member | member
  · exact h happening member
  · exact h' happening member

theorem Passive.nil : Passive [] :=
  List.forall_mem_nil _

theorem Passive.cons {h : Happening} (passive : h.IsPassive) (rest : Passive course) :
    Passive (h :: course) :=
  List.forall_mem_cons.2 ⟨passive, rest⟩

/-- Passive happenings leave the queue unwritten. -/
theorem Passive.unwritten (h : Passive course) : ∀ happening ∈ course, ¬ happening.IsWrite :=
  fun happening member => (h happening member).2.2

/-- Nothing is submitted in passive happenings. -/
theorem Passive.submittedIn (h : Passive course) : submittedIn course = [] :=
  List.filterMap_eq_nil_iff.2 fun happening member => (h happening member).2.1

theorem Passive.batchesIn (h : Passive course) : batchesIn course = [] := by
  rw [UsageBilling.batchesIn, h.submittedIn, List.map_nil]

theorem Passive.returnedIn (h : Passive course) : returnedIn course = [] := by
  rw [UsageBilling.returnedIn, h.submittedIn]
  rfl

theorem Passive.tokensIn (h : Passive course) : tokensIn course = 0 :=
  List.countP_eq_zero.2 fun happening member => by simp [(h happening member).1]

end Projections

/-! ## Passive courses -/

theorem Asides.passive {course : List Happening} (h : Asides course) : Passive course := by
  intro happening member
  have aside := h happening member
  unfold Happening.IsAside at aside
  split at aside
  · exact ⟨rfl, rfl, nofun⟩
  · exact ⟨rfl, rfl, nofun⟩
  · cases aside

/-- Rows that others append are passive: they are no write of the call. -/
theorem Arrivals.passive {course : List Happening} (h : Arrivals course) : Passive course := by
  intro happening member
  obtain ⟨_, _, _, rfl⟩ := h happening member
  exact ⟨rfl, rfl, nofun⟩

theorem Dispatches.passive {summary : Summary} {course : List Happening}
    (h : Dispatches summary course) : Passive course := by
  cases h <;> exact .cons ⟨rfl, rfl, id⟩ (.cons ⟨rfl, rfl, id⟩ .nil)

theorem Reports.passive {plan : BillingPlan} {rows : List FailureRecord} {course : List Happening}
    (h : Reports plan rows course) : Passive course := by
  cases h with
  | nothing => nofun
  | told _ dispatches => exact dispatches.passive

/-! ## Submissions of a pass -/

/-- A batch is submitted as it is, unless it is empty. -/
theorem Submits.batchesIn {token : String} {payloads : List UsagePayload} {course : List Happening}
    {result : Except ServiceError (List UsageFailure)} (h : Submits token payloads course result) :
    batchesIn course = [payloads].filter (· ≠ []) := by
  cases h with
  | nothing => rfl
  | batch some_left => simp [UsageBilling.batchesIn, submittedIn, Happening.submitted?, some_left]

/-- What a submission comes back with is what its course came back with. -/
theorem Submits.returnedIn {token : String} {payloads : List UsagePayload} {course : List Happening}
    {failures : List UsageFailure} (h : Submits token payloads course (.ok failures)) :
    returnedIn course = failures := by
  cases h with
  | nothing => rfl
  | batch =>
    simp [UsageBilling.returnedIn, returnedFrom, submittedIn, Happening.submitted?, Except.toOption]

theorem Submits.tokensIn {token : String} {payloads : List UsagePayload} {course : List Happening}
    {result : Except ServiceError (List UsageFailure)} (h : Submits token payloads course result) :
    tokensIn course = 0 := by
  cases h <;> rfl

/-- A submission that comes back with failures was answered. -/
theorem Submits.answered {token : String} {payloads : List UsagePayload} {course : List Happening}
    {failures : List UsageFailure} (h : Submits token payloads course (.ok failures)) :
    ∀ s ∈ submittedIn course, ∃ failures, s.2 = .ok failures := by
  cases h with
  | nothing => nofun
  | batch => simp [submittedIn, Happening.submitted?]

namespace Passes

variable {token : String} {limit : Nat} {rows : List FailureRecord} {course : List Happening}

theorem tokensIn {result : Except ServiceError Pass} (h : Passes token limit rows course result) :
    tokensIn course = 0 := by
  induction h with
  | finished quiet => exact quiet.passive.tokensIn
  | unread => rfl
  | refused _ quiet submits => simp [quiet.passive.tokensIn, submits.tokensIn]
  | page _ quiet submits _ ih => simp [quiet.passive.tokensIn, submits.tokensIn, ih]

/-- A pass to the end submits all rows that can be read, in order, batch by batch. -/
theorem batchesIn (positive : 0 < limit) {result : Except ServiceError Pass} {found : Pass}
    (h : Passes token limit rows course result) (ended : result = .ok found) :
    batchesIn course = ((inBatches limit rows).map payloadsOf).filter (· ≠ []) := by
  induction h generalizing found with
  | finished quiet => simp [quiet.passive.batchesIn]
  | unread => cases ended
  | refused => cases ended
  | @page rows asides sent rest failures result some_left quiet submits _ ih =>
    cases result with
    | error e => cases ended
    | ok others =>
      rw [inBatches_of_ne_nil some_left, Nat.max_eq_left positive, List.map_cons,
        ← List.singleton_append, List.filter_append, batchesIn_append, batchesIn_append,
        quiet.passive.batchesIn, submits.batchesIn, ih rfl, List.nil_append]

/-- All in all, a pass to the end submits the usage records that can be read. -/
theorem flatten_batchesIn (positive : 0 < limit) {found : Pass}
    (h : Passes token limit rows course (.ok found)) :
    (UsageBilling.batchesIn course).flatten = payloadsOf rows := by
  rw [h.batchesIn positive rfl, flatten_payloadsOf_inBatches]

/-- What a pass to the end has found: what its batches came back with, and the rows that cannot
be read. -/
theorem found_eq {result : Except ServiceError Pass} {found : Pass}
    (h : Passes token limit rows course result) (ended : result = .ok found) :
    found = ⟨returnedIn course, undecodableOf rows⟩ := by
  induction h generalizing found with
  | finished quiet =>
    cases ended
    rw [quiet.passive.returnedIn]
    rfl
  | unread => cases ended
  | refused => cases ended
  | @page rows asides sent rest failures result some_left quiet submits _ ih =>
    cases result with
    | error e => cases ended
    | ok others =>
      cases ended
      rw [ih rfl, returnedIn_append, returnedIn_append, quiet.passive.returnedIn,
        submits.returnedIn, List.nil_append, Pass.plus, undecodableOf, undecodableOf,
        ← List.filter_append, List.take_append_drop, undecodableOf]

/-- Every batch of a pass to the end was answered. -/
theorem answered {result : Except ServiceError Pass} {found : Pass}
    (h : Passes token limit rows course result) (ended : result = .ok found) :
    ∀ s ∈ submittedIn course, ∃ failures, s.2 = .ok failures := by
  induction h generalizing found with
  | finished quiet => simp [quiet.passive.submittedIn]
  | unread => cases ended
  | refused => cases ended
  | @page _ asides sent rest failures result _ quiet submits _ ih =>
    cases result with
    | error e => cases ended
    | ok others =>
      rw [submittedIn_append, submittedIn_append, quiet.passive.submittedIn, List.nil_append]
      exact List.forall_mem_append.2 ⟨submits.answered, ih rfl⟩

end Passes

/-! ## Submissions of an attempt -/

/-- Nothing arrives in a course that nobody else disturbs. -/
theorem Arrivals.eq_nil {others rest : List Happening} (h : Arrivals others)
    (alone : Undisturbed (others ++ rest)) : others = [] := by
  cases others with
  | nil => rfl
  | cons happening others =>
    obtain ⟨payload, message, now, rfl⟩ := h happening List.mem_cons_self
    exact (alone payload message now (by simp)).elim

/-- What an attempt does: it asks for one token, submits what the queue holds batch by batch, and
leaves exactly what came back. -/
structure BillsQueue (plan : BillingPlan) (q : FailureQueue) (course : List Happening) : Prop where
  token : tokensIn course = 1
  submitted : batchesIn course =
    ((inBatches plan.batchSize q.rows).map payloadsOf).filter (· ≠ [])
  left : (q.afterAll course).Holds (returnedIn course)

/-- How an attempt ends that leaves these failures. -/
def Attempt.leaving (left : List UsageFailure) : Attempt (List UsageFailure) :=
  if left = [] then .success else .retryable left

/-- An attempt succeeds if it leaves nothing. -/
theorem Attempt.success_eq_leaving {left : List UsageFailure} : success = leaving left ↔ left = [] := by
  unfold leaving
  split <;> simp_all

theorem Attempt.retryable_eq_leaving {last left : List UsageFailure} :
    retryable last = leaving left ↔ last = left ∧ left ≠ [] := by
  unfold leaving
  split <;> simp_all

/-- To refill the queue takes neither a token nor a submission. -/
theorem Refills.submits_nothing {failures : List UsageFailure} {course : List Happening}
    {answer : Except ServiceError (Attempt (List UsageFailure))} (h : Refills failures course answer) :
    submittedIn course = [] ∧ tokensIn course = 0 := by
  cases h <;> exact ⟨rfl, rfl⟩

/-- Refilling leaves exactly what is still failing. -/
theorem Refills.leaving {failures : List UsageFailure} {course : List Happening}
    {attempt : Attempt (List UsageFailure)} (h : Refills failures course (.ok attempt))
    (q : FailureQueue) : (q.afterAll course).Holds failures ∧ attempt = .leaving failures := by
  cases h with
  | cleared => exact ⟨.nil, rfl⟩
  | refilled some_left storable => exact ⟨q.holds_after_seed storable, (if_neg some_left).symm⟩

/-- An attempt submits what its pass submits. -/
theorem submittedIn_attempt {plan : BillingPlan} {others report refill : List Happening}
    {rows : List FailureRecord} {failures : List UsageFailure} (token : String)
    (pass : List Happening) {answer : Except ServiceError (Attempt (List UsageFailure))}
    (arrivals : Arrivals others)
    (reports : Reports plan rows report) (refills : Refills failures refill answer) :
    submittedIn (others ++ .exchange .token (.ok token) :: (pass ++ (report ++ refill))) =
      submittedIn pass := by
  rw [submittedIn_append, arrivals.passive.submittedIn, submittedIn_cons_of_none rfl,
    submittedIn_append, submittedIn_append, reports.passive.submittedIn, refills.submits_nothing.1,
    List.nil_append, List.append_nil, List.append_nil]

/-- An attempt that does not fail leaves exactly what came back. -/
theorem Tries.leaving {plan : BillingPlan} {q : FailureQueue} {course : List Happening}
    {attempt : Attempt (List UsageFailure)} (h : Tries plan q course (.ok attempt)) :
    (q.afterAll course).Holds (returnedIn course) ∧ attempt = .leaving (returnedIn course) := by
  cases h with
  | @passed others pass report refill token found _ arrivals passes reports refills =>
    have sent := submittedIn_attempt token pass arrivals reports refills
    have returned : found.failures = returnedIn pass := by rw [passes.found_eq rfl]
    obtain ⟨left, ended⟩ := refills.leaving (q.afterAll others)
    rw [returnedIn, sent, ← returnedIn, ← returned]
    exact ⟨by simpa [FailureQueue.after, passes.afterAll, reports.afterAll] using left, ended⟩

/-- What the attempts leave to retry. -/
def RetryOutcome.remaining : RetryOutcome (List UsageFailure) → List UsageFailure
  | .succeeded _ => []
  | .exhausted _ last => last

/-- Attempts that do not fail leave in the queue exactly what is to retry. -/
theorem Retries.leaving {plan : BillingPlan} {more number : Nat} {q : FailureQueue}
    {course : List Happening} {result : Except ServiceError (RetryOutcome (List UsageFailure))}
    {outcome : RetryOutcome (List UsageFailure)} (h : Retries plan more number q course result)
    (ended : result = .ok outcome) : (q.afterAll course).Holds outcome.remaining := by
  induction h with
  | failed => cases ended
  | succeeded tries =>
    cases ended
    obtain ⟨left, done⟩ := tries.leaving
    rwa [Attempt.success_eq_leaving.1 done] at left
  | exhausted tries =>
    cases ended
    obtain ⟨left, done⟩ := tries.leaving
    rwa [← (Attempt.retryable_eq_leaving.1 done).1] at left
  | again _ _ ih => simpa [FailureQueue.after] using ih ended

/-- An attempt that does not fail, and that nobody else disturbs, does exactly that. -/
theorem Tries.billsQueue {plan : BillingPlan} {q : FailureQueue} {course : List Happening}
    {attempt : Attempt (List UsageFailure)} (h : Tries plan q course (.ok attempt))
    (alone : Undisturbed course) :
    BillsQueue plan q course ∧ attempt = .leaving (returnedIn course) := by
  obtain ⟨left, ended⟩ := h.leaving
  cases h with
  | @passed others pass report refill token found _ arrivals passes reports refills =>
    have sent := submittedIn_attempt token pass arrivals reports refills
    obtain rfl := arrivals.eq_nil alone
    refine ⟨⟨?_, ?_, left⟩, ended⟩
    · rw [List.nil_append, tokensIn_cons_token, tokensIn_append, tokensIn_append, passes.tokensIn,
        reports.passive.tokensIn, refills.submits_nothing.2]
    · rw [batchesIn, sent, ← batchesIn, passes.batchesIn (by omega) rfl, inBatches_max_one]
      rfl

/-- Every batch of an attempt that does not fail was answered. -/
theorem Tries.answered {plan : BillingPlan} {q : FailureQueue} {course : List Happening}
    {attempt : Attempt (List UsageFailure)} (h : Tries plan q course (.ok attempt)) :
    ∀ s ∈ submittedIn course, ∃ failures, s.2 = .ok failures := by
  cases h with
  | @passed _ pass _ _ token _ _ arrivals passes reports refills =>
    rw [submittedIn_attempt token pass arrivals reports refills]
    exact passes.answered rfl

/-- All in all, an attempt submits the usage records of the queue that can be read. -/
theorem BillsQueue.flatten_batchesIn {plan : BillingPlan} {q : FailureQueue}
    {course : List Happening} (h : BillsQueue plan q course) :
    (batchesIn course).flatten = payloadsOf q.rows := by
  rw [h.submitted, flatten_payloadsOf_inBatches]

/-! ## From the beginning -/

/-- What a run from the beginning comes to: its result, the last id that the queue has given by
then, and whose records were submitted, batch by batch. -/
def Collaborators.account {α : Type} (c : Collaborators) (run : Except Crash α × Chronicle) :
    Except Crash α × Int × List (List String) :=
  (run.1, (c.queueAt run.2).lastId, (batchesIn run.2).map (·.map (·.instanceId)))

/-- A program takes the course of which its account tells. -/
theorem Collaborators.exists_does_of_account {α : Type} {c : Collaborators} {p : Action α}
    {result : Except Crash α} {last : Int} {submitted : List (List String)}
    (told : c.account (c.perform p []) = (result, last, submitted))
    (fits : last ≤ Int64.maxValue.toInt) :
    ∃ course, c.Does p [] result course ∧ (c.queueAt course).Unspent ∧
      (batchesIn course).map (·.map (·.instanceId)) = submitted := by
  obtain ⟨ended, course, does⟩ := c.exists_does p []
  rw [show c.perform p [] = (ended, course) from does] at told
  obtain ⟨same, told⟩ := Prod.mk.inj told
  obtain ⟨given, told⟩ := Prod.mk.inj told
  exact ⟨course, same ▸ does, given.trans_le fits, told⟩

end UsageBilling
