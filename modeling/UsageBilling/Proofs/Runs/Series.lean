import UsageBilling.Proofs.Runs.Aborts

/-!
# The attempts of a call

What a call asks of the metering API it asks in its attempts. They follow one
another, each on the queue as the one before has left it. The call has filled
the queue before the first of them, and asks nothing more after the last one.
-/

namespace UsageBilling

open Billing

/-- Attempts from the queue `q` on, each with the wait that may follow it. -/
inductive Series (plan : BillingPlan) : FailureQueue → List (List Happening) → Prop where
  | nil (q : FailureQueue) : Series plan q []
  | cons {q : FailureQueue} {attempt between : List Happening} {others : List (List Happening)}
      {answer : Except ServiceError (Attempt (List UsageFailure))}
      (tries : Tries plan q attempt answer) (quiet : Passive between)
      (series : Series plan (q.afterAll (attempt ++ between)) others) :
      Series plan q ((attempt ++ between) :: others)

/-- Each batch has one record at least, and no more than `limit`. -/
def Fitting (limit : Nat) (course : List Happening) : Prop :=
  ∀ batch ∈ batchesIn course, 0 < batch.length ∧ batch.length ≤ limit

section Parts

variable {plan : BillingPlan} {q : FailureQueue} {call : Call} {course : List Happening}

theorem Idle.submittedIn (h : Idle course) : submittedIn course = [] :=
  List.map_eq_nil_iff.1 h.2

theorem Idle.returnedIn (h : Idle course) : returnedIn course = [] := by
  rw [UsageBilling.returnedIn, h.submittedIn]
  rfl

theorem batchesIn_flatten (attempts : List (List Happening)) :
    batchesIn attempts.flatten = (attempts.map batchesIn).flatten := by
  induction attempts with
  | nil => rfl
  | cons attempt attempts ih => rw [List.flatten_cons, batchesIn_append, ih]; rfl

theorem Series.last {answer : Except ServiceError (Attempt (List UsageFailure))}
    (tries : Tries plan q course answer) : Series plan q [course] := by
  have alone : Series plan q [course ++ []] := .cons tries .nil (.nil _)
  rwa [List.append_nil] at alone

/-! ## Every call is such a series -/

/-- The attempts of a run are a series, each going on from what the last one left. -/
theorem Retries.series {more number : Nat}
    {result : Except ServiceError (RetryOutcome (List UsageFailure))}
    (h : Retries plan more number q course result) :
    ∃ attempts, course = attempts.flatten ∧ Series plan q attempts := by
  induction h with
  | failed tries => exact ⟨[_], List.flatten_singleton.symm, .last tries⟩
  | succeeded tries => exact ⟨[_], List.flatten_singleton.symm, .last tries⟩
  | exhausted tries => exact ⟨[_], List.flatten_singleton.symm, .last tries⟩
  | @again _ _ _ first rest _ _ tries _ ih =>
    obtain ⟨attempts, rfl, series⟩ := ih
    have waited : Passive [.exchange (.wait plan.retry.backoff) ()] := .cons ⟨rfl, rfl, id⟩ .nil
    refine ⟨_ :: attempts, ?_, .cons tries waited ?_⟩
    · rw [List.flatten_cons, List.append_assoc]
      rfl
    · rwa [FailureQueue.afterAll_wait]

/-- Behind the attempts of a run nothing is submitted or written. -/
theorem Bills.series {submitted : Nat} {outcome : Except ServiceError RunOutcome}
    (h : Bills plan submitted q course outcome) :
    ∃ attempts closing, course = attempts.flatten ++ closing ∧ Passive closing ∧
      Series plan q attempts := by
  cases h with
  | failed retries =>
    obtain ⟨attempts, rfl, series⟩ := retries.series
    exact ⟨attempts, [], (List.append_nil _).symm, .nil, series⟩
  | succeeded retries =>
    obtain ⟨attempts, rfl, series⟩ := retries.series
    exact ⟨attempts, [], (List.append_nil _).symm, .nil, series⟩
  | escalated retries dispatches =>
    obtain ⟨attempts, rfl, series⟩ := retries.series
    exact ⟨attempts, _, rfl, dispatches.passive, series⟩

/-- The part of a call that fills the queue asks nothing of the metering API. -/
theorem Opens.idle {submitted : Option Nat} (h : Opens plan q call course submitted) : Idle course := by
  cases h with
  | scheduled seeds => cases seeds <;> exact ⟨rfl, rfl⟩
  | byHand reseeds =>
    cases reseeds with
    | unlisted => exact ⟨rfl, rfl⟩
    | unstored quiet reports e =>
      refine Passive.idle (.cons ⟨rfl, rfl, id⟩ (.cons ⟨rfl, rfl, id⟩ ?_))
      exact quiet.passive.append (reports.passive.append (.cons ⟨rfl, rfl, id⟩ .nil))
    | @reseeded stamp asides report quiet reports =>
      obtain ⟨tokens, batches⟩ := (quiet.passive.append reports.passive).idle
      constructor
      · simpa [tokensIn, Happening.isToken] using tokens
      · simpa [batchesIn, submittedIn, Happening.submitted?] using batches

/-- A call fills the queue, makes its attempts, and closes. -/
theorem Calls.series {failed : Bool} (h : Calls plan q call course failed) :
    ∃ opening attempts closing, course = opening ++ (attempts.flatten ++ closing) ∧ Idle opening ∧
      Passive closing ∧ Series plan (q.afterAll opening) attempts ∧
      (attempts ≠ [] → ∃ h ∈ opening, h.IsWrite) := by
  cases h with
  | @busy others closing arrivals quiet =>
    exact ⟨others ++ .exchange .takeGuard false :: closing, [], [], by simp,
      (arrivals.passive.append (.cons ⟨rfl, rfl, id⟩ quiet)).idle, .nil, .nil _, nofun⟩
  | @unopened others opening closing arrivals opens quiet =>
    have passive : Passive (others ++ .exchange .takeGuard true :: (opening ++ closing)) :=
      arrivals.passive.append (.cons ⟨rfl, rfl, id⟩ (opens.passive.append quiet))
    exact ⟨_, [], [], by simp, passive.idle, .nil, .nil _, nofun⟩
  | @billed others opening run closing submitted failed outcome arrivals opens bills quiet =>
    obtain ⟨attempts, telling, rfl, passive, series⟩ := bills.series
    obtain ⟨failures, inside, -, -⟩ := opens.filled
    refine ⟨others ++ .exchange .takeGuard true :: opening, attempts, telling ++ closing, by simp,
      ?_, passive.append quiet, ?_,
      fun _ => ⟨.exchange (.seed failures) (.ok ()), by simp [inside], trivial⟩⟩
    · obtain ⟨tokens, batches⟩ := opens.idle
      obtain ⟨tokens', batches'⟩ := arrivals.passive.idle
      constructor
      · rw [tokensIn_append, tokens', Nat.zero_add]
        exact tokens
      · rw [batchesIn_append, batches', List.nil_append]
        exact batches
    · simpa [FailureQueue.after] using series

/-- What is not in the first part of a list comes after it. -/
theorem exists_between {α : Type} {first rest since later : List α} {x : α}
    (same : first ++ rest = since ++ x :: later) (outside : x ∉ first) :
    ∃ between, since = first ++ between ∧ rest = between ++ x :: later := by
  obtain behind | ⟨between, rfl, tail⟩ := List.append_eq_append_iff.1 same
  · exact behind
  · cases between with
    | nil => exact ⟨[], by simp, by simpa using tail.symm⟩
    | cons y between =>
      obtain ⟨rfl, -⟩ := List.cons.inj tail
      exact absurd (by simp) outside

/-- Whoever is given a token, or refused it, finds the queue filled. -/
theorem Calls.filled_before_token {failed : Bool} {since later : List Happening}
    {answer : Except ServiceError String} (h : Calls plan q call course failed)
    (here : course = since ++ .exchange .token answer :: later) : ∃ h ∈ since, h.IsWrite := by
  obtain ⟨opening, attempts, closing, rfl, ⟨tokenless, -⟩, quiet, -, filled⟩ := h.series
  have not_opening : .exchange .token answer ∉ opening := fun member =>
    List.countP_eq_zero.1 tokenless _ member rfl
  obtain ⟨between, rfl, rest⟩ := exists_between here not_opening
  obtain ⟨write, inside, wrote⟩ : ∃ h ∈ opening, h.IsWrite := filled fun none => by
    subst none
    rw [List.flatten_nil, List.nil_append] at rest
    cases (quiet (.exchange .token answer) (by simp [rest])).1
  exact ⟨write, List.mem_append_left _ inside, wrote⟩

/-! ## Batches that fit -/

theorem Fitting.append {limit : Nat} {first second : List Happening} (h : Fitting limit first)
    (h' : Fitting limit second) : Fitting limit (first ++ second) := by
  rw [Fitting, batchesIn_append]
  exact List.forall_mem_append.2 ⟨h, h'⟩

theorem Idle.fitting (h : Idle course) (limit : Nat) : Fitting limit course := by
  rw [Fitting, h.2]
  exact List.forall_mem_nil _

/-- A page has no more usage records that can be read than rows. -/
theorem length_payloadsOf_take (limit : Nat) (rows : List FailureRecord) :
    (payloadsOf (rows.take limit)).length ≤ limit :=
  (List.length_filterMap_le _ _).trans (List.length_take_le _ _)

/-- A batch fits if its records do. -/
theorem Submits.fitting {token : String} {limit : Nat} {payloads : List UsagePayload}
    {result : Except ServiceError (List UsageFailure)} (h : Submits token payloads course result)
    (few : payloads.length ≤ limit) : Fitting limit course := by
  intro batch member
  rw [h.batchesIn, List.mem_filter, List.mem_singleton] at member
  obtain ⟨rfl, some_left⟩ := member
  exact ⟨List.length_pos_iff.2 (by simpa using some_left), few⟩

/-- The batches of a pass fit its page size, whatever rows the pages hold. -/
theorem Passes.fitting {token : String} {limit : Nat} {rows : List FailureRecord}
    {result : Except ServiceError Pass} (h : Passes token limit rows course result) :
    Fitting limit course := by
  induction h with
  | finished quiet => exact quiet.passive.idle.fitting _
  | unread => exact List.forall_mem_nil _
  | refused _ quiet submits =>
    exact (quiet.passive.idle.fitting _).append (submits.fitting (length_payloadsOf_take _ _))
  | page _ quiet submits _ ih =>
    exact (quiet.passive.idle.fitting _).append
      ((submits.fitting (length_payloadsOf_take _ _)).append ih)

/-- Every batch of an attempt fits the batch size of its plan. -/
theorem Tries.fitting {answer : Except ServiceError (Attempt (List UsageFailure))}
    (h : Tries plan q course answer) : Fitting (max plan.batchSize 1) course := by
  cases h with
  | tokenless arrivals e =>
    exact (arrivals.passive.idle.fitting _).append (List.forall_mem_nil _)
  | @broken others pass token _ arrivals passes =>
    have given : Fitting (max plan.batchSize 1) [.exchange .token (.ok token)] :=
      List.forall_mem_nil _
    exact (arrivals.passive.idle.fitting _).append (given.append passes.fitting)
  | @passed _ pass _ _ token _ _ arrivals passes reports refills =>
    rw [Fitting, batchesIn, submittedIn_attempt token pass arrivals reports refills]
    exact passes.fitting

theorem Series.fitting {attempts : List (List Happening)} (h : Series plan q attempts) :
    ∀ attempt ∈ attempts, Fitting (max plan.batchSize 1) attempt := by
  induction h with
  | nil => exact List.forall_mem_nil _
  | cons tries quiet _ ih =>
    exact List.forall_mem_cons.2 ⟨tries.fitting.append (quiet.idle.fitting _), ih⟩

/-- Every batch of a call fits the batch size of its plan. -/
theorem Calls.fitting {failed : Bool} (h : Calls plan q call course failed) :
    Fitting (max plan.batchSize 1) course := by
  obtain ⟨opening, attempts, closing, rfl, idle, quiet, series, -⟩ := h.series
  refine (idle.fitting _).append (.append ?_ (quiet.idle.fitting _))
  intro batch member
  rw [batchesIn_flatten] at member
  obtain ⟨_, inside, sent⟩ := List.mem_flatten.1 member
  obtain ⟨attempt, tried, rfl⟩ := List.mem_map.1 inside
  exact series.fitting attempt tried batch sent

end Parts

end UsageBilling
