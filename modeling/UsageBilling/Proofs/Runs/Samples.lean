import Mathlib
import UsageBilling.Proofs.Runs.Shrinking

/-!
# Samples of a run

The samples of the metering client add up to what the run does: every batch of
the run is counted as submitted, and what the batches leave outstanding, attempt
by attempt, is what the counted failures amount to. The run itself adds nothing
to these two families.
-/

namespace UsageBilling

open Billing Metering

/-! ## Amounts -/

/-- How many batches are counted as submitted. -/
def Observation.submitted : Observation → Nat
  | .submission _ => 1
  | _ => 0

/-- How many failures are counted. -/
def Observation.outstanding : Observation → Nat
  | .failures _ n => n
  | _ => 0

/-- An observation adds an amount to this family under some label, or nothing. -/
def Metrics.IsCounter (family : Metrics → Tally) (amount : Observation → Nat) : Prop :=
  ∀ m o, (amount o = 0 ∧ family (m.observe o) = family m) ∨
    ∃ label, family (m.observe o) = (family m).add label (amount o)

/-- The samples of a counter grow by what the observations amount to. -/
theorem Metrics.IsCounter.total {family : Metrics → Tally} {amount : Observation → Nat}
    (counts : IsCounter family amount) {m : Metrics} {os : List Observation}
    (small : (family m).total + (os.map amount).sum < 2 ^ 53) :
    (family (m.observeAll os)).total = (family m).total + (os.map amount).sum := by
  induction os generalizing m with
  | nil => rfl
  | cons o os ih =>
    rw [List.map_cons, List.sum_cons] at small ⊢
    have first : (family (m.observe o)).total = (family m).total + amount o := by
      obtain ⟨nothing, same⟩ | ⟨label, added⟩ := counts m o
      · rw [same, nothing, Nat.add_zero]
      · rw [added]
        exact Tally.total_add label (by omega)
    have others := ih (m := m.observe o) (by omega)
    rw [first, Nat.add_assoc] at others
    exact others

/-- Submissions are counted one by one. -/
theorem isCounter_submissions : Metrics.IsCounter (·.submissions) Observation.submitted := by
  intro m o
  cases o with
  | submission status => exact .inr ⟨status, rfl⟩
  | _ => exact .inl ⟨rfl, rfl⟩

theorem isCounter_failures : Metrics.IsCounter (·.failures) Observation.outstanding := by
  intro m o
  cases o with
  | failures reason n => exact .inr ⟨reason, rfl⟩
  | _ => exact .inl ⟨rfl, rfl⟩

/-- A batch that is sent is counted once. -/
theorem Metering.Sampled.submitted {reply : Reply} {failures : List UsageFailure}
    {os : List Observation} (h : Sampled reply failures os) :
    (os.map Observation.submitted).sum = 1 := by
  cases h <;> rfl

theorem Metering.Sampled.outstanding {reply : Reply} {failures : List UsageFailure}
    {os : List Observation} (h : Sampled reply failures os) :
    (os.map Observation.outstanding).sum = failures.length := by
  cases h with
  | lost => exact Nat.zero_add _
  | accepted => rfl
  | rejected => exact Nat.zero_add _

/-! ## What a course counts -/

/-- What is counted in a course whose batches go through the client and get these replies, one after
another. -/
def observedIn (client : Client) : (Nat → Reply) → List Happening → List Observation
  | _, [] => []
  | replies, h :: course =>
    match h.submitted? with
    | some (batch, _) =>
      client.samples batch (replies 0) ++ observedIn client (fun k => replies (k + 1)) course
    | none => h.observation?.toList ++ observedIn client replies course

/-- The happening counts neither batches nor failures. -/
def Happening.Unsampled (h : Happening) : Prop :=
  ∀ o, h.observation? = some o → o.submitted = 0 ∧ o.outstanding = 0

/-- The request counts neither batches nor failures. -/
def Request.Unsampled (r : Request) : Prop :=
  ∀ o, r = .observe o → o.submitted = 0 ∧ o.outstanding = 0

theorem Request.Inner.unsampled {r : Request} (h : r.Inner) : r.Unsampled := by
  rintro o rfl
  cases o <;> first | exact ⟨rfl, rfl⟩ | cases h

section Courses

variable {client : Client} {replies : Nat → Reply} {course : List Happening}

theorem amounts_of_unsampled {h : Happening} (unsampled : h.Unsampled) :
    (h.observation?.toList.map Observation.submitted).sum = 0 ∧
      (h.observation?.toList.map Observation.outstanding).sum = 0 := by
  cases counted : h.observation? with
  | none => exact ⟨rfl, rfl⟩
  | some o => simpa using unsampled o counted

/-- Where each batch fits and nothing else counts any, the samples are those of the batches and of what
they come back with. -/
theorem amounts_observedIn (through : AnsweredThrough client replies (submittedIn course))
    (fitting : Fitting client.pageSize course) (own : ∀ h ∈ course, h.Unsampled) :
    ((observedIn client replies course).map Observation.submitted).sum = (batchesIn course).length ∧
      ((observedIn client replies course).map Observation.outstanding).sum =
        (returnedIn course).length := by
  induction course generalizing replies with
  | nil => exact ⟨rfl, rfl⟩
  | cons h course ih =>
    obtain ⟨unsampled, others⟩ := List.forall_mem_cons.1 own
    have split : h :: course = [h] ++ course := rfl
    cases sent : h.submitted? with
    | none =>
      have same : submittedIn (h :: course) = submittedIn course := submittedIn_cons_of_none sent
      rw [Fitting, batchesIn, same] at fitting
      rw [same] at through
      obtain ⟨submitted, outstanding⟩ := ih through fitting others
      obtain ⟨none_submitted, none_outstanding⟩ := amounts_of_unsampled unsampled
      rw [observedIn, sent, batchesIn, returnedIn, same, ← batchesIn, ← returnedIn]
      simp only [List.map_append, List.sum_append, submitted, outstanding, none_submitted,
        none_outstanding, Nat.zero_add, and_self]
    | some s =>
      obtain ⟨batch, answer⟩ := s
      have parts : submittedIn (h :: course) = (batch, answer) :: submittedIn course :=
        List.filterMap_cons_some sent
      rw [Fitting, batchesIn, parts, List.map_cons] at fitting
      obtain ⟨⟨some_left, fits⟩, fitting⟩ := List.forall_mem_cons.1 fitting
      rw [parts] at through
      obtain ⟨submitted, outstanding⟩ := ih through.tail fitting others
      obtain ⟨clock, same⟩ := through 0 batch answer rfl
      obtain ⟨failures, answered, sampled⟩ :=
        submit_of_fitting (List.length_pos_iff.1 some_left) fits (replies 0) clock
      obtain rfl : answer = .ok failures := same.trans answered
      have batches : (batchesIn (h :: course)).length = (batchesIn course).length + 1 := by
        rw [batchesIn, parts]
        rfl
      have returned : (returnedIn (h :: course)).length =
          failures.length + (returnedIn course).length := by
        rw [returnedIn, parts, returnedFrom, List.flatMap_cons, List.length_append]
        rfl
      rw [observedIn, sent, batches, returned]
      simp only [List.map_append, List.sum_append, sampled.submitted, sampled.outstanding, submitted,
        outstanding, and_true]
      omega

end Courses

/-! ## Attempts -/

section Attempts

variable {plan : BillingPlan} {q : FailureQueue} {course : List Happening}

/-- An attempt takes one token, and if it writes the queue, it writes what its batches came back with. -/
structure Collects (attempt : List Happening) : Prop where
  token : tokensIn attempt = 1
  written : ∀ w ∈ attempt, w.IsWrite → w = refillWith (returnedIn attempt)

/-- To refill the queue writes these failures and nothing else. -/
theorem Refills.written {failures : List UsageFailure}
    {answer : Except ServiceError (Attempt (List UsageFailure))} (h : Refills failures course answer)
    {w : Happening} (member : w ∈ course) (wrote : w.IsWrite) : w = refillWith failures := by
  cases h with
  | cleared =>
    obtain rfl | rest := List.mem_cons.1 member
    · rfl
    · rw [List.mem_singleton.1 rest] at wrote
      cases wrote
  | refilled some_left =>
    obtain rfl | rest := List.mem_cons.1 member
    · exact (if_neg some_left).symm
    · rw [List.mem_singleton.1 rest] at wrote
      cases wrote
  | uncleared =>
    rw [List.mem_singleton.1 member] at wrote
    cases wrote
  | unfilled =>
    rw [List.mem_singleton.1 member] at wrote
    cases wrote

/-- An attempt writes what its batches came back with. -/
theorem Tries.collects {answer : Except ServiceError (Attempt (List UsageFailure))}
    (h : Tries plan q course answer) : Collects course := by
  refine ⟨h.tokensIn, fun w member wrote => ?_⟩
  cases answer with
  | error e => exact absurd wrote (h.unwritten w member)
  | ok attempt =>
    cases h with
    | @passed others pass report refill token found _ arrivals passes reports refills =>
      have returned : returnedIn (others ++ .exchange .token (.ok token) ::
          (pass ++ (report ++ refill))) = found.failures := by
        rw [returnedIn, submittedIn_attempt token pass arrivals reports refills, ← returnedIn,
          passes.found_eq rfl]
      have quiet : ∀ w ∈ others ++ .exchange .token (.ok token) :: (pass ++ report),
          ¬ w.IsWrite :=
        List.forall_mem_append.2 ⟨arrivals.passive.unwritten, List.forall_mem_cons.2
          ⟨id, List.forall_mem_append.2 ⟨passes.unwritten, reports.passive.unwritten⟩⟩⟩
      rw [returned]
      refine refills.written ?_ wrote
      have elsewhere := mt (quiet w) (not_not.2 wrote)
      simp only [List.mem_append, List.mem_cons, not_or] at elsewhere member
      tauto

theorem Series.collects {attempts : List (List Happening)} (h : Series plan q attempts) :
    ∀ attempt ∈ attempts, Collects attempt := by
  induction h with
  | nil => exact List.forall_mem_nil _
  | @cons _ attempt between _ _ tries quiet _ ih =>
    refine List.forall_mem_cons.2 ⟨⟨?_, ?_⟩, ih⟩
    · rw [tokensIn_append, tries.collects.token, quiet.tokensIn]
    · intro w member wrote
      rw [returnedIn_append, quiet.returnedIn, List.append_nil]
      refine tries.collects.written w ?_ wrote
      exact (List.mem_append.1 member).resolve_right fun later => quiet.unwritten w later wrote

/-- What came back from all attempts is the sum of what came back from each. -/
theorem returnedIn_flatten (attempts : List (List Happening)) :
    (returnedIn attempts.flatten).length = (attempts.map fun a => (returnedIn a).length).sum := by
  induction attempts with
  | nil => rfl
  | cons attempt attempts ih =>
    rw [List.flatten_cons, returnedIn_append, List.length_append, ih, List.map_cons, List.sum_cons]

end Attempts

/-! ## Calls -/

/-- What a call adds to the samples of submitted batches and of failures that goes through the client
and gets these replies. -/
structure AddsUp (client : Client) (replies : Nat → Reply) (course : List Happening) : Prop where
  /-- Every batch is sent, and counted by itself with the failures it comes back with. -/
  each : ∀ k batch answer, (submittedIn course)[k]? = some (batch, answer) →
    ∃ failures, answer = .ok failures ∧ Sampled (replies k) failures (client.samples batch (replies k))
  submissions : ∀ m : Metrics, m.submissions.total + (batchesIn course).length < 2 ^ 53 →
    (m.observeAll (observedIn client replies course)).submissions.total =
      m.submissions.total + (batchesIn course).length
  /-- The failures grow by what the attempts collect. -/
  failures : ∃ (opening closing : List Happening) (attempts : List (List Happening)),
    course = opening ++ (attempts.flatten ++ closing) ∧
    Idle opening ∧ Idle closing ∧ (∀ attempt ∈ attempts, Collects attempt) ∧
    ∀ m : Metrics, m.failures.total + (attempts.map fun a => (returnedIn a).length).sum < 2 ^ 53 →
      (m.observeAll (observedIn client replies course)).failures.total =
        m.failures.total + (attempts.map fun a => (returnedIn a).length).sum

section Calls

variable {c : Collaborators} {plan : BillingPlan} {replies : Nat → Reply} {past : Chronicle}
  {call : Call} {course : List Happening}

/-- A call itself counts neither batches nor failures. -/
theorem Collaborators.Does.unsampled {result : Except Crash (Except ServiceError call.Outcome)}
    (h : c.Does (call.program plan).run past result course) : ∀ h ∈ course, h.Unsampled := by
  have asks : (call.program plan).run.Only Request.Unsampled :=
    (call.program_asks plan (fun _ => Request.Inner.unsampled) (by rintro name _ ⟨⟩; exact ⟨rfl, rfl⟩)
      nofun nofun).only
  intro happening member o counted
  cases happening with
  | exchange r answer =>
    have unsampled := h.asked_only asks member
    cases r with
    | observe o' =>
      obtain rfl := Option.some.inj counted
      exact unsampled o' rfl
    | _ => cases counted
  | _ => cases counted

/-- The samples of the metering client add up to the batches of a call and to what its attempts
collect, whatever the metering API replies; a batch that is not sent has no sample. -/
theorem samples_add_up {endpoint resourceId : String} {pageSize : Nat} {policy : RejectionPolicy}
    {result : Except Crash (Except ServiceError call.Outcome)} (reachable : c.queue.Reachable)
    (metered : c.MetersThrough (.atLeastOne endpoint resourceId pageSize policy) replies)
    (limit : plan.batchSize = (Client.atLeastOne endpoint resourceId pageSize policy).pageSize)
    (h : c.Does (call.program plan).run past result course)
    (unspent : (c.queueAt (past ++ course)).Unspent) :
    AddsUp (.atLeastOne endpoint resourceId pageSize policy)
        (fun k => replies ((batchesIn past).length + k)) course ∧
      ∀ (client : Client) batch reply clock, batch = [] ∨ client.pageSize < batch.length →
        (client.submit batch reply clock).observations = [] := by
  have numbered : (c.queueAt past).Numbered := reachable.numbered.afterAll past
  have through := metered.answeredThrough h.genuine
  obtain ⟨failed, calls⟩ := h.calls numbered unspent
  have fitting := calls.fitting_client limit
  obtain ⟨submitted, outstanding⟩ := amounts_observedIn through fitting h.unsampled
  obtain ⟨opening, attempts, closing, rfl, idle, quiet, series, -⟩ := calls.series
  have collected : (returnedIn (opening ++ (attempts.flatten ++ closing))).length =
      (attempts.map fun a => (returnedIn a).length).sum := by
    rw [returnedIn_append, returnedIn_append, idle.returnedIn, quiet.returnedIn, List.nil_append,
      List.append_nil, returnedIn_flatten]
  refine ⟨⟨?_, ?_, opening, closing, attempts, rfl, idle, quiet.idle, series.collects, ?_⟩, ?_⟩
  · intro k batch answer at_k
    obtain ⟨clock, rfl⟩ := through k batch answer at_k
    obtain ⟨some_left, fits⟩ := fitting batch (List.mem_map_of_mem (List.mem_of_getElem? at_k))
    exact submit_of_fitting (List.length_pos_iff.1 some_left) fits _ clock
  · intro m small
    rw [← submitted] at small ⊢
    exact isCounter_submissions.total small
  · intro m small
    rw [← collected, ← outstanding] at small ⊢
    exact isCounter_failures.total small
  · intro client batch reply clock unsent
    rw [observations_submit, samples_of_unsent unsent]

end Calls

theorem PageOfOne.lost_batch_adds_up : ∃ course,
    collaborators.Does (Call.program plan .scheduled).run [] (.ok (.ok (.succeeded 2 2))) course ∧
    (AddsUp client (fun k => replies (0 + k)) course ∧
      ∀ (client : Client) batch reply clock, batch = [] ∨ client.pageSize < batch.length →
        (client.submit batch reply clock).observations = []) := by
  obtain ⟨course, does, unspent, -⟩ :=
    Collaborators.exists_does_of_account account_run (by decide)
  exact ⟨course, does,
    samples_add_up .empty (fun _ _ _ => ⟨.still ⟨0, 0⟩, rfl⟩) rfl does unspent⟩

end UsageBilling
