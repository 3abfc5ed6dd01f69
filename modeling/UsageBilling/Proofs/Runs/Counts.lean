import UsageBilling.Proofs.Counting
import UsageBilling.Proofs.Runs.Exclusion
import UsageBilling.Proofs.Runs.Resubmission

/-!
# How runs are counted

A call that finds the run guard taken counts this if it is a scheduled one, and
nothing else. A call that holds the guard counts the end of its run once, as
succeeded, escalated or failed, wherever the run breaks off. The one exception
is a manual call whose queue cannot be read or refilled: it returns the error
before its run begins, and counts none.
-/

namespace UsageBilling

open Billing

/-- What the end of a run is counted for: the whole of a scheduled call that holds the guard, and the
attempts of a manual one. -/
inductive IsRun (plan : BillingPlan) : Call → Billing RunOutcome → Prop where
  | scheduled : IsRun plan .scheduled do
      let seeded ← seedFromInstances
      attemptAndEscalate plan seeded
  | byHand (submitted : Nat) : IsRun plan .byHand (attemptAndEscalate plan submitted)

/-- What a call returns whose run has ended like this: a scheduled call the outcome, a manual call the
error, or the rows that are left. -/
inductive HandsBack : (call : Call) → Except ServiceError RunOutcome → List Happening →
    Except ServiceError call.Outcome → Prop where
  | outcome (outcome : Except ServiceError RunOutcome) (closing : List Happening) :
      HandsBack .scheduled outcome closing outcome
  | error (e : ServiceError) (closing : List Happening) : HandsBack .byHand (.error e) closing (.error e)
  | nothing (attempts submitted : Nat) (closing : List Happening) :
      HandsBack .byHand (.ok (.succeeded attempts submitted)) closing (.ok [])
  | remaining (attempts left : Nat) {closing : List Happening}
      {rows : Except ServiceError (List FailureRecord)} (listed : .exchange .listAll rows ∈ closing) :
      HandsBack .byHand (.ok (.escalated attempts left)) closing rows

/-- The run of the call has ended like this, and was counted once, under the name of its end. -/
structure CountsRun (c : Collaborators) (plan : BillingPlan) (past : Chronicle) (call : Call)
    (course : List Happening) (result : Except ServiceError call.Outcome)
    (outcome : Except ServiceError RunOutcome) : Prop where
  counts : ∀ m : Metrics, (m.along course).runs = m.runs.add (endName outcome) 1
  ran : ∃ run opening body closing, IsRun plan call run ∧
    course = opening ++ (body ++ .exchange (.observe (.run (endName outcome))) () :: closing) ∧
    c.Does run.run (past ++ opening) (.ok outcome) body ∧ HandsBack call outcome closing result
  not_skipped : outcome ≠ .ok .skipped

/-- What a call counts that finds the guard taken. -/
def Call.countsRefusal (m : Metrics) : Call → Metrics
  | scheduled => { m with runs := m.runs.add "skipped" 1 }
  | byHand => m

/-- How a call that returns is counted. -/
structure Counts (c : Collaborators) (plan : BillingPlan) (past : Chronicle) (call : Call)
    (course : List Happening) (result : Except ServiceError call.Outcome) : Prop where
  /-- The guard is either given to the call or refused. -/
  asked : .exchange .takeGuard true ∈ course ↔ .exchange .takeGuard false ∉ course
  refused : .exchange .takeGuard false ∈ course →
    result = call.turnedAway ∧ ∀ m : Metrics, m.along course = call.countsRefusal m
  /-- The run of a call that holds the guard is counted once, unless it is a manual one that has never
  got as far as to ask for a token. -/
  held_iff : .exchange .takeGuard true ∈ course →
    ((∃ outcome, CountsRun c plan past call course result outcome) ↔
      (call = .byHand → tokensIn course ≠ 0))
  /-- Such a call fails while it reads or refills the queue. -/
  unopened : .exchange .takeGuard true ∈ course → call = .byHand → tokensIn course = 0 →
    ∃ e, result = .error e ∧ (∀ m : Metrics, (m.along course).runs = m.runs) ∧
      (.exchange .listAll (.error e) ∈ course ∨ ∃ failures, .exchange (.seed failures) (.error e) ∈ course)

/-! ## Ends of runs -/

section Ends

variable {m : Metrics} {c : Collaborators} {past : Chronicle} {course : List Happening}

@[simp] theorem outcomesIn_append (first second : List Happening) :
    outcomesIn (first ++ second) = outcomesIn first ++ outcomesIn second :=
  List.filterMap_append

@[simp] theorem outcomesIn_cons_run (name : String) (answer : Unit) :
    outcomesIn (.exchange (.observe (.run name)) answer :: course) = name :: outcomesIn course := rfl

theorem outcomesIn_cons_of_none {h : Happening} (unended : h.outcome? = none) :
    outcomesIn (h :: course) = outcomesIn course :=
  List.filterMap_cons_none unended

/-- The name under which an observation counts the end of a run. -/
def Observation.outcome? : Observation → Option String
  | .run name => some name
  | _ => none

/-- The counts of runs are those of their ends. -/
theorem Metrics.runs_along : (m.along course).runs = m.runs.addAll (outcomesIn course) := by
  have adds : IsFamily (·.runs) Observation.outcome? := fun m o => by cases o <;> rfl
  have labels (h : Happening) : h.observation?.bind Observation.outcome? = h.outcome? := by
    cases h with
    | exchange r answer =>
      cases r with
      | observe o => cases o <;> rfl
      | _ => rfl
    | _ => rfl
  rw [adds.along, outcomesIn]
  simp only [labels]

/-- What leaves the frame of the run alone counts no end of a run. -/
theorem Collaborators.Does.counts_no_end {α : Type} {p : Action α} {result : Except Crash α}
    (h : c.Does p past result course) (inner : p.Only Request.Inner) : outcomesIn course = [] := by
  refine List.filterMap_eq_nil_iff.2 fun happening member => ?_
  unfold Happening.outcome?
  split
  · cases h.asked_only inner member
  · rfl

/-- Asking for the guard is not counted, and neither are the rows that others append before. -/
theorem Arrivals.along_takeGuard {others : List Happening} (h : Arrivals others) (free : Bool) :
    m.along (others ++ .exchange .takeGuard free :: course) = m.along course := by
  have uncounted : m.along others = m := by
    rw [Metrics.along, h.filterMap_eq_nil fun _ _ _ => rfl]
    rfl
  rw [Metrics.along_append, uncounted, Metrics.along_cons_of_none rfl]

theorem Arrivals.outcomesIn {others : List Happening} (h : Arrivals others) : outcomesIn others = [] :=
  h.filterMap_eq_nil fun _ _ _ => rfl

/-- Filling the queue anew counts no end of a run and asks for no token. -/
theorem Reseeds.aside {plan : BillingPlan} {q : FailureQueue} {answer : Except ServiceError Nat}
    (h : Reseeds plan q course answer) : outcomesIn course = [] ∧ tokensIn course = 0 := by
  cases h with
  | unlisted => exact ⟨rfl, rfl⟩
  | unstored quiet reports | reseeded quiet reports =>
    have told := reports.signals.counted
    have counted := quiet.routine.signals.counted
    have none_asked := (quiet.passive.append reports.passive).tokensIn
    constructor
    · rw [outcomesIn_cons_of_none rfl, outcomesIn_cons_of_none rfl, outcomesIn_append,
        outcomesIn_append, told, counted]
      rfl
    · simpa [tokensIn, Happening.isToken] using none_asked

/-- A queue that cannot be filled anew could not be read, or did not take the rows. -/
theorem Reseeds.cause {plan : BillingPlan} {q : FailureQueue} {e : ServiceError}
    (h : Reseeds plan q course (.error e)) : .exchange .listAll (.error e) ∈ course ∨
      ∃ failures, .exchange (.seed failures) (.error e) ∈ course := by
  cases h with
  | unlisted => exact .inl List.mem_cons_self
  | @unstored clock => exact .inr ⟨outstandingOf clock q.rows, by simp⟩

theorem tokensIn_cons_of_not_token {h : Happening} (other : h.isToken = false) :
    tokensIn (h :: course) = tokensIn course :=
  List.countP_cons_of_neg (by simp [other])

/-- What a manual call returns once its run has ended. -/
theorem Lists.handsBack {q : FailureQueue} {outcome : RunOutcome}
    {result : Except ServiceError (List FailureRecord)} (h : Lists q outcome course result)
    (not_skipped : (.ok outcome : Except ServiceError RunOutcome) ≠ .ok .skipped)
    (later : List Happening) : HandsBack .byHand (.ok outcome) (course ++ later) result := by
  cases h with
  | remaining attempts left => exact .remaining attempts left (by simp)
  | unlisted attempts left => exact .remaining attempts left (by simp)
  | nothing settled =>
    cases outcome with
    | succeeded attempts submitted => exact .nothing attempts submitted _
    | escalated attempts left => exact absurd rfl (settled attempts left)
    | skipped => exact absurd rfl not_skipped

end Ends

/-! ## The end of a run -/

section Runs

variable {c : Collaborators} {plan : BillingPlan} {past : Chronicle} {call : Call}
  {run : Billing RunOutcome} {submitted : Nat} {course opening body closing : List Happening}
  {outcome : Except ServiceError RunOutcome} {result : Except ServiceError call.Outcome}

/-- A run does not count its own end. -/
theorem IsRun.inner (h : IsRun plan call run) : run.run.Only Request.Inner := by
  cases h with
  | scheduled =>
    exact (prompt_then prompt_seedFromInstances fun _ => prompt_attemptAndEscalate plan _).only
  | byHand submitted => exact (prompt_attemptAndEscalate plan submitted).only

/-- The attempts are never skipped. -/
theorem Collaborators.Does.not_skipped
    (h : c.Does (Billing.attemptAndEscalate plan submitted).run past (.ok outcome) course) :
    outcome ≠ .ok .skipped := by
  rcases h.then with ⟨_, ended, -⟩ | ⟨e, ended, -⟩ | ⟨retried, _, _, -, -, h⟩
  · cases ended
  · cases ended
    nofun
  cases retried with
  | succeeded attempts =>
    cases h.pure.1
    nofun
  | exhausted attempts last =>
    rcases h.discardThen.alwaysThen with ⟨_, ended, -⟩ | ⟨_, _, _, -, -, h⟩
    · cases ended
    · cases h.pure.1
      nofun

/-- No run is skipped that has begun. -/
theorem IsRun.not_skipped (h : IsRun plan call run)
    (does : c.Does run.run past (.ok outcome) course) : outcome ≠ .ok .skipped := by
  cases h with
  | byHand submitted => exact does.not_skipped
  | scheduled =>
    rcases does.then with ⟨_, ended, -⟩ | ⟨e, ended, -⟩ | ⟨_, _, _, -, -, attempted⟩
    · cases ended
    · cases ended
      nofun
    · exact attempted.not_skipped

/-- Every attempt begins with a token. -/
theorem attemptAndEscalate_asks (plan : BillingPlan) (submitted : Nat) :
    ∃ next, (attemptAndEscalate plan submitted).run = .ask .token next := by
  unfold attemptAndEscalate RetryPolicy.attempts
  rw [RetryPolicy.attemptsFrom]
  exact ⟨_, rfl⟩

/-- The first attempt asks for a token. -/
theorem Collaborators.Does.tokensIn_ne_zero {result : Except Crash (Except ServiceError RunOutcome)}
    (h : c.Does (Billing.attemptAndEscalate plan submitted).run past result course) :
    tokensIn course ≠ 0 := by
  obtain ⟨next, asks⟩ := attemptAndEscalate_asks plan submitted
  rw [asks] at h
  obtain ⟨answer, rest, -, rfl, -⟩ := h.ask
  rw [tokensIn_append, tokensIn_cons_token]
  omega

/-- A run whose end is counted, and nothing before and after it, is counted once. -/
theorem IsRun.counts (h : IsRun plan call run)
    (does : c.Does run.run (past ++ opening) (.ok outcome) body) (before : outcomesIn opening = [])
    (after : outcomesIn closing = []) (hands_back : HandsBack call outcome closing result) :
    CountsRun c plan past call
      (opening ++ (body ++ .exchange (.observe (.run (endName outcome))) () :: closing)) result
      outcome where
  counts m := by
    rw [Metrics.runs_along, outcomesIn_append, outcomesIn_append, outcomesIn_cons_run, before, after,
      does.counts_no_end h.inner]
    rfl
  ran := ⟨run, opening, body, closing, h, rfl, does, hands_back⟩
  not_skipped := h.not_skipped does

end Runs

/-! ## Calls -/

section Calls

variable {c : Collaborators} {plan : BillingPlan} {past : Chronicle} {call : Call}
  {course : List Happening}

/-- The guard is asked for once. -/
theorem Call.asked_once {result : Except Crash (Except ServiceError call.Outcome)}
    (h : c.Does (call.program plan).run past result course) :
    .exchange .takeGuard true ∈ course ↔ .exchange .takeGuard false ∉ course := by
  obtain ⟨busy, body, same, -, prompt⟩ := call.program_guarded plan
  obtain ⟨aside, inside⟩ := prompt Request.Free (fun _ => Request.Inner.free) (fun _ => rfl)
  rw [same] at h
  have unasked {p : Action (Except ServiceError call.Outcome)} {before : Chronicle}
      {rest : List Happening} (does : c.Does p before result rest) (prompt : p.Prompt Request.Free none)
      (free : Bool) : .exchange .takeGuard free ∉ rest :=
    fun member => nomatch does.asked_only prompt.only member
  obtain ⟨others, arrivals, ⟨rest, rfl, left⟩ | ⟨rest, rfl, held⟩⟩ := h.guarded
  · simp [arrivals.not_mem_exchange, unasked left aside]
  · simp [arrivals.not_mem_exchange, unasked held inside]

/-- The ways in which a call that returns is counted. -/
inductive Tallies (c : Collaborators) (plan : BillingPlan) (past : Chronicle) : (call : Call) →
    List Happening → Except ServiceError call.Outcome → Prop where
  /-- The call has found the guard taken. -/
  | refused {call : Call} {course : List Happening} (refused : .exchange .takeGuard false ∈ course)
      (counts : ∀ m : Metrics, m.along course = call.countsRefusal m) :
      Tallies c plan past call course call.turnedAway
  /-- The call has held the guard, and its run has ended. -/
  | counted {call : Call} {course : List Happening} {result : Except ServiceError call.Outcome}
      {outcome : Except ServiceError RunOutcome} (held : .exchange .takeGuard true ∈ course)
      (counts : CountsRun c plan past call course result outcome)
      (begun : call = .byHand → tokensIn course ≠ 0) : Tallies c plan past call course result
  /-- A manual call has failed before its run. -/
  | unopened {course : List Happening} {e : ServiceError} (held : .exchange .takeGuard true ∈ course)
      (tokenless : tokensIn course = 0) (counts : outcomesIn course = [])
      (cause : .exchange .listAll (.error e) ∈ course ∨
        ∃ failures, .exchange (.seed failures) (.error e) ∈ course) :
      Tallies c plan past .byHand course (.error e)

/-- A scheduled call that returns is counted as it should be. -/
theorem Collaborators.Does.runScheduled_tallies {result : Except ServiceError RunOutcome}
    (h : c.Does (Billing.runScheduled plan).run past (.ok result) course) :
    Tallies c plan past .scheduled course result := by
  obtain ⟨others, arrivals, ⟨_, rfl, skipped⟩ | ⟨body, rfl, held⟩⟩ := h.guarded
  · obtain ⟨_, rfl, ended⟩ := skipped.observeThen
    obtain ⟨same, rfl⟩ := ended.pure
    cases same
    exact .refused (by simp) fun m => arrivals.along_takeGuard false
  rcases held.counted with ⟨_, ended, -⟩ | ⟨outcome, run, same, ran, rfl⟩
  · cases ended
  cases same
  have before : outcomesIn (others ++ [.exchange .takeGuard true]) = [] := by
    rw [outcomesIn_append, arrivals.outcomesIn]
    rfl
  have after : outcomesIn [.exchange .releaseGuard ()] = [] := rfl
  have counts := IsRun.scheduled.counts ran before after (.outcome result _)
  exact .counted (by simp) (by simpa using counts) nofun

/-- A manual call that cannot refill the queue is not counted. -/
theorem Reseeds.tallies {q : FailureQueue} {others opening : List Happening} {e : ServiceError}
    (h : Reseeds plan q opening (.error e)) (arrivals : Arrivals others) :
    Tallies c plan past .byHand
      (others ++ .exchange .takeGuard true :: (opening ++ [.exchange .releaseGuard ()])) (.error e) := by
  obtain ⟨uncounted, tokenless⟩ := h.aside
  refine .unopened (by simp) ?_ ?_ ?_
  · rw [tokensIn_append, arrivals.passive.tokensIn, tokensIn_cons_of_not_token rfl, tokensIn_append,
      tokenless]
    rfl
  · rw [outcomesIn_append, arrivals.outcomesIn, outcomesIn_cons_of_none rfl, outcomesIn_append,
      uncounted]
    rfl
  · refine h.cause.imp (fun member => ?_) fun ⟨failures, member⟩ => ⟨failures, ?_⟩
    · simp [member]
    · simp [member]

/-- A manual call that has refilled the queue counts its run once. -/
theorem Collaborators.Does.tallies {q : FailureQueue} {others opening run closing : List Happening}
    {submitted : Nat} {outcome : Except ServiceError RunOutcome}
    {result : Except ServiceError (List FailureRecord)}
    (ran : c.Does (Billing.attemptAndEscalate plan submitted).run
      (past ++ (others ++ .exchange .takeGuard true :: opening)) (.ok outcome) run)
    (arrivals : Arrivals others) (reseeds : Reseeds plan q opening (.ok submitted))
    (after : outcomesIn closing = []) (hands_back : HandsBack .byHand outcome closing result) :
    Tallies c plan past .byHand (others ++ .exchange .takeGuard true :: (opening ++
      (run ++ .exchange (.observe (.run (endName outcome))) () :: closing))) result := by
  have before : outcomesIn (others ++ .exchange .takeGuard true :: opening) = [] := by
    rw [outcomesIn_append, arrivals.outcomesIn, outcomesIn_cons_of_none rfl, reseeds.aside.1]
    rfl
  have counts := (IsRun.byHand submitted).counts ran before after hands_back
  have begun := ran.tokensIn_ne_zero
  refine .counted (by simp) (by simpa using counts) fun _ => ?_
  rw [tokensIn_append, tokensIn_cons_of_not_token rfl, tokensIn_append, tokensIn_append]
  omega

theorem Collaborators.Does.retryOutstanding_tallies {result : Except ServiceError (List FailureRecord)}
    (h : c.Does (Billing.retryOutstanding plan).run past (.ok result) course) :
    Tallies c plan past .byHand course result := by
  obtain ⟨others, arrivals, ⟨_, rfl, conflict⟩ | ⟨body, rfl, held⟩⟩ := h.guarded
  · obtain ⟨same, rfl⟩ := conflict.throw
    cases same
    exact .refused (by simp) fun m => arrivals.along_takeGuard false
  have parts := @Does.reseeds c _ _ plan (fun submitted => do
    remainingRows (← Billing.counted (Billing.attemptAndEscalate plan submitted))) _ held
  obtain ⟨e, same, reseeds⟩ | ⟨submitted, opening, _, rfl, reseeds, h⟩ := parts
  · cases same
    exact reseeds.tallies arrivals
  rw [List.append_assoc, List.append_assoc, List.singleton_append] at h
  rcases h.then with ⟨_, ended, -⟩ | ⟨e, ended, failed⟩ | ⟨outcome, _, closing, rfl, billed, h⟩
  · cases ended
  · cases ended
    rcases failed.counted with ⟨_, ended, -⟩ | ⟨_, run, same, ran, rfl⟩
    · cases ended
    cases same
    have quiet : outcomesIn [.exchange .releaseGuard ()] = [] := rfl
    simpa using ran.tallies arrivals reseeds quiet (.error e _)
  · rcases billed.counted with ⟨_, ended, -⟩ | ⟨_, run, same, ran, rfl⟩
    · cases ended
    cases same
    obtain ⟨_, same, lists⟩ := Does.lists h
    cases same
    have quiet : outcomesIn (closing ++ [.exchange .releaseGuard ()]) = [] := by
      rw [outcomesIn_append, lists.routine.signals.counted]
      rfl
    simpa using ran.tallies arrivals reseeds quiet
      (lists.handsBack ran.not_skipped [.exchange .releaseGuard ()])

/-- Every call that returns is counted as it should be. -/
theorem Call.tallies {result : Except ServiceError call.Outcome}
    (h : c.Does (call.program plan).run past (.ok result) course) :
    Tallies c plan past call course result := by
  cases call with
  | scheduled => exact Collaborators.Does.runScheduled_tallies h
  | byHand => exact Collaborators.Does.retryOutstanding_tallies h

/-- However a call returns, it is counted like this: whatever it is answered, and whatever rows others
append where it begins or asks for a token. Rows that others append at the other points where the
call waits (the instances, a page, a write, a submission, a notification) are left out. -/
theorem run_counted_once_iff {result : Except ServiceError call.Outcome}
    (h : c.Does (call.program plan).run past (.ok result) course) :
    Counts c plan past call course result := by
  have asked := Call.asked_once h
  cases Call.tallies h with
  | refused refused counts =>
    have unheld : .exchange .takeGuard true ∉ course := fun held => asked.1 held refused
    exact ⟨asked, fun _ => ⟨rfl, counts⟩, fun held => absurd held unheld,
      fun held => absurd held unheld⟩
  | counted held counts begun =>
    exact ⟨asked, fun refused => absurd refused (asked.1 held),
      fun _ => iff_of_true ⟨_, counts⟩ begun, fun _ by_hand tokenless => absurd tokenless (begun by_hand)⟩
  | @unopened course e held tokenless uncounted cause =>
    have same (m : Metrics) : (m.along course).runs = m.runs := by
      rw [Metrics.runs_along, uncounted]
      rfl
    refine ⟨asked, fun refused => absurd refused (asked.1 held), fun _ => iff_of_false ?_ ?_,
      fun _ _ _ => ⟨e, rfl, same, cause⟩⟩
    · rintro ⟨outcome, counts⟩
      have one := (same {}).symm.trans (counts.counts {})
      cases one
    · exact fun begun => begun rfl tokenless

end Calls

/-! ## A manual call that cannot read the queue -/

namespace Unlisted

def refused : ServiceError := ErrorKind.database.because "list_all call 1 failed"

def plan : BillingPlan := ⟨"", ⟨1, 0⟩, 0, false⟩

def collaborators : Collaborators :=
  { Collaborators.obliging {} [] ⟨0, 0⟩ (.ok "") (fun _ _ => .ok []) with
    refusal := fun _ r => match r with
      | .listAll => some refused
      | _ => none }

def course : List Happening :=
  [.exchange .takeGuard true, .exchange .listAll (.error refused), .exchange .releaseGuard ()]

/-- The manual call fails before it asks for a token. -/
theorem retry_does :
    collaborators.Does (Call.byHand.program plan).run [] (.ok (.error refused)) course := rfl

/-- The call has held the guard and failed, and no run is counted. -/
theorem failed_retry_uncounted :
    collaborators.Does (Call.byHand.program plan).run [] (.ok (.error refused)) course ∧
      (¬ ∃ outcome, CountsRun collaborators plan [] .byHand course (.error refused) outcome) ∧
      ∀ m : Metrics, (m.along course).runs = m.runs := by
  have held : .exchange .takeGuard true ∈ course := List.mem_cons_self
  have counts := run_counted_once_iff retry_does
  obtain ⟨_, -, uncounted, -⟩ := counts.unopened held rfl rfl
  exact ⟨retry_does, fun counted => (counts.held_iff held).1 counted rfl rfl, uncounted⟩

end Unlisted

end UsageBilling
