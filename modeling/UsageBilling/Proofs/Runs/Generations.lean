import Mathlib
import UsageBilling.Proofs.Courses.Submissions
import UsageBilling.Proofs.Instances

/-!
# Generations

With a queue that serves every request and a metering API that answers every
batch, each attempt of a scheduled run bills one generation of records: it
submits all of them, and what comes back is the next generation. The run ends
with the first generation that is empty, or when the attempts are used up.
-/

namespace UsageBilling

open Billing
open Calendar (Instant)

/-- Collaborators that list these instances, read this time, and never fail; the metering API
returns failures with messages that can be stored, and nobody else writes the queue. -/
structure Collaborators.Smooth (c : Collaborators) (listed : List ServiceInstance) (now : Instant) :
    Prop where
  refusal : ∀ past r, c.refusal past r = none
  arrivals : ∀ past, c.arrivals past = []
  instances : ∀ past, c.answer past .activeInstances = .ok listed
  clock : ∀ past, c.answer past .now = some now
  token : ∀ past, ∃ token, c.answer past .token = .ok token
  submission : ∀ past token batch, ∃ failures,
    c.answer past (.submit token batch) = .ok failures ∧ FailureQueue.Storable failures

/-- What happens around smooth collaborators. -/
def Happening.IsSmooth (listed : List ServiceInstance) (now : Instant) : Happening → Prop
  | .exchange .activeInstances answer => answer = .ok listed
  | .exchange .now answer => answer = some now
  | .exchange .token answer => ∃ token, answer = .ok token
  | .exchange (.submit _ _) answer => ∃ failures, answer = .ok failures ∧
      FailureQueue.Storable failures
  | .exchange (.page _ _) answer => ∃ page, answer = .ok page
  | .exchange (.seed failures) answer => FailureQueue.Storable failures → answer = .ok ()
  | .exchange .clear answer => answer = .ok ()
  | .arrival .. => False
  | _ => True

/-- Smooth happenings only. -/
def SmoothCourse (listed : List ServiceInstance) (now : Instant) (course : List Happening) : Prop :=
  ∀ h ∈ course, h.IsSmooth listed now

/-- Around smooth collaborators only smooth things happen. -/
theorem Collaborators.Does.smooth {c : Collaborators} {listed : List ServiceInstance}
    {now : Instant} {α : Type} {p : Action α} {past : Chronicle} {result : Except Crash α}
    {course : List Happening} (h : c.Does p past result course) (smooth : c.Smooth listed now) :
    SmoothCourse listed now course := by
  intro happening member
  obtain ⟨since, later, rfl⟩ := List.append_of_mem member
  have genuine := throughout_iff.1 h.genuine since happening later rfl
  have unrefused {α : Type} (r : Request) (answer : Except ServiceError α) :
      c.unlessRefused (past ++ since) r answer = answer := by
    rw [unlessRefused, smooth.refusal]
  match happening with
  | .arrival _ _ _ =>
    obtain ⟨before, row⟩ := genuine
    rw [smooth.arrivals] at row
    cases row
  | .ended _ => cases genuine
  | .exchange r answer =>
    obtain rfl := genuine
    cases r with
    | activeInstances => exact smooth.instances _
    | now => exact smooth.clock _
    | token => exact smooth.token _
    | submit token batch => exact smooth.submission _ _ _
    | page cursor limit => exact ⟨_, unrefused _ _⟩
    | seed failures =>
      intro storable
      obtain ⟨q, stored⟩ : ∃ q, (c.queueAt (past ++ since)).seed failures = .ok q :=
        ⟨_, FailureQueue.seed_eq_ok_iff.2 ⟨storable, rfl⟩⟩
      exact (unrefused _ _).trans (by rw [stored]; rfl)
    | clear => exact unrefused _ _
    | _ => trivial

section Smooth

variable {listed : List ServiceInstance} {now : Instant} {first second course : List Happening}

theorem smoothCourse_append :
    SmoothCourse listed now (first ++ second) ↔
      SmoothCourse listed now first ∧ SmoothCourse listed now second :=
  List.forall_mem_append

theorem smoothCourse_cons {h : Happening} :
    SmoothCourse listed now (h :: course) ↔
      h.IsSmooth listed now ∧ SmoothCourse listed now course :=
  List.forall_mem_cons

/-- In smooth happenings nobody else gets at the queue. -/
theorem SmoothCourse.undisturbed (smooth : SmoothCourse listed now course) : Undisturbed course :=
  fun _ _ _ member => smooth _ member

/-- A batch comes back with failures, whose messages can be stored. -/
theorem Submits.smooth {token : String} {payloads : List UsagePayload}
    {result : Except ServiceError (List UsageFailure)} (h : Submits token payloads course result)
    (smooth : SmoothCourse listed now course) :
    ∃ failures, result = .ok failures ∧ FailureQueue.Storable failures := by
  cases h with
  | nothing => exact ⟨[], rfl, nofun⟩
  | batch _ answer => exact smooth _ List.mem_cons_self

/-- A pass comes to its end, and everything that came back can be stored. -/
theorem Passes.smooth {token : String} {limit : Nat} {rows : List FailureRecord}
    {result : Except ServiceError Pass} (h : Passes token limit rows course result)
    (smooth : SmoothCourse listed now course) :
    ∃ found, result = .ok found ∧ FailureQueue.Storable found.failures := by
  induction h with
  | finished => exact ⟨{}, rfl, nofun⟩
  | unread cursor size e =>
    obtain ⟨_, ended⟩ := smooth _ List.mem_cons_self
    cases ended
  | refused _ _ submits =>
    obtain ⟨_, ended, -⟩ := submits.smooth (smoothCourse_append.1 smooth).2
    cases ended
  | page _ _ submits _ ih =>
    obtain ⟨-, smooth⟩ := smoothCourse_append.1 smooth
    obtain ⟨first, others⟩ := smoothCourse_append.1 smooth
    obtain ⟨failures, same, storable⟩ := submits.smooth first
    cases same
    obtain ⟨found, rfl, storable'⟩ := ih others
    refine ⟨_, rfl, fun f member => ?_⟩
    rcases List.mem_append.1 member with member | member
    · exact storable f member
    · exact storable' f member

/-- A queue that serves every request is refilled. -/
theorem Refills.smooth {failures : List UsageFailure}
    {answer : Except ServiceError (Attempt (List UsageFailure))} (h : Refills failures course answer)
    (smooth : SmoothCourse listed now course) (storable : FailureQueue.Storable failures) :
    ∃ attempt, answer = .ok attempt := by
  cases h with
  | cleared => exact ⟨_, rfl⟩
  | refilled => exact ⟨_, rfl⟩
  | uncleared e => cases smooth _ List.mem_cons_self
  | unfilled _ e => cases smooth _ List.mem_cons_self storable

/-- An attempt does not fail. -/
theorem Tries.smooth {plan : BillingPlan} {q : FailureQueue}
    {answer : Except ServiceError (Attempt (List UsageFailure))} (h : Tries plan q course answer)
    (smooth : SmoothCourse listed now course) : ∃ attempt, answer = .ok attempt := by
  cases h with
  | tokenless _ e =>
    obtain ⟨_, ended⟩ := smooth (.exchange .token (.error e)) (by simp)
    cases ended
  | broken _ passes =>
    obtain ⟨-, tail⟩ := smoothCourse_append.1 smooth
    obtain ⟨_, ended, -⟩ := passes.smooth (smoothCourse_cons.1 tail).2
    cases ended
  | passed _ passes _ refills =>
    obtain ⟨-, tail⟩ := smoothCourse_append.1 smooth
    obtain ⟨smooth_pass, rest⟩ := smoothCourse_append.1 (smoothCourse_cons.1 tail).2
    obtain ⟨_, same, storable⟩ := passes.smooth smooth_pass
    cases same
    exact refills.smooth (smoothCourse_append.1 rest).2 storable

end Smooth

/-! ## From generation to generation -/

/-- The attempts of a run from the queue `q` on; attempt `k`, counted from 0, bills generation `k`
and leaves generation `k + 1`, which is empty after the last attempt only, if ever. -/
structure Generations (plan : BillingPlan) (q : FailureQueue) (generation : Nat → List UsageFailure)
    (attempts : List (List Happening)) : Prop where
  token : ∀ attempt ∈ attempts, tokensIn attempt = 1
  submitted : ∀ k attempt, attempts[k]? = some attempt →
    batchesIn attempt = inBatches plan.batchSize ((generation k).map (·.payload))
  returned : ∀ k attempt, attempts[k]? = some attempt → returnedIn attempt = generation (k + 1)
  held : ∀ k ≤ attempts.length, (q.afterAll (attempts.take k).flatten).Holds (generation k)
  unfinished : ∀ k, 0 < k → k < attempts.length → generation k ≠ []

section Generations

variable {plan : BillingPlan} {q : FailureQueue} {before : List UsageFailure}
  {course : List Happening}

/-- A queue that holds some failures is submitted batch by batch, each batch in full. -/
theorem BillsQueue.submitted_of_holds (h : BillsQueue plan q course) (holds : q.Holds before) :
    batchesIn course = inBatches plan.batchSize (before.map (·.payload)) := by
  rw [h.submitted, payloadsOf_inBatches _ holds.undecodableOf, holds.payloadsOf,
    List.filter_eq_self]
  exact fun batch member => by simpa using ne_nil_of_mem_inBatches member

/-- Without attempts there is the generation that the queue holds. -/
theorem Generations.nil (generation : Nat → List UsageFailure) (holds : q.Holds (generation 0)) :
    Generations plan q generation [] where
  token := nofun
  submitted := by simp
  returned := by simp
  held := by simpa using holds
  unfinished := by simp

/-- The generation that comes first, and those after it. -/
def generationsFrom (first : List UsageFailure) (later : Nat → List UsageFailure) :
    Nat → List UsageFailure
  | 0 => first
  | k + 1 => later k

/-- One more attempt, before the others. -/
theorem Generations.cons {later : Nat → List UsageFailure} {attempts : List (List Happening)}
    (h : Generations plan (q.afterAll course) later attempts) (bills : BillsQueue plan q course)
    (holds : q.Holds before) (next : later 0 = returnedIn course)
    (unfinished : attempts ≠ [] → later 0 ≠ []) :
    Generations plan q (generationsFrom before later) (course :: attempts) where
  token := by
    rintro attempt (_ | ⟨_, member⟩)
    · exact bills.token
    · exact h.token attempt member
  submitted
    | 0, _, rfl => bills.submitted_of_holds holds
    | k + 1, attempt, at_k => h.submitted k attempt at_k
  returned
    | 0, _, rfl => next.symm
    | k + 1, attempt, at_k => h.returned k attempt at_k
  held
    | 0, _ => holds
    | k + 1, within => by
      rw [List.take_succ_cons, List.flatten_cons, FailureQueue.afterAll_append]
      exact h.held k (by simpa using within)
  unfinished
    | 1, _, within => unfinished (by rintro rfl; simp at within)
    | k + 2, _, within => h.unfinished (k + 1) (by omega) (Nat.lt_of_succ_lt_succ within)

/-- Waiting belongs to the attempt before it. -/
theorem BillsQueue.wait (h : BillsQueue plan q course) (ms : Nat) :
    BillsQueue plan q (course ++ [.exchange (.wait ms) ()]) := by
  refine ⟨?_, ?_, ?_⟩
  · rw [tokensIn_append, h.token]
    rfl
  · rw [batchesIn_append, h.submitted]
    exact List.append_nil _
  · rw [FailureQueue.afterAll_append, returnedIn_append]
    exact (List.append_nil (returnedIn course)).symm ▸ h.left

theorem returnedIn_wait (ms : Nat) :
    returnedIn (course ++ [.exchange (.wait ms) ()]) = returnedIn course := by
  rw [returnedIn_append]
  exact List.append_nil _

/-- Waiting for the next attempt changes nothing in the queue. -/
theorem FailureQueue.afterAll_wait (ms : Nat) :
    q.afterAll (course ++ [.exchange (.wait ms) ()]) = q.afterAll course := by
  simp [FailureQueue.after]

/-- An attempt that leaves something to retry and the wait after it, before the others. -/
theorem Generations.again {later : Nat → List UsageFailure} {attempts : List (List Happening)}
    (h : Generations plan (q.afterAll course) later attempts) (bills : BillsQueue plan q course)
    (holds : q.Holds before) (next : later 0 = returnedIn course)
    (some_left : returnedIn course ≠ []) (ms : Nat) :
    Generations plan q (generationsFrom before later)
      ((course ++ [.exchange (.wait ms) ()]) :: attempts) :=
  .cons ((FailureQueue.afterAll_wait ms).symm ▸ h) (bills.wait ms) holds
    (next.trans (returnedIn_wait ms).symm) fun _ => next ▸ some_left

/-- The attempts take the generations one by one, to the first empty one or to the limit. -/
theorem Retries.generations {listed : List ServiceInstance} {now : Instant} {more number : Nat}
    {answer : Except ServiceError (RetryOutcome (List UsageFailure))}
    (h : Retries plan more number q course answer) (smooth : SmoothCourse listed now course)
    (holds : q.Holds before) :
    ∃ attempts generation, course = attempts.flatten ∧ generation 0 = before ∧
      Generations plan q generation attempts ∧ 0 < attempts.length ∧ attempts.length ≤ more + 1 ∧
      ((generation attempts.length = [] ∧
          answer = .ok (.succeeded (number + attempts.length - 1))) ∨
        (generation attempts.length ≠ [] ∧ attempts.length = more + 1 ∧
          answer = .ok (.exhausted (number + more) (generation attempts.length)))) := by
  induction h generalizing before with
  | failed tries =>
    obtain ⟨_, ended⟩ := tries.smooth smooth
    cases ended
  | @succeeded more number q course tries =>
    obtain ⟨bills, ended⟩ := tries.billsQueue smooth.undisturbed
    have empty := Attempt.success_eq_leaving.1 ended
    refine ⟨[course], _, by simp, rfl, .cons (.nil (fun _ => []) ?_) bills holds empty.symm nofun,
      by simp, by simp, .inl ⟨rfl, by simp⟩⟩
    exact empty ▸ bills.left
  | @exhausted number q course left tries =>
    obtain ⟨bills, ended⟩ := tries.billsQueue smooth.undisturbed
    obtain ⟨rfl, some_left⟩ := Attempt.retryable_eq_leaving.1 ended
    exact ⟨[course], _, by simp, rfl,
      .cons (.nil (fun _ => returnedIn course) bills.left) bills holds rfl nofun,
      by simp, by simp, .inr ⟨some_left, rfl, rfl⟩⟩
  | @again more number q first rest left result tries retries ih =>
    obtain ⟨smooth_first, tail⟩ := smoothCourse_append.1 smooth
    obtain ⟨bills, ended⟩ := tries.billsQueue smooth_first.undisturbed
    obtain ⟨rfl, some_left⟩ := Attempt.retryable_eq_leaving.1 ended
    obtain ⟨attempts, later, rfl, next, generations, positive, bounded, result⟩ :=
      ih (smoothCourse_cons.1 tail).2 bills.left
    refine ⟨_, _, by simp, rfl, generations.again bills holds next some_left plan.retry.backoff,
      by simp, by simpa using bounded, ?_⟩
    rcases result with ⟨empty, rfl⟩ | ⟨nonempty, full, rfl⟩
    · refine .inl ⟨empty, ?_⟩
      simp only [List.length_cons]
      congr 2
      omega
    · refine .inr ⟨nonempty, by simpa using full, ?_⟩
      simp only [List.length_cons, generationsFrom]
      congr 2
      omega

/-- All attempts of a run take the generations one by one, and what follows them leaves the queue
alone. -/
theorem Bills.generations {listed : List ServiceInstance} {now : Instant}
    {outcome : Except ServiceError RunOutcome} (h : Bills plan before.length q course outcome)
    (smooth : SmoothCourse listed now course) (holds : q.Holds before) :
    ∃ attempts generation closing, course = attempts.flatten ++ closing ∧ generation 0 = before ∧
      Passive closing ∧ (∀ q : FailureQueue, q.afterAll closing = q) ∧
      Generations plan q generation attempts ∧ 0 < attempts.length ∧
      attempts.length ≤ max plan.retry.maxAttempts 1 ∧
      ((generation attempts.length = [] ∧
          outcome = .ok (.succeeded attempts.length before.length)) ∨
        (generation attempts.length ≠ [] ∧ attempts.length = max plan.retry.maxAttempts 1 ∧
          outcome = .ok (.escalated attempts.length (generation attempts.length).length))) := by
  cases h with
  | failed retries =>
    obtain ⟨_, _, _, _, _, _, _, ⟨-, ended⟩ | ⟨-, -, ended⟩⟩ := retries.generations smooth holds <;>
      cases ended
  | succeeded retries =>
    obtain ⟨attempts, generation, rfl, first, generations, positive, bounded, ended⟩ :=
      retries.generations smooth holds
    refine ⟨attempts, generation, [], (List.append_nil _).symm, first, .nil, fun _ => rfl,
      generations, positive, by omega, .inl ?_⟩
    obtain ⟨empty, ended⟩ | ⟨-, -, ended⟩ := ended <;> cases ended
    exact ⟨empty, by rw [Nat.add_sub_cancel_left]⟩
  | @escalated _ escalation _ left retries dispatches =>
    obtain ⟨attempts, generation, rfl, first, generations, positive, bounded, ended⟩ :=
      retries.generations (smoothCourse_append.1 smooth).1 holds
    refine ⟨attempts, generation, escalation, rfl, first, dispatches.passive, dispatches.afterAll,
      generations, positive, by omega, .inr ?_⟩
    obtain ⟨-, ended⟩ | ⟨some_left, full, ended⟩ := ended <;> cases ended
    have all_used : attempts.length = max plan.retry.maxAttempts 1 := by omega
    refine ⟨some_left, all_used, ?_⟩
    congr 3
    omega

end Generations

/-! ## Scheduled runs -/

/-- No token is asked for and no batch submitted. -/
def Idle (course : List Happening) : Prop :=
  tokensIn course = 0 ∧ batchesIn course = []

theorem Passive.idle {course : List Happening} (h : Passive course) : Idle course :=
  ⟨h.tokensIn, h.batchesIn⟩

/-- A scheduled run fills the queue with the records of the instances. -/
theorem Schedules.smooth {plan : BillingPlan} {q : FailureQueue} {listed : List ServiceInstance}
    {now : Instant} {course : List Happening}
    {result : Except Crash (Except ServiceError RunOutcome)} (h : Schedules plan q course result)
    (smooth : SmoothCourse listed now course) (representable : ∀ i ∈ listed, i.Representable) :
    ∃ opening run first outcome,
      course = opening ++ (run ++ [.exchange (.observe (.run (endName outcome))) ()]) ∧
      Idle opening ∧ List.Forall₂ (Initial now) listed first ∧
      (q.afterAll opening).Holds first ∧
      Bills plan first.length (q.afterAll opening) run outcome ∧ result = .ok outcome := by
  cases h with
  | broken seeds =>
    cases seeds with
    | unclocked instances => cases smooth (.exchange .now none) (by simp)
    | @overflown instances reading clock reason scheduled =>
      cases smooth (.exchange .activeInstances (.ok instances)) (by simp)
      obtain ⟨failures, computed⟩ :=
        scheduledFailures_of_representable representable reading clock
      rw [computed] at scheduled
      cases scheduled
  | @unseeded _ e seeds =>
    cases seeds with
    | unlisted => cases smooth (.exchange .activeInstances (.error e)) (by simp)
    | @unstored instances reading clock failures scheduled =>
      cases smooth (.exchange (.seed failures) (.error e)) (by simp)
        (storable_of_initial (scheduledFailures_initial scheduled))
  | billed seeds bills =>
    cases seeds with
    | @seeded instances reading clock failures scheduled storable =>
      cases smooth (.exchange .activeInstances (.ok instances)) (by simp)
      cases smooth (.exchange .now (some reading)) (by simp)
      exact ⟨_, _, failures, _, rfl, ⟨rfl, rfl⟩, scheduledFailures_initial scheduled,
        q.holds_after_seed storable, bills, rfl⟩

/-- A run of these instances at this time, generation by generation: first the records of the
instances in ascending order of ids, then what came back from the attempt before. It succeeds, with
an empty queue, as soon as nothing comes back, and no attempt follows. -/
def BilledByGenerations (c : Collaborators) (plan : BillingPlan) (instances : List ServiceInstance)
    (now : Instant) (course : List Happening)
    (result : Except Crash (Except ServiceError RunOutcome)) : Prop :=
  ∃ listed opening closing attempts generation,
    listed.Perm instances ∧ InstanceStore.Ordered listed ∧
    List.Forall₂ (Initial now) listed (generation 0) ∧
    course = opening ++ (attempts.flatten ++ closing) ∧ Idle opening ∧ Idle closing ∧
    Generations plan (c.queueAt opening) generation attempts ∧
    0 < attempts.length ∧ attempts.length ≤ max plan.retry.maxAttempts 1 ∧
    ((generation attempts.length = [] ∧ (c.queueAt course).rows = [] ∧
        result = .ok (.ok (.succeeded attempts.length (generation 0).length))) ∨
      (generation attempts.length ≠ [] ∧ attempts.length = max plan.retry.maxAttempts 1 ∧
        (c.queueAt course).Holds (generation attempts.length) ∧
        result = .ok (.ok (.escalated attempts.length (generation attempts.length).length))))

/-- A scheduled run on any queue, with any answers of the metering API, is billed generation by
generation. -/
theorem runScheduled_billedByGenerations {c : Collaborators} {plan : BillingPlan}
    {instances : List ServiceInstance} {now : Instant} {course : List Happening}
    {result : Except Crash (Except ServiceError RunOutcome)} (reachable : c.queue.Reachable)
    (distinct : (instances.map (·.instanceId)).Nodup)
    (representable : ∀ i ∈ instances, i.Representable)
    (smooth : c.Smooth (InstanceStore.ofList instances).rows now)
    (h : c.Does (runScheduled plan).run [] result course) (unspent : (c.queueAt course).Unspent) :
    BilledByGenerations c plan instances now course result := by
  have perm := InstanceStore.ofList_perm distinct
  have smooth_course := h.smooth smooth
  have genuine := h.genuine
  cases h.runScheduled reachable.numbered unspent with
  | busy arrivals _ =>
    obtain rfl := arrivals.eq_nil smooth_course.undisturbed
    cases genuine.1
  | @held others body _ arrivals schedules =>
    obtain rfl := arrivals.eq_nil smooth_course.undisturbed
    have smooth_body := (smoothCourse_append.1 (smoothCourse_cons.1 smooth_course).2).1
    obtain ⟨seeding, run, first, outcome, rfl, idle, initial, holds, bills, rfl⟩ :=
      schedules.smooth smooth_body fun i member => representable i (perm.mem_iff.1 member)
    have smooth_run := (smoothCourse_append.1 (smoothCourse_append.1 smooth_body).2).1
    have opened : c.queueAt (.exchange .takeGuard true :: seeding) =
        (c.queueAt []).afterAll seeding := by
      rfl
    have idle_opening : Idle (.exchange .takeGuard true :: seeding) := idle
    let counted : Happening := .exchange (.observe (.run (endName outcome))) ()
    have uneventful : Passive [counted, .exchange .releaseGuard ()] :=
      .cons ⟨rfl, rfl, id⟩ (.cons ⟨rfl, rfl, id⟩ .nil)
    obtain ⟨attempts, generation, closing, rfl, rfl, quiet, unchanged, generations, positive,
      bounded, ended⟩ := bills.generations smooth_run holds
    have held := generations.held attempts.length (Nat.le_refl _)
    rw [List.take_length] at held
    have at_end : c.queueAt ([] ++ .exchange .takeGuard true :: (seeding ++
        (attempts.flatten ++ closing ++ [counted]) ++ [.exchange .releaseGuard ()])) =
        ((c.queueAt []).afterAll seeding).afterAll attempts.flatten := by
      simp [Collaborators.queueAt, FailureQueue.after, unchanged, counted]
    refine ⟨_, .exchange .takeGuard true :: seeding,
      closing ++ [counted, .exchange .releaseGuard ()], attempts, generation, perm,
      InstanceStore.ofList_ordered _, initial, by simp [counted], idle_opening,
      (quiet.append uneventful).idle, opened ▸ generations, positive, bounded, ?_⟩
    rw [at_end]
    rcases ended with ⟨empty, rfl⟩ | ⟨some_left, full, rfl⟩
    · rw [empty, FailureQueue.holds_nil_iff] at held
      exact .inl ⟨empty, held, rfl⟩
    · exact .inr ⟨some_left, full, held, rfl⟩

/-! ## A run whose first attempt bills one record of three -/

/-- The first attempt bills one record only, the others bill all. -/
def turnDownFirst (past : Chronicle) (batch : List UsagePayload) :
    Except ServiceError (List UsageFailure) :=
  .ok <| if tokensIn past = 1 then
    (batch.filter (·.instanceId ≠ "i-2")).map (.stamped · "" ⟨0, 0⟩)
  else []

theorem turnDownFirst_smooth (queue : FailureQueue) (instances : List ServiceInstance)
    (now : Instant) : (Collaborators.obliging queue instances now (.ok "") turnDownFirst).Smooth
      (InstanceStore.ofList instances).rows now where
  refusal _ _ := rfl
  arrivals _ := rfl
  instances _ := rfl
  clock _ := rfl
  token _ := ⟨"", rfl⟩
  submission past _ batch := by
    refine ⟨_, rfl, fun f member => ?_⟩
    split at member
    · obtain ⟨p, -, rfl⟩ := List.mem_map.1 member
      exact (by decide : isStorable "" = true)
    · cases member

namespace TurnedDownOnce

/-- Up to three attempts, in batches of two. -/
def plan : BillingPlan := ⟨"", ⟨3, 0⟩, 2, false⟩

def collaborators : Collaborators := .obliging {} Trio.instances ⟨0, 0⟩ (.ok "") turnDownFirst

theorem account_run : collaborators.account (collaborators.perform (runScheduled plan).run []) =
    (.ok (.ok (.succeeded 2 3)), 5, [["i-1", "i-2"], ["i-3"], ["i-1", "i-3"]]) := by
  cbv

/-- The second generation is what two batches of the first one have left, and it is one batch. -/
theorem run_billedByGenerations : ∃ course,
    collaborators.Does (runScheduled plan).run [] (.ok (.ok (.succeeded 2 3))) course ∧
      BilledByGenerations collaborators plan Trio.instances ⟨0, 0⟩ course
        (.ok (.ok (.succeeded 2 3))) ∧
      (batchesIn course).map (·.map (·.instanceId)) = [["i-1", "i-2"], ["i-3"], ["i-1", "i-3"]] := by
  obtain ⟨course, does, unspent, submitted⟩ :=
    Collaborators.exists_does_of_account account_run (by decide)
  exact ⟨course, does, runScheduled_billedByGenerations .empty Trio.distinct Trio.representable
    (turnDownFirst_smooth _ _ _) does unspent, submitted⟩

end TurnedDownOnce

end UsageBilling
