import Mathlib
import UsageBilling.Proofs.Courses.Errors
import UsageBilling.Proofs.Runs.Accounting
import UsageBilling.Proofs.Runs.Generations

/-!
# Runs that break off

Wherever a run meets an error, the call returns this error, and the queue stays
as the call has last written it: filled with the first generation of records, or
refilled with what the last complete attempt left, or untouched if the queue
could not be filled. Nobody is told about failures, nothing more is asked of the
metering API and the queue, and the run guard is given back.
-/

namespace UsageBilling

open Billing

/-! ## An attempt that fails -/

section Attempts

variable {plan : BillingPlan} {q : FailureQueue} {course : List Happening} {e : ServiceError}

/-- A submission does not write the queue. -/
theorem Submits.unwritten {token : String} {payloads : List UsagePayload}
    {result : Except ServiceError (List UsageFailure)} (h : Submits token payloads course result) :
    ∀ happening ∈ course, ¬ happening.IsWrite := by
  cases h with
  | nothing => exact List.forall_mem_nil _
  | batch => exact List.forall_mem_singleton.2 id

/-- A pass does not write the queue. -/
theorem Passes.unwritten {token : String} {limit : Nat} {rows : List FailureRecord}
    {result : Except ServiceError Pass} (h : Passes token limit rows course result) :
    ∀ happening ∈ course, ¬ happening.IsWrite := by
  induction h with
  | finished quiet => exact quiet.passive.unwritten
  | unread => exact List.forall_mem_singleton.2 id
  | refused _ quiet submits =>
    exact List.forall_mem_append.2 ⟨quiet.passive.unwritten, submits.unwritten⟩
  | page _ quiet submits _ ih =>
    exact List.forall_mem_append.2 ⟨quiet.passive.unwritten,
      List.forall_mem_append.2 ⟨submits.unwritten, ih⟩⟩

/-- A write that fails is none. -/
theorem Refills.unwritten {failures : List UsageFailure}
    (h : Refills failures course (.error e)) : ∀ happening ∈ course, ¬ happening.IsWrite := by
  cases h <;> exact List.forall_mem_singleton.2 id

/-- An attempt that fails has not written the queue. -/
theorem Tries.unwritten (h : Tries plan q course (.error e)) :
    ∀ happening ∈ course, ¬ happening.IsWrite := by
  cases h with
  | tokenless arrivals =>
    exact List.forall_mem_append.2 ⟨arrivals.passive.unwritten,
      List.forall_mem_cons.2 ⟨id, (passive_observe _).unwritten⟩⟩
  | broken arrivals passes =>
    exact List.forall_mem_append.2 ⟨arrivals.passive.unwritten,
      List.forall_mem_cons.2 ⟨id, passes.unwritten⟩⟩
  | passed arrivals passes reports refills =>
    exact List.forall_mem_append.2 ⟨arrivals.passive.unwritten,
      List.forall_mem_cons.2 ⟨id, List.forall_mem_append.2 ⟨passes.unwritten,
        List.forall_mem_append.2 ⟨reports.passive.unwritten, refills.unwritten⟩⟩⟩⟩

/-- Each attempt asks for one token, however it ends. -/
theorem Tries.tokensIn {answer : Except ServiceError (Attempt (List UsageFailure))}
    (h : Tries plan q course answer) : tokensIn course = 1 := by
  cases h with
  | tokenless arrivals =>
    rw [tokensIn_append, arrivals.passive.tokensIn]
    rfl
  | broken arrivals passes =>
    rw [tokensIn_append, tokensIn_cons_token, arrivals.passive.tokensIn, passes.tokensIn]
  | passed arrivals passes reports refills =>
    rw [tokensIn_append, tokensIn_cons_token, tokensIn_append, tokensIn_append,
      arrivals.passive.tokensIn, passes.tokensIn, reports.passive.tokensIn,
      refills.submits_nothing.2]

/-- Attempts that end in an error: some are complete, generation by generation, and the one after
them fails. -/
theorem Retries.broken {before : List UsageFailure} {more number : Nat}
    {answer : Except ServiceError (RetryOutcome (List UsageFailure))}
    (h : Retries plan more number q course answer) (ended : answer = .error e)
    (alone : Undisturbed course) (holds : q.Holds before) :
    ∃ attempts generation failing, course = attempts.flatten ++ failing ∧ generation 0 = before ∧
      Generations plan q generation attempts ∧ Plain plan.product attempts.flatten ∧
      Tries plan (q.afterAll attempts.flatten) failing (.error e) := by
  induction h generalizing before with
  | failed tries =>
    cases ended
    exact ⟨[], fun _ => before, _, rfl, rfl, .nil _ holds, .nil, tries⟩
  | succeeded => cases ended
  | exhausted => cases ended
  | @again more number q first rest left result tries retries ih =>
    obtain ⟨bills, attempt⟩ := tries.billsQueue (alone.part fun h => List.mem_append_left _)
    obtain ⟨rfl, some_left⟩ := Attempt.retryable_eq_leaving.1 attempt
    obtain ⟨attempts, later, failing, rfl, next, generations, plain, fails⟩ := ih ended
      (alone.part fun h member => List.mem_append_right _ (List.mem_cons_of_mem _ member)) bills.left
    have plain_first : Plain plan.product (first ++ [.exchange (.wait plan.retry.backoff) ()]) :=
      tries.ends.plain.append (.cons ⟨rfl, nofun⟩ .nil)
    refine ⟨_, _, failing, by simp, rfl,
      generations.again bills holds next some_left plan.retry.backoff, ?_, ?_⟩
    · rw [List.flatten_cons]
      exact plain_first.append plain
    · rwa [List.flatten_cons, FailureQueue.afterAll_append, FailureQueue.afterAll_wait]

/-- As many tokens as attempts. -/
theorem Generations.tokensIn {generation : Nat → List UsageFailure}
    {attempts : List (List Happening)} (h : Generations plan q generation attempts) :
    tokensIn attempts.flatten = attempts.length := by
  have each := h.token
  clear h
  induction attempts with
  | nil => rfl
  | cons attempt attempts ih =>
    rw [List.flatten_cons, tokensIn_append, each _ List.mem_cons_self,
      ih fun attempt member => each attempt (List.mem_cons_of_mem _ member), List.length_cons,
      Nat.add_comm]

end Attempts

/-! ## A call that fails -/

/-- The course of a call that fails with an error: the queue cannot be filled, or an attempt
fails. -/
inductive FailsIn (plan : BillingPlan) (q : FailureQueue) (call : Call) (e : ServiceError) :
    List Happening → Prop where
  | unfilled {opening closing : List Happening} (opens : Opens plan q call opening none)
      (breaks : Breaks plan.product e opening) (quiet : Closing closing) :
      FailsIn plan q call e
        (.exchange .takeGuard true :: (opening ++ (closing ++ [.exchange .releaseGuard ()])))
  | unfinished {opening run closing : List Happening} {submitted more : Nat}
      (opens : Opens plan q call opening (some submitted)) (plain : Plain plan.product opening)
      (retries : Retries plan more 1 (q.afterAll opening) run (.error e))
      (breaks : Breaks plan.product e run) (quiet : Closing closing) :
      FailsIn plan q call e
        (.exchange .takeGuard true ::
          (opening ++ (run ++ (closing ++ [.exchange .releaseGuard ()]))))

section Calls

variable {plan : BillingPlan} {q : FailureQueue} {course : List Happening} {e : ServiceError}

/-- Nothing fails in the course. -/
def Unfailing (course : List Happening) : Prop :=
  ∀ h ∈ course, h.error? = none

theorem Plain.unfailing {product : String} (h : Plain product course) : Unfailing course :=
  fun happening member => (h happening member).1

theorem Unfailing.append {first second : List Happening} (h : Unfailing first)
    (h' : Unfailing second) : Unfailing (first ++ second) :=
  List.forall_mem_append.2 ⟨h, h'⟩

theorem Unfailing.cons {h : Happening} (fine : h.error? = none) (rest : Unfailing course) :
    Unfailing (h :: course) :=
  List.forall_mem_cons.2 ⟨fine, rest⟩

theorem closing_observe (o : Observation) : Closing [.exchange (.observe o) ()] :=
  .cons trivial .nil

theorem closing_releaseGuard : Closing [.exchange .releaseGuard ()] :=
  .cons trivial .nil

/-- A run that comes to its end meets no error. -/
theorem Bills.unfailing {submitted : Nat} {outcome : RunOutcome}
    (h : Bills plan submitted q course (.ok outcome)) : Unfailing course := by
  cases h with
  | succeeded retries => exact retries.ends.plain.unfailing
  | escalated retries dispatches =>
    refine retries.ends.plain.unfailing.append ?_
    cases dispatches <;> exact .cons rfl (.cons rfl (List.forall_mem_nil _))

/-- The list of the remaining rows is no part of the run, and fails none. -/
theorem Lists.unfailing {outcome : RunOutcome} {result : Except ServiceError (List FailureRecord)}
    (h : Lists q outcome course result) : Unfailing course := by
  cases h with
  | remaining => exact .cons rfl (List.forall_mem_nil _)
  | unlisted => exact .cons rfl (List.forall_mem_nil _)
  | nothing => exact List.forall_mem_nil _

/-- A run that fails breaks off in one of its attempts. -/
theorem Bills.broken {submitted : Nat} (h : Bills plan submitted q course (.error e)) :
    ∃ more, Retries plan more 1 q course (.error e) ∧
      (Unfailing course ∨ Breaks plan.product e course) := by
  cases h with
  | failed retries =>
    refine ⟨_, retries, retries.ends.imp Plain.unfailing ?_⟩
    rintro ⟨_, same, breaks⟩
    cases same
    exact breaks

/-- A scheduled call that holds the guard meets no error, or fails with it. -/
theorem Schedules.failsIn {result : Except Crash (Except ServiceError RunOutcome)}
    (h : Schedules plan q course result) :
    Unfailing course ∨ ∃ e, result = .ok (.error e) ∧ FailsIn plan q .scheduled e
      (.exchange .takeGuard true :: (course ++ [.exchange .releaseGuard ()])) := by
  have counted (name : String) : Unfailing [.exchange (.observe (.run name)) ()] :=
    .cons rfl (List.forall_mem_nil _)
  cases h with
  | @broken _ reason seeds =>
    have ends : Ends plan.product course (.error reason : Except Crash (Except ServiceError Nat)) :=
      seeds.ends
    rcases ends with plain | ⟨_, ended, -⟩
    · exact .inl plain.unfailing
    · cases ended
  | @unseeded opening e seeds =>
    have ends : Ends plan.product opening (.ok (.error e) : Except Crash (Except ServiceError Nat)) :=
      seeds.ends
    rcases ends with plain | ⟨_, same, breaks⟩
    · exact .inl (plain.unfailing.append (counted _))
    · cases same
      refine .inr ⟨e, rfl, ?_⟩
      rw [List.append_assoc]
      exact .unfilled (.scheduled seeds) breaks (closing_observe _)
  | @billed opening run submitted outcome seeds bills =>
    have plain : Plain plan.product opening := seeds.ends.plain
    cases outcome with
    | ok outcome =>
      exact .inl (plain.unfailing.append (bills.unfailing.append (counted _)))
    | error e =>
      obtain ⟨more, retries, unfailing | breaks⟩ := bills.broken
      · exact .inl (plain.unfailing.append (unfailing.append (counted _)))
      · refine .inr ⟨e, rfl, ?_⟩
        rw [List.append_assoc, List.append_assoc]
        exact .unfinished (.scheduled seeds) plain retries breaks (closing_observe _)

/-- A manual call that holds the guard meets no error in its run, or fails with it. -/
theorem RetriesByHand.failsIn {result : Except ServiceError (List FailureRecord)}
    (h : RetriesByHand plan q course result) :
    Unfailing course ∨ ∃ e, result = .error e ∧ FailsIn plan q .byHand e
      (.exchange .takeGuard true :: (course ++ [.exchange .releaseGuard ()])) := by
  cases h with
  | @unseeded opening e reseeds =>
    rcases reseeds.ends with plain | ⟨_, same, breaks⟩
    · exact .inl plain.unfailing
    · cases same
      exact .inr ⟨e, rfl, .unfilled (.byHand reseeds) breaks .nil⟩
  | @failed opening run submitted e reseeds bills =>
    have plain : Plain plan.product opening := reseeds.ends.plain
    obtain ⟨more, retries, unfailing | breaks⟩ := bills.broken
    · exact .inl (plain.unfailing.append (unfailing.append (.cons rfl (List.forall_mem_nil _))))
    · refine .inr ⟨e, rfl, ?_⟩
      rw [List.append_assoc, List.append_assoc]
      exact .unfinished (.byHand reseeds) plain retries breaks (closing_observe _)
  | billed reseeds bills lists =>
    exact .inl (reseeds.ends.plain.unfailing.append
      (bills.unfailing.append (.cons rfl lists.unfailing)))

/-- A call under the guard meets no error in its run, or fails with it. -/
theorem Guards.failsIn {ρ : Type} {Busy : List Happening → ρ → Prop}
    {Holds : FailureQueue → List Happening → ρ → Prop} (Fails : ServiceError → ρ → Prop)
    {call : Call} {result : ρ} (h : Guards Busy Holds q course result) (alone : Undisturbed course)
    (busy : ∀ {closing : List Happening}, Busy closing result → Unfailing closing)
    (held : ∀ {body : List Happening}, Holds q body result → Unfailing body ∨
      ∃ e, Fails e result ∧ FailsIn plan q call e
        (.exchange .takeGuard true :: (body ++ [.exchange .releaseGuard ()]))) :
    Unfailing course ∨ ∃ e, Fails e result ∧ FailsIn plan q call e course := by
  cases h with
  | busy arrivals leaves =>
    obtain rfl := arrivals.eq_nil alone
    exact .inl (.cons rfl (busy leaves))
  | held arrivals holds =>
    obtain rfl := arrivals.eq_nil alone
    refine (held holds).imp_left fun unfailing => ?_
    exact .cons rfl (unfailing.append (.cons rfl (List.forall_mem_nil _)))

/-- The course of a call that fails breaks off with its error. -/
theorem FailsIn.breaks {call : Call} (h : FailsIn plan q call e course) :
    Breaks plan.product e course := by
  have taken : Plain plan.product [.exchange .takeGuard true] := .cons ⟨rfl, nofun⟩ .nil
  cases h with
  | unfilled _ breaks quiet =>
    exact taken.breaks (breaks.closing (quiet.append closing_releaseGuard))
  | unfinished _ plain _ breaks quiet =>
    exact taken.breaks (plain.breaks (breaks.closing (quiet.append closing_releaseGuard)))

/-- A call that fails has given the guard back. -/
theorem FailsIn.released {call : Call} (h : FailsIn plan q call e course) (held : Bool) :
    course.foldl guardAfter held = false := by
  cases h <;> simp [guardAfter]

end Calls

/-- The queue as a call leaves it that fails at the happening `h`, after `since`: it is the one that
the last write of the call has left. -/
inductive KeptAsWritten (c : Collaborators) (plan : BillingPlan) (past : Chronicle)
    (since : List Happening) (h : Happening) (later : List Happening) : Prop where
  /-- The call has not filled the queue; it is the one from before the call. -/
  | untouched (tokenless : tokensIn (since ++ [h]) = 0)
      (unwritten : ∀ g ∈ since ++ h :: later, ¬ g.IsWrite)
      (same : c.queueAt (past ++ (since ++ h :: later)) = c.queueAt past)
  /-- The call has filled the queue and some attempts are complete; it is the queue from before the
  one that fails, with the generation that this one was to bill. -/
  | generation {opening started : List Happening} {attempts : List (List Happening)}
      {generation : Nat → List UsageFailure}
      (place : since ++ [h] = opening ++ (attempts.flatten ++ started))
      (filled : .exchange (.seed (generation 0)) (.ok ()) ∈ opening)
      (generations : Generations plan (c.queueAt (past ++ opening)) generation attempts)
      (number : tokensIn (since ++ [h]) = attempts.length + 1)
      (unwritten : ∀ g ∈ started ++ later, ¬ g.IsWrite)
      (same : c.queueAt (past ++ (since ++ h :: later)) =
        c.queueAt (past ++ (opening ++ attempts.flatten)))
      (left : (c.queueAt (past ++ (since ++ h :: later))).Holds (generation attempts.length))

/-- The call takes this course and returns this error. -/
def Collaborators.FailsWith (c : Collaborators) (plan : BillingPlan) (past : Chronicle)
    (course : List Happening) (e : ServiceError) : Call → Prop
  | .scheduled => c.Does (runScheduled plan).run past (.ok (.error e)) course
  | .byHand => c.Does (retryOutstanding plan).run past (.ok (.error e)) course

/-- What a call does that meets the error `e` at the happening `h`, after `since`. -/
structure Aborts (c : Collaborators) (plan : BillingPlan) (past : Chronicle) (call : Call)
    (since : List Happening) (h : Happening) (later : List Happening) (e : ServiceError) : Prop where
  returned : c.FailsWith plan past (since ++ h :: later) e call
  kept : KeptAsWritten c plan past since h later
  /-- No failure is told to anyone. -/
  untold : ∀ failures answer, .exchange (.notify .main (.ofFailures plan.product failures)) answer ∉
    since ++ h :: later
  /-- No token, no submission and no write follows, not even one that is refused. -/
  idle : Closing later
  released : (past ++ (since ++ h :: later)).foldl guardAfter false = false

section Aborted

variable {c : Collaborators} {plan : BillingPlan} {past : Chronicle} {call : Call}
  {course since later : List Happening} {h : Happening} {e : ServiceError}

/-- A call meets no error, or it fails with the first one. -/
theorem Collaborators.Takes.failsIn {failed : Bool} (takes : c.Takes plan past failed course call)
    (numbered : (c.queueAt past).Numbered) (unspent : (c.queueAt (past ++ course)).Unspent)
    (alone : Undisturbed course) :
    Unfailing course ∨
      ∃ e, c.FailsWith plan past course e call ∧ FailsIn plan (c.queueAt past) call e course := by
  cases call with
  | scheduled =>
    obtain ⟨result, does, -⟩ := takes
    have fails : Unfailing course ∨ ∃ e, result = .ok (.error e) ∧
        FailsIn plan (c.queueAt past) .scheduled e course := by
      refine Guards.failsIn (fun e result => result = .ok (.error e))
        (does.runScheduled numbered unspent) alone ?_ Schedules.failsIn
      rintro _ ⟨rfl, -⟩
      exact .cons rfl (List.forall_mem_nil _)
    refine fails.imp_right ?_
    rintro ⟨e, rfl, breaks_off⟩
    exact ⟨e, does, breaks_off⟩
  | byHand =>
    obtain ⟨result, does, -⟩ := takes
    obtain ⟨answer, rfl, guards⟩ := does.retryOutstanding numbered unspent
    have fails : Unfailing course ∨ ∃ e, answer = .error e ∧
        FailsIn plan (c.queueAt past) .byHand e course := by
      refine Guards.failsIn (fun e answer => answer = .error e) guards alone ?_
        RetriesByHand.failsIn
      rintro _ ⟨rfl, -⟩
      exact List.forall_mem_nil _
    refine fails.imp_right ?_
    rintro ⟨e, rfl, breaks_off⟩
    exact ⟨e, does, breaks_off⟩

/-- A call that fails leaves the queue as it has last written it. -/
theorem FailsIn.kept {f : ServiceError} (fails : FailsIn plan (c.queueAt past) call e course)
    (alone : Undisturbed course) (here : course = since ++ h :: later) (met : h.error? = some f) :
    KeptAsWritten c plan past since h later := by
  obtain ⟨-, plain_since, closing_later⟩ := fails.breaks.at here met
  have this_one : tokensIn (since ++ h :: later) = tokensIn (since ++ [h]) := by
    rw [List.append_cons, tokensIn_append, closing_later.passive.tokensIn, Nat.add_zero]
  cases fails with
  | unfilled opens _ quiet =>
    have passive : Passive (since ++ h :: later) := by
      rw [← here]
      exact .cons ⟨rfl, rfl, id⟩
        (opens.passive.append (quiet.append closing_releaseGuard).passive)
    refine .untouched (this_one ▸ passive.tokensIn) passive.unwritten ?_
    rw [Collaborators.queueAt_append]
    exact FailureQueue.afterAll_eq passive.unwritten (here ▸ alone)
  | @unfinished opening run closing submitted more opens plain retries breaks quiet =>
    obtain ⟨first, filled, holds, no_token⟩ := opens.filled
    have alone_run : Undisturbed run := alone.part fun h member => by simp [member]
    obtain ⟨attempts, generation, failing, rfl, rfl, generations, complete, tries⟩ :=
      retries.broken rfl alone_run holds
    -- the error is met in the attempt that fails, since all before it is plain
    have fails_there : Breaks plan.product e failing := by
      rcases tries.ends with plain_failing | ⟨_, same, fails⟩
      · exact absurd (complete.append plain_failing) breaks.not_plain
      · cases same
        exact fails
    obtain ⟨before, g, rest, rfl, plain_before, met', closing_rest⟩ := fails_there
    have same_place : since ++ h :: later =
        (.exchange .takeGuard true :: (opening ++ (attempts.flatten ++ before))) ++
          g :: (rest ++ (closing ++ [.exchange .releaseGuard ()])) := by
      rw [← here]
      simp
    have plain_all : Plain plan.product
        (.exchange .takeGuard true :: (opening ++ (attempts.flatten ++ before))) :=
      .cons ⟨rfl, nofun⟩ (plain.append (complete.append plain_before))
    obtain ⟨same_since, rfl, same_later⟩ :=
      eq_of_first_error same_place plain_since plain_all met met'
    have place : since ++ [h] =
        (.exchange .takeGuard true :: opening) ++ (attempts.flatten ++ (before ++ [h])) := by
      rw [same_since]
      simp
    have one_asked : tokensIn (before ++ [h]) = 1 := by
      have asked := tries.tokensIn
      rwa [List.append_cons, tokensIn_append, closing_rest.passive.tokensIn, Nat.add_zero] at asked
    have opened : tokensIn (.exchange .takeGuard true :: opening) = 0 := no_token
    have unwritten : ∀ g ∈ (before ++ [h]) ++ later, ¬ g.IsWrite := by
      have closing_all : Closing (closing ++ [.exchange .releaseGuard ()]) :=
        quiet.append closing_releaseGuard
      rw [same_later, ← List.append_assoc, ← List.append_cons]
      exact List.forall_mem_append.2 ⟨tries.unwritten, closing_all.passive.unwritten⟩
    have parts : since ++ h :: later = ((.exchange .takeGuard true :: opening) ++ attempts.flatten) ++
        ((before ++ [h]) ++ later) := by
      rw [List.append_cons, place]
      simp
    have same_queue : c.queueAt (past ++ (since ++ h :: later)) =
        c.queueAt (past ++ ((.exchange .takeGuard true :: opening) ++ attempts.flatten)) := by
      rw [parts, ← List.append_assoc, Collaborators.queueAt_append]
      exact FailureQueue.afterAll_eq unwritten (alone.part fun g member => by
        rw [here, parts]
        exact List.mem_append_right _ member)
    have generations_from : Generations plan
        (c.queueAt (past ++ (.exchange .takeGuard true :: opening))) generation attempts := by
      simpa [FailureQueue.after] using generations
    have held := generations_from.held attempts.length (Nat.le_refl _)
    rw [List.take_length, ← Collaborators.queueAt_append, List.append_assoc] at held
    refine .generation place (List.mem_cons_of_mem _ filled) generations_from ?_ unwritten same_queue
      (same_queue ▸ held)
    rw [place, tokensIn_append, tokensIn_append, opened, generations.tokensIn, one_asked, Nat.zero_add]

end Aborted

/-- Whatever has happened before: a call that meets an error in its run, wherever that is, returns
this error and leaves the queue as it has last written it. It tells nobody about failures, does
nothing more than count the error, and gives the guard back. -/
theorem run_aborts {c : Collaborators} {plan : BillingPlan} {past : Chronicle} {call : Call}
    {failed : Bool} {course since later : List Happening} {h : Happening} {e : ServiceError}
    (reachable : c.queue.Reachable) (takes : c.Takes plan past failed course call)
    (unspent : (c.queueAt (past ++ course)).Unspent) (alone : Undisturbed course)
    (here : course = since ++ h :: later) (met : h.error? = some e) :
    Aborts c plan past call since h later e := by
  have numbered : (c.queueAt past).Numbered := reachable.numbered.afterAll past
  rcases takes.failsIn numbered unspent alone with unfailing | ⟨f, returned, fails⟩
  · rw [unfailing h (by simp [here])] at met
    cases met
  obtain ⟨rfl, plain, closing⟩ := fails.breaks.at here met
  have kept := fails.kept alone here met
  have released := fails.released (past.foldl guardAfter false)
  subst here
  refine ⟨returned, kept, fun failures answer member => ?_, closing, ?_⟩
  · rcases List.mem_append.1 member with before | after
    · exact (plain _ before).2 failures rfl
    rcases List.mem_cons.1 after with rfl | after
    · cases met
    · have plain_later : Plain plan.product later := closing.plain
      exact (plain_later _ after).2 failures rfl
  · rwa [List.foldl_append]

/-! ## A run that is refused a second token -/

namespace RefusedLater

def refused : ServiceError := ErrorKind.authentication.because ""

def unnamed : ServiceInstance := ⟨"", "", "", ⟨0, 0⟩⟩

/-- One token is given, and every batch is turned down. -/
def collaborators : Collaborators where
  queue := {}
  answer past
    | .token => if tokensIn past = 0 then .ok "" else .error refused
    | r => (Collaborators.obliging {} [unnamed] ⟨0, 0⟩ (.ok "") fun _ batch =>
        .ok (batch.map (.stamped · "" ⟨0, 0⟩))).answer past r
  refusal _ _ := none
  arrivals _ := []

def plan : BillingPlan := ⟨"", ⟨2, 0⟩, 0, false⟩

def record : UsagePayload := ⟨"", "", 7200000, 7200000, "", [⟨instanceMeasure, 1⟩]⟩

def first : UsageFailure := .stamped record initialFailure ⟨0, 0⟩

def second : UsageFailure := .stamped record "" ⟨0, 0⟩

def since : List Happening :=
  [.exchange .takeGuard true, .exchange .activeInstances (.ok [unnamed]),
    .exchange .now (some ⟨0, 0⟩), .exchange .wallClock (.still ⟨0, 0⟩), .exchange (.seed [first]) (.ok ()),
    .exchange (.observe (.depth 1)) (), .exchange .token (.ok ""),
    .exchange (.page none 1) (.ok ⟨[.ofFailure 1 first], some 1⟩),
    .exchange (.submit "" [record]) (.ok [second]), .exchange (.page (some 1) 1) (.ok ⟨[], none⟩),
    .exchange (.seed [second]) (.ok ()), .exchange (.observe (.depth 1)) (), .exchange (.wait 0) ()]

def later : List Happening :=
  [.exchange (.observe (.error "token")) (), .exchange (.observe (.run "error")) (),
    .exchange .releaseGuard ()]

def course : List Happening :=
  since ++ .exchange .token (.error refused) :: later

theorem run_takes : collaborators.Takes plan [] true course .scheduled := by
  refine ⟨.ok (.error refused), ?_, rfl⟩
  unfold Collaborators.Does
  cbv

theorem lastId_eq : (collaborators.queueAt ([] ++ course)).lastId = 2 := by
  cbv

theorem unspent : (collaborators.queueAt ([] ++ course)).Unspent := by
  rw [FailureQueue.Unspent, lastId_eq]
  decide

/-- The second token is refused, and the rows of the first attempt are left. -/
theorem run_aborts_at_token : Aborts collaborators plan [] .scheduled since
    (.exchange .token (.error refused)) later refused :=
  run_aborts .empty run_takes unspent (run_takes.undisturbed fun _ => rfl) rfl rfl

end RefusedLater

end UsageBilling
