import UsageBilling.Proofs.Courses.Errors
import UsageBilling.Proofs.Courses.Submissions
import UsageBilling.Proofs.Instances

/-!
# Escalation

A run that ends with records remaining tells a human once, and what it tells is
what the queue holds: the summary is built from the failures of the last
attempt, and these are the rows that the attempt has stored. A run that ends in
any other way tells nobody about failures.
-/

namespace UsageBilling

open Billing

/-! ## Summaries of rows and of failures -/

/-- The line of a row is the line of its failure. -/
theorem FailureRecord.Stores.line_eq {r : FailureRecord} {f : UsageFailure} (h : r.Stores f) :
    Summary.line (Summary.instanceOf r) r.message = Summary.line f.payload.instanceId f.message := by
  rw [Summary.instanceOf, h.payload, h.message]

/-- Rows are summarised like the failures that they store. -/
theorem FailureQueue.Holds.ofRecords_eq {q : FailureQueue} {failures : List UsageFailure}
    (h : q.Holds failures) (product : String) :
    Summary.ofRecords product q.rows = Summary.ofFailures product failures := by
  have size : q.rows.length = failures.length := List.Forall₂.length_eq h
  have lines : q.rows.map (fun r => Summary.line (Summary.instanceOf r) r.message) =
      failures.map fun f => Summary.line f.payload.instanceId f.message := by
    unfold Holds at h
    generalize q.rows = rows at h
    clear size
    induction h with
    | nil => rfl
    | cons stores _ ih => rw [List.map_cons, List.map_cons, stores.line_eq, ih]
  rw [Summary.ofRecords, Summary.ofFailures, size, lines]

theorem Summary.count_ofRecords (product : String) (records : List FailureRecord) :
    (ofRecords product records).count = records.length :=
  List.length_map _

/-! ## Silence -/

/-- No summary of failures is dispatched. -/
def Silent (product : String) (course : List Happening) : Prop :=
  ∀ h ∈ course, ∀ failures, h.summary? ≠ some (.ofFailures product failures)

section Silent

variable {product : String} {course first second : List Happening}

theorem Silent.append (h : Silent product first) (h' : Silent product second) :
    Silent product (first ++ second) :=
  List.forall_mem_append.2 ⟨h, h'⟩

theorem Plain.silent (h : Plain product course) : Silent product course :=
  fun happening member => (h happening member).2

/-- What fails is no summary. -/
theorem Happening.summary?_of_error {h : Happening} {e : ServiceError} (failed : h.error? = some e) :
    h.summary? = none := by
  unfold Happening.error? at failed
  split at failed <;> first | rfl | cases failed

/-- A course that breaks off is silent. -/
theorem Breaks.silent {e : ServiceError} (h : Breaks product e course) : Silent product course := by
  obtain ⟨since, happening, later, rfl, plain, failed, quiet⟩ := h
  have closing : Plain product later := quiet.plain
  refine plain.silent.append (List.forall_mem_cons.2 ⟨?_, closing.silent⟩)
  intro failures told
  rw [Happening.summary?_of_error failed] at told
  cases told

theorem Ends.silent {α : Type} {result : Except Crash (Except ServiceError α)}
    (h : Ends product course result) : Silent product course := by
  rcases h with plain | ⟨e, -, breaks⟩
  · exact plain.silent
  · exact breaks.silent

theorem silent_exchange {r : Request} {answer : r.Answer}
    (other : (Happening.exchange r answer).summary? = none) :
    Silent product [.exchange r answer] := by
  refine List.forall_mem_singleton.2 fun failures told => ?_
  rw [other] at told
  cases told

end Silent

/-! ## Runs -/

/-- Once in a course from the queue `q` on, a summary of failures is dispatched, delivered or not.
It is built from failures that are exactly what the queue holds then and at the end of the course. -/
structure EscalatesOnce (plan : BillingPlan) (q : FailureQueue) (course : List Happening)
    (summary : Summary) : Prop where
  once : ∃ since answer later, course = since ++ .exchange (.notify .main summary) answer :: later ∧
    Silent plan.product since ∧ Silent plan.product later ∧ q.afterAll since = q.afterAll course
  failing : ∃ left, left ≠ [] ∧ (q.afterAll course).Holds left ∧
    summary = .ofFailures plan.product left
  queued : summary = .ofRecords plan.product (q.afterAll course).rows

/-- What a run with this outcome tells about failures. -/
def Tells (plan : BillingPlan) (q : FailureQueue) (course : List Happening) :
    Except ServiceError RunOutcome → Prop
  | .ok (.escalated _ remaining) =>
    ∃ summary, EscalatesOnce plan q course summary ∧ summary.count = remaining
  | _ => Silent plan.product course

section Runs

variable {plan : BillingPlan} {q : FailureQueue} {course : List Happening}

/-- Attempts that are used up have left something. -/
theorem Retries.some_left {more number attempts : Nat} {left : List UsageFailure}
    {result : Except ServiceError (RetryOutcome (List UsageFailure))}
    (h : Retries plan more number q course result) (ended : result = .ok (.exhausted attempts left)) :
    left ≠ [] := by
  induction h with
  | failed => cases ended
  | succeeded => cases ended
  | exhausted tries =>
    cases ended
    obtain ⟨-, done⟩ := tries.leaving
    obtain ⟨rfl, nonempty⟩ := Attempt.retryable_eq_leaving.1 done
    exact nonempty
  | again _ _ ih => exact ih ended

/-- A summary is handed over first, and nothing is told after it. -/
theorem Dispatches.split {summary : Summary} (h : Dispatches summary course) (product : String) :
    ∃ answer later, course = .exchange (.notify .main summary) answer :: later ∧
      Silent product later := by
  cases h with
  | sent => exact ⟨_, _, rfl, silent_exchange rfl⟩
  | failed e => exact ⟨_, _, rfl, silent_exchange rfl⟩

/-- A run tells about failures once if records remain, and else not at all. -/
theorem Bills.tells {submitted : Nat} {outcome : Except ServiceError RunOutcome}
    (h : Bills plan submitted q course outcome) : Tells plan q course outcome := by
  cases h with
  | failed retries => exact retries.ends.silent
  | succeeded retries => exact retries.ends.silent
  | @escalated attempted escalation _ left retries dispatches =>
    have silent : Silent plan.product attempted := retries.ends.silent
    have holds : (q.afterAll attempted).Holds left := retries.leaving rfl
    have unchanged : q.afterAll (attempted ++ escalation) = q.afterAll attempted := by
      rw [FailureQueue.afterAll_append, dispatches.afterAll]
    obtain ⟨answer, later, rfl, silent_later⟩ := dispatches.split plan.product
    refine ⟨.ofFailures plan.product left, ⟨?_, ?_, ?_⟩, List.length_map _⟩
    · exact ⟨attempted, answer, later, rfl, silent, silent_later, unchanged.symm⟩
    · exact ⟨left, retries.some_left rfl, unchanged ▸ holds, rfl⟩
    · rw [unchanged, holds.ofRecords_eq]

/-- What comes before a run and after it tells nothing about failures, and what comes after it
leaves the queue alone. -/
theorem Tells.within {before after : List Happening} {outcome : Except ServiceError RunOutcome}
    (h : Tells plan (q.afterAll before) course outcome) (silent : Silent plan.product before)
    (silent' : Silent plan.product after) (unwritten : ∀ q : FailureQueue, q.afterAll after = q) :
    Tells plan q (before ++ (course ++ after)) outcome := by
  have around (quiet : Silent plan.product course) :
      Silent plan.product (before ++ (course ++ after)) :=
    silent.append (quiet.append silent')
  cases outcome with
  | error e => exact around h
  | ok outcome =>
    cases outcome with
    | succeeded attempts submitted => exact around h
    | skipped => exact around h
    | escalated attempts remaining =>
      obtain ⟨summary, told, count⟩ := h
      have unchanged : q.afterAll (before ++ (course ++ after)) =
          (q.afterAll before).afterAll course := by
        rw [FailureQueue.afterAll_append, FailureQueue.afterAll_append, unwritten]
      refine ⟨summary, ⟨?_, ?_, ?_⟩, count⟩
      · obtain ⟨since, answer, later, rfl, silent_since, silent_later, same⟩ := told.once
        refine ⟨before ++ since, answer, later ++ after, by simp, silent.append silent_since,
          silent_later.append silent', ?_⟩
        rw [unchanged, FailureQueue.afterAll_append, same]
      · rw [unchanged]
        exact told.failing
      · rw [unchanged]
        exact told.queued

end Runs

/-! ## Calls -/

/-- The run of a call was counted under this name when it ended. -/
def CountedAs (course : List Happening) (name : String) : Prop :=
  .exchange (.observe (.run name)) () ∈ course

/-- What a scheduled call tells about failures. -/
def ScheduledTells (plan : BillingPlan) (q : FailureQueue) (course : List Happening) :
    Except Crash (Except ServiceError RunOutcome) → Prop
  | .ok outcome => Tells plan q course outcome
  | .error _ => Silent plan.product course

/-- What a manual call tells about failures: nothing if all records were accepted, and else once,
about the rows that it returns. -/
def ByHandTells (plan : BillingPlan) (q : FailureQueue) (course : List Happening) :
    Except Crash (Except ServiceError (List FailureRecord)) → Prop
  | .ok (.ok records) =>
    (CountedAs course "succeeded" ∧ records = [] ∧ Silent plan.product course) ∨
    (CountedAs course "escalated" ∧ records ≠ [] ∧ records = (q.afterAll course).rows ∧
      ∃ summary, EscalatesOnce plan q course summary ∧
        summary = .ofRecords plan.product records ∧ summary.count = records.length)
  | _ => Silent plan.product course

section Calls

variable {plan : BillingPlan} {q : FailureQueue} {course : List Happening}

/-- A call is silent until it holds the guard. -/
theorem silent_takeGuard {product : String} {others : List Happening} (arrivals : Arrivals others)
    (free : Bool) : Silent product (others ++ [.exchange .takeGuard free]) :=
  Silent.append arrivals.plain.silent (silent_exchange rfl)

theorem silent_releaseGuard {product : String} : Silent product [.exchange .releaseGuard ()] :=
  silent_exchange rfl

theorem silent_counted {product : String} (name : String) :
    Silent product [.exchange (.observe (.run name)) ()] :=
  silent_exchange rfl

/-- A scheduled call tells what its run tells. -/
theorem Guards.scheduledTells {result : Except Crash (Except ServiceError RunOutcome)}
    (h : Guards Skips (Schedules plan) q course result) : ScheduledTells plan q course result := by
  cases h with
  | busy arrivals leaves =>
    obtain ⟨rfl, rfl⟩ := leaves
    have counted : Silent plan.product [.exchange (.observe (.run RunOutcome.skipped.name)) ()] :=
      silent_counted _
    have silent := (silent_takeGuard arrivals false).append counted
    rwa [List.append_assoc] at silent
  | @held others body _ arrivals schedules =>
    have opened : Silent plan.product (others ++ [.exchange .takeGuard true]) :=
      silent_takeGuard arrivals true
    rw [List.append_cons]
    cases schedules with
    | broken seeds => exact opened.append (seeds.ends.silent.append silent_releaseGuard)
    | unseeded seeds =>
      exact opened.append ((seeds.ends.silent.append (silent_counted _)).append silent_releaseGuard)
    | @billed opening run submitted outcome seeds bills =>
      have tells : Tells plan (q.afterAll (others ++ [.exchange .takeGuard true] ++ opening)) run
          outcome := by
        simpa [FailureQueue.after] using bills.tells
      have call := tells.within (opened.append seeds.ends.silent)
        ((silent_counted (endName outcome)).append silent_releaseGuard) fun _ => rfl
      simpa [ScheduledTells] using call

theorem Lists.silent {product : String} {outcome : RunOutcome}
    {result : Except ServiceError (List FailureRecord)} (h : Lists q outcome course result) :
    Silent product course := by
  cases h with
  | remaining => exact silent_exchange rfl
  | unlisted => exact silent_exchange rfl
  | nothing => exact List.forall_mem_nil _

theorem Lists.afterAll {outcome : RunOutcome} {result : Except ServiceError (List FailureRecord)}
    (h : Lists q outcome course result) (q' : FailureQueue) : q'.afterAll course = q' := by
  cases h <;> rfl

/-- The end of a manual call, which lists the rows that remain. -/
theorem Lists.byHandTells {outcome : RunOutcome} {closing : List Happening}
    {result : Except ServiceError (List FailureRecord)}
    (h : Lists (q.afterAll course) outcome closing result) (tells : Tells plan q course (.ok outcome))
    (counted : CountedAs course outcome.name) (ran : outcome ≠ .skipped)
    (listed : ∀ e, .exchange .listAll (.error e) ∉ closing) :
    ByHandTells plan q course (.ok result) := by
  cases h with
  | unlisted attempts left e => exact absurd List.mem_cons_self (listed e)
  | nothing settled =>
    cases outcome with
    | escalated attempts left => exact absurd rfl (settled attempts left)
    | skipped => exact absurd rfl ran
    | succeeded attempts submitted => exact .inl ⟨counted, rfl, tells⟩
  | remaining attempts left =>
    obtain ⟨summary, told, -⟩ := tells
    obtain ⟨failures, some_left, holds, -⟩ := told.failing
    refine .inr ⟨counted, holds.rows_ne_nil some_left, rfl, summary, told, told.queued, ?_⟩
    rw [told.queued, Summary.count_ofRecords]

/-- Billing is never skipped. -/
theorem Bills.not_skipped {submitted : Nat} {outcome : RunOutcome}
    (h : Bills plan submitted q course (.ok outcome)) : outcome ≠ .skipped := by
  cases h <;> exact nofun

/-- A manual call that holds the guard and is not refused a listing. -/
theorem RetriesByHand.byHandTells {others : List Happening}
    {result : Except ServiceError (List FailureRecord)} (arrivals : Arrivals others)
    (h : RetriesByHand plan (q.afterAll others) course result)
    (listed : ∀ e, .exchange .listAll (.error e) ∉ course) :
    ByHandTells plan q (others ++ .exchange .takeGuard true ::
      (course ++ [.exchange .releaseGuard ()])) (.ok result) := by
  have opened : Silent plan.product (others ++ [.exchange .takeGuard true]) :=
    silent_takeGuard arrivals true
  rw [List.append_cons]
  cases h with
  | unseeded reseeds => exact opened.append (reseeds.ends.silent.append silent_releaseGuard)
  | @failed opening run submitted e reseeds bills =>
    have silent : Silent plan.product run := bills.tells
    exact opened.append ((reseeds.ends.silent.append
      (silent.append (silent_counted _))).append silent_releaseGuard)
  | @billed opening run closing submitted outcome _ reseeds bills lists =>
    have shape : others ++ [.exchange .takeGuard true] ++ (opening ++ (run ++
        .exchange (.observe (.run outcome.name)) () :: closing) ++ [.exchange .releaseGuard ()]) =
        others ++ [.exchange .takeGuard true] ++ opening ++ (run ++
        .exchange (.observe (.run outcome.name)) () :: (closing ++ [.exchange .releaseGuard ()])) := by
      simp
    have at_end : q.afterAll (others ++ [.exchange .takeGuard true] ++ opening ++ (run ++
        .exchange (.observe (.run outcome.name)) () :: (closing ++ [.exchange .releaseGuard ()]))) =
        ((q.afterAll others).afterAll opening).afterAll run := by
      simp [FailureQueue.after, lists.afterAll]
    have tells : Tells plan (q.afterAll (others ++ [.exchange .takeGuard true] ++ opening)) run
        (.ok outcome) := by
      simpa [FailureQueue.after] using bills.tells
    have silent_after : Silent plan.product (.exchange (.observe (.run outcome.name)) () ::
        (closing ++ [.exchange .releaseGuard ()])) :=
      (silent_counted outcome.name).append (lists.silent.append silent_releaseGuard)
    have call := tells.within (opened.append reseeds.ends.silent) silent_after fun q' => by
      rw [FailureQueue.afterAll_cons, FailureQueue.afterAll_append, lists.afterAll]
      rfl
    rw [shape]
    rw [← at_end] at lists
    refine lists.byHandTells call (by simp [CountedAs]) bills.not_skipped fun e member => ?_
    exact listed e (by simp [member])

/-- A manual call tells what its run tells, and returns the rows it tells about. -/
theorem Guards.byHandTells {result : Except ServiceError (List FailureRecord)}
    (h : Guards Conflicts (RetriesByHand plan) q course result)
    (listed : ∀ e, .exchange .listAll (.error e) ∉ course) :
    ByHandTells plan q course (.ok result) := by
  cases h with
  | busy arrivals leaves =>
    obtain ⟨rfl, rfl⟩ := leaves
    exact silent_takeGuard arrivals false
  | held arrivals retries =>
    exact retries.byHandTells arrivals fun e member => listed e (by simp [member])

end Calls

/-! ## Every call -/

/-- Collaborators that refuse no list fail over none. -/
theorem Collaborators.Does.not_unlisted {c : Collaborators} {past : Chronicle}
    {course : List Happening} {α : Type} {p : Action α} {result : Except Crash α}
    (h : c.Does p past result course) (listable : ∀ past, c.refusal past .listAll = none)
    (e : ServiceError) : .exchange .listAll (.error e) ∉ course := by
  refine h.not_answered fun past => ?_
  show .error e ≠ c.unlessRefused _ _ _
  rw [unlessRefused, listable]
  intro same
  cases same

/-- Whatever has happened before and whatever the collaborators answer: a scheduled call tells a human
about failures once if its run ends with records remaining, and never else. The summary is built from
the failures of the last attempt, it is the one of the rows that the queue holds, and it counts as many
entries as are reported to remain. A manual call does the same, about the rows that it returns, as
long as the queue can be listed. -/
theorem runs_escalate_once {c : Collaborators} {plan : BillingPlan} {past : Chronicle}
    (reachable : c.queue.Reachable) :
    (∀ result course, c.Does (runScheduled plan).run past result course →
      (c.queueAt (past ++ course)).Unspent →
      ScheduledTells plan (c.queueAt past) course result) ∧
    (∀ result course, c.Does (retryOutstanding plan).run past result course →
      (c.queueAt (past ++ course)).Unspent → (∀ past, c.refusal past .listAll = none) →
      ByHandTells plan (c.queueAt past) course result) := by
  have numbered : (c.queueAt past).Numbered := reachable.numbered.afterAll past
  constructor
  · intro result course does unspent
    exact (does.runScheduled numbered unspent).scheduledTells
  · intro result course does unspent listable
    obtain ⟨answer, rfl, guards⟩ := does.retryOutstanding numbered unspent
    exact guards.byHandTells (does.not_unlisted listable)

/-! ## Runs in which every record is turned down -/

namespace TurnedDown

/-- A record of an instance. -/
def record (instanceId : String) : UsagePayload :=
  ⟨"", instanceId, 0, 0, "", []⟩

/-- One attempt, in batches of one. -/
def plan : BillingPlan := ⟨"", ⟨1, 0⟩, 1, false⟩

def queue : FailureQueue :=
  FailureQueue.push (FailureQueue.push {} (record "i-5").toJson "" ⟨0, 0⟩)
    (record "i-4").toJson "" ⟨0, 0⟩

/-- Two records are outstanding, two instances are active, and every batch is turned down. -/
def collaborators : Collaborators :=
  .obliging queue (Trio.instances.take 2) ⟨0, 0⟩ (.ok "") fun _ batch =>
    .ok (batch.map (.stamped · "denied" ⟨0, 0⟩))

def rows : List FailureRecord :=
  [.ofFailure 5 (.stamped (record "i-5") "denied" ⟨0, 0⟩),
    .ofFailure 6 (.stamped (record "i-4") "denied" ⟨0, 0⟩)]

theorem account_scheduled :
    collaborators.account (collaborators.perform (runScheduled plan).run []) =
      (.ok (.ok (.escalated 1 2)), 6, [["i-1"], ["i-3"]]) := by
  decide +kernel

theorem account_byHand :
    collaborators.account (collaborators.perform (retryOutstanding plan).run []) =
      (.ok (.ok rows), 6, [["i-5"], ["i-4"]]) := by
  decide +kernel

/-- Both calls tell about the records that remain, in their order. -/
theorem turned_down_escalated :
    (∃ course summary, collaborators.Does (runScheduled plan).run []
      (.ok (.ok (.escalated 1 2))) course ∧
      EscalatesOnce plan collaborators.queue course summary ∧ summary.count = 2) ∧
    (∃ course summary, collaborators.Does (retryOutstanding plan).run [] (.ok (.ok rows)) course ∧
      EscalatesOnce plan collaborators.queue course summary ∧ summary = .ofRecords "" rows) := by
  obtain ⟨scheduled, by_hand⟩ :=
    @runs_escalate_once collaborators plan [] (.push (.push .empty _ _ _) _ _ _)
  constructor
  · obtain ⟨course, does, unspent, -⟩ :=
      Collaborators.exists_does_of_account account_scheduled (by decide)
    obtain ⟨summary, told, count⟩ := scheduled _ course does unspent
    exact ⟨course, summary, does, told, count⟩
  · obtain ⟨course, does, unspent, -⟩ :=
      Collaborators.exists_does_of_account account_byHand (by decide)
    rcases by_hand _ course does unspent fun _ => rfl with ⟨-, none, -⟩ | ⟨-, -, -, escalated⟩
    · cases none
    · obtain ⟨summary, told, same, -⟩ := escalated
      exact ⟨course, summary, does, told, same⟩

end TurnedDown

end UsageBilling
