import UsageBilling.Proofs.Runs.Aborts
import UsageBilling.Proofs.Runs.Escalation

/-!
# Resubmission

A manual call tells a human about the rows that cannot be read, stores the
others anew in their order, and bills them: its first attempt submits exactly
their usage records, whatever the clocks and the instance store say by now. What
it returns is what the queue holds in the end.
-/

namespace UsageBilling

open Billing
open Calendar (Instant Readings)

/-! ## Rows that are stored anew -/

/-- The rows that can be read, in order. -/
def decodableOf (rows : List FailureRecord) : List FailureRecord :=
  rows.filter fun r => r.usagePayload.toOption.isSome

/-- The row `r'` holds what `r` held: the same usage record, reason and time of creation. -/
structure FailureRecord.Renews (r' r : FailureRecord) : Prop where
  payload : r'.usagePayload = r.usagePayload
  message : r'.message = r.message
  created : r'.created = r.created
  /-- The text is the same if it is the one as which a usage record is stored. -/
  raw : ∀ p : UsagePayload, r.payload = p.toJson → r'.payload = r.payload

/-- A row that stores the failure of another one renews it. -/
theorem FailureRecord.Stores.renews {r r' : FailureRecord} {p : UsagePayload}
    {stamp : Instant} (h : r'.Stores ⟨p, r.message, r.created, stamp⟩)
    (read : r.usagePayload = .ok p) : r'.Renews r where
  payload := h.payload.trans read.symm
  message := h.message
  created := h.created
  raw p' stored := by
    have same : p' = p := by
      rw [usagePayload, stored, UsagePayload.ofJson_toJson] at read
      exact Except.ok.inj read
    rw [h.raw, stored, same]

/-- A queue that holds the outstanding failures of some rows has renewed those that can be read. -/
theorem FailureQueue.Holds.renewed {q : FailureQueue} {rows : List FailureRecord}
    {clock : Readings} (h : q.Holds (outstandingOf clock rows)) :
    List.Forall₂ FailureRecord.Renews q.rows (decodableOf rows) := by
  unfold Holds at h
  generalize q.rows = stored at h
  induction rows generalizing clock stored with
  | nil =>
    cases h
    exact .nil
  | cons r rows ih =>
    cases read : r.usagePayload with
    | error fault =>
      have unread : decodableOf (r :: rows) = decodableOf rows :=
        List.filter_cons_of_neg (by simp [read, Except.toOption])
      rw [outstandingOf_cons_error clock read] at h
      rw [unread]
      exact ih stored h
    | ok p =>
      have kept : decodableOf (r :: rows) = r :: decodableOf rows :=
        List.filter_cons_of_pos (by simp [read, Except.toOption])
      rw [outstandingOf_cons_ok clock read] at h
      rw [kept]
      cases h with
      | cons stores others => exact .cons (stores.renews read) (ih _ others)

/-- What is stored anew are the usage records that can be read, in order. -/
theorem map_payload_outstandingOf (clock : Readings) (rows : List FailureRecord) :
    (outstandingOf clock rows).map (·.payload) = payloadsOf rows := by
  induction rows generalizing clock with
  | nil => rfl
  | cons r rows ih =>
    cases read : r.usagePayload with
    | error fault =>
      rw [outstandingOf_cons_error clock read, ih, payloadsOf, payloadsOf,
        List.filterMap_cons_none (by rw [read]; rfl)]
    | ok p =>
      rw [outstandingOf_cons_ok clock read, List.map_cons, ih, payloadsOf, payloadsOf,
        List.filterMap_cons_some (by rw [read]; rfl)]

/-- Rows with storable messages can be stored anew. -/
theorem storable_outstandingOf {rows : List FailureRecord} (clock : Readings)
    (storable : ∀ r ∈ rows, isStorable r.message = true) :
    FailureQueue.Storable (outstandingOf clock rows) := by
  induction rows generalizing clock with
  | nil => exact nofun
  | cons r rows ih =>
    obtain ⟨this_one, others⟩ := List.forall_mem_cons.1 storable
    cases read : r.usagePayload with
    | error fault =>
      rw [outstandingOf_cons_error clock read]
      exact ih clock others
    | ok p =>
      rw [outstandingOf_cons_ok clock read]
      exact List.forall_mem_cons.2 ⟨this_one, ih clock.later others⟩

/-! ## What is told and what is counted -/

/-- The summaries that are dispatched in a course. -/
def summariesIn (course : List Happening) : List Summary :=
  course.filterMap (·.summary?)

/-- The name under which the end of a run is counted here. -/
def Happening.outcome? : Happening → Option String
  | .exchange (.observe (.run name)) _ => some name
  | _ => none

/-- The ends of runs that are counted in a course. -/
def outcomesIn (course : List Happening) : List String :=
  course.filterMap (·.outcome?)

/-- An instance or the clock of billing windows is asked for. -/
def Happening.AsksInstances : Happening → Prop
  | .exchange .activeInstances _ => True
  | .exchange (.instanceOf _) _ => True
  | .exchange .now _ => True
  | _ => False

/-- In the course these summaries are dispatched, these ends of runs are counted, and no billing window
is computed. -/
structure Signals (course : List Happening) (told : List Summary) (counted : List String) : Prop where
  told : summariesIn course = told
  counted : outcomesIn course = counted
  unasked : ∀ h ∈ course, ¬ h.AsksInstances

/-- One summary of rows that cannot be read, or none if there are no such rows. -/
def undecodableSummaries (product : String) (rows : List FailureRecord) : List Summary :=
  if rows = [] then [] else [.ofUndecodable product rows]

/-- Nobody is told anything, no end of a run is counted, and no billing window is computed. -/
def Happening.IsRoutine (h : Happening) : Prop :=
  h.summary? = none ∧ h.outcome? = none ∧ ¬ h.AsksInstances

/-- Routine happenings only. -/
def Routine (course : List Happening) : Prop :=
  ∀ h ∈ course, h.IsRoutine

section Projections

variable {first second course : List Happening}

/-- What is told and counted in two parts is told and counted one after the other. -/
theorem Signals.append {told told' : List Summary} {counted counted' : List String}
    (h : Signals first told counted) (h' : Signals second told' counted') :
    Signals (first ++ second) (told ++ told') (counted ++ counted') where
  told := by rw [summariesIn, List.filterMap_append, ← summariesIn, ← summariesIn, h.told, h'.told]
  counted := by
    rw [outcomesIn, List.filterMap_append, ← outcomesIn, ← outcomesIn, h.counted, h'.counted]
  unasked := List.forall_mem_append.2 ⟨h.unasked, h'.unasked⟩

theorem Routine.nil : Routine [] :=
  List.forall_mem_nil _

theorem Routine.cons {h : Happening} (routine : h.IsRoutine) (rest : Routine course) :
    Routine (h :: course) :=
  List.forall_mem_cons.2 ⟨routine, rest⟩

theorem Routine.append (h : Routine first) (h' : Routine second) : Routine (first ++ second) :=
  List.forall_mem_append.2 ⟨h, h'⟩

/-- In routine happenings nothing is told and nothing counted as an error. -/
theorem Routine.signals (h : Routine course) : Signals course [] [] where
  told := List.filterMap_eq_nil_iff.2 fun happening member => (h happening member).1
  counted := List.filterMap_eq_nil_iff.2 fun happening member => (h happening member).2.1
  unasked happening member := (h happening member).2.2

theorem Signals.append_routine {told : List Summary} {counted : List String}
    (h : Signals first told counted) (h' : Routine second) :
    Signals (first ++ second) told counted := by
  have signals := h.append h'.signals
  rwa [List.append_nil, List.append_nil] at signals

end Projections

/-! ## Attempts at rows that can be read -/

section Attempts

variable {plan : BillingPlan} {q : FailureQueue} {course : List Happening}

theorem Asides.routine (h : Asides course) : Routine course := by
  intro happening member
  have aside := h happening member
  unfold Happening.IsAside at aside
  split at aside
  · exact ⟨rfl, rfl, id⟩
  · exact ⟨rfl, rfl, id⟩
  · cases aside

theorem Submits.routine {token : String} {payloads : List UsagePayload}
    {result : Except ServiceError (List UsageFailure)} (h : Submits token payloads course result) :
    Routine course := by
  cases h with
  | nothing => exact .nil
  | batch => exact .cons ⟨rfl, rfl, id⟩ .nil

/-- A pass is routine if every row can be read. -/
theorem Passes.routine {token : String} {limit : Nat} {rows : List FailureRecord}
    {result : Except ServiceError Pass} (h : Passes token limit rows course result) :
    Routine course := by
  induction h with
  | finished quiet => exact quiet.routine
  | unread => exact .cons ⟨rfl, rfl, id⟩ .nil
  | refused _ quiet submits => exact quiet.routine.append submits.routine
  | page _ quiet submits _ ih => exact quiet.routine.append (submits.routine.append ih)

theorem Refills.routine {failures : List UsageFailure}
    {answer : Except ServiceError (Attempt (List UsageFailure))} (h : Refills failures course answer) :
    Routine course := by
  cases h with
  | cleared => exact .cons ⟨rfl, rfl, id⟩ (.cons ⟨rfl, rfl, id⟩ .nil)
  | uncleared => exact .cons ⟨rfl, rfl, id⟩ .nil
  | refilled => exact .cons ⟨rfl, rfl, id⟩ (.cons ⟨rfl, rfl, id⟩ .nil)
  | unfilled => exact .cons ⟨rfl, rfl, id⟩ .nil

/-- Where every row can be read, an attempt tells nobody anything. -/
theorem Tries.routine {answer : Except ServiceError (Attempt (List UsageFailure))}
    (h : Tries plan q course answer) (alone : Undisturbed course)
    (readable : undecodableOf q.rows = []) : Routine course := by
  cases h with
  | tokenless arrivals =>
    obtain rfl := arrivals.eq_nil alone
    exact .cons ⟨rfl, rfl, id⟩ (.cons ⟨rfl, rfl, id⟩ .nil)
  | broken arrivals passes =>
    obtain rfl := arrivals.eq_nil alone
    exact .cons ⟨rfl, rfl, id⟩ passes.routine
  | passed arrivals passes reports refills =>
    obtain rfl := arrivals.eq_nil alone
    have nothing : _ = undecodableOf q.rows := congrArg Pass.undecodable (passes.found_eq rfl)
    rw [nothing, readable] at reports
    cases reports with
    | nothing => exact .cons ⟨rfl, rfl, id⟩ (passes.routine.append (Routine.nil.append refills.routine))
    | told some_left => exact absurd rfl some_left

/-- The attempts are routine if every row can be read. -/
theorem Retries.routine {more number : Nat}
    {result : Except ServiceError (RetryOutcome (List UsageFailure))}
    (h : Retries plan more number q course result) (alone : Undisturbed course)
    (readable : undecodableOf q.rows = []) : Routine course := by
  -- what an attempt leaves can be read, so that the next one finds readable rows again
  induction h with
  | failed tries => exact tries.routine alone readable
  | succeeded tries => exact tries.routine alone readable
  | exhausted tries => exact tries.routine alone readable
  | @again _ _ _ first rest _ _ tries _ ih =>
    have alone_first : Undisturbed first := alone.part fun h member => by simp [member]
    have alone_rest : Undisturbed rest := alone.part fun h member => by simp [member]
    have waited : Routine [.exchange (.wait plan.retry.backoff) ()] := .cons ⟨rfl, rfl, id⟩ .nil
    exact (tries.routine alone_first readable).append
      (waited.append (ih alone_rest tries.leaving.1.undecodableOf))

theorem Submits.refused {token : String} {payloads : List UsagePayload} {e : ServiceError}
    (h : Submits token payloads course (.error e)) : ∃ batch, (batch, .error e) ∈ submittedIn course := by
  cases h with
  | batch => exact ⟨payloads, List.mem_singleton_self _⟩

/-- A pass comes to its end if every page is served and every submission answered. -/
theorem Passes.complete {token : String} {limit : Nat} {rows : List FailureRecord}
    {result : Except ServiceError Pass} (h : Passes token limit rows course result)
    (paged : ∀ cursor size e, .exchange (.page cursor size) (.error e) ∉ course)
    (answered : ∀ s ∈ submittedIn course, ∃ failures, s.2 = .ok failures) :
    ∃ found, result = .ok found := by
  induction h with
  | finished => exact ⟨_, rfl⟩
  | unread cursor size e => exact absurd List.mem_cons_self (paged cursor size e)
  | refused _ _ submits =>
    obtain ⟨batch, sent⟩ := submits.refused
    obtain ⟨failures, same⟩ := answered _ (by rw [submittedIn_append]; exact List.mem_append_right _ sent)
    cases same
  | @page _ asides sent rest _ _ _ _ _ _ ih =>
    obtain ⟨found, rfl⟩ := ih (fun cursor size e member => paged cursor size e (by simp [member]))
      fun s member => answered s (by simp [member])
    exact ⟨_, rfl⟩

/-- The first attempt at rows that can be read submits all of them, in order, once it has a token and
as long as it is answered. -/
theorem Tries.submits_all {answer : Except ServiceError (Attempt (List UsageFailure))}
    (h : Tries plan q course answer) (alone : Undisturbed course)
    (readable : undecodableOf q.rows = []) {token : String}
    (given : .exchange .token (.ok token) ∈ course)
    (paged : ∀ cursor size e, .exchange (.page cursor size) (.error e) ∉ course)
    (answered : ∀ s ∈ submittedIn course, ∃ failures, s.2 = .ok failures) :
    batchesIn course = inBatches plan.batchSize (payloadsOf q.rows) := by
  cases h with
  | tokenless arrivals e =>
    obtain rfl := arrivals.eq_nil alone
    simp at given
  | @broken _ pass given_token e arrivals passes =>
    obtain rfl := arrivals.eq_nil alone
    obtain ⟨found, ended⟩ := passes.complete
      (fun cursor size e member => paged cursor size e (by simp [member]))
      fun s member => answered s (by rwa [List.nil_append, submittedIn_cons_of_none rfl])
    cases ended
  | @passed _ pass _ _ token _ _ arrivals passes reports refills =>
    have sent := submittedIn_attempt token pass arrivals reports refills
    obtain rfl := arrivals.eq_nil alone
    rw [batchesIn, sent, ← batchesIn, passes.batchesIn (by omega) rfl, inBatches_max_one,
      FailureQueue.afterAll_nil, payloadsOf_inBatches _ readable]
    exact List.filter_eq_self.2 fun batch member => by simpa using ne_nil_of_mem_inBatches member

/-- An error that is met in an attempt is the one with which it fails. -/
theorem Tries.fails_with {answer : Except ServiceError (Attempt (List UsageFailure))}
    (h : Tries plan q course answer) {g : Happening} {e : ServiceError} (inside : g ∈ course)
    (met : g.error? = some e) : answer = .error e := by
  rcases h.ends with plain | ⟨e', same, breaks⟩
  · rw [(plain g inside).1] at met
    cases met
  · obtain ⟨since, later, here⟩ := List.append_of_mem inside
    obtain ⟨rfl, -, -⟩ := breaks.at here met
    exact Except.ok.inj same

/-- Attempts begin with a first one. If it does not fail, they end with it or go on after a wait. -/
theorem Retries.first_attempt {more number : Nat}
    {result : Except ServiceError (RetryOutcome (List UsageFailure))}
    (h : Retries plan more number q course result) :
    ∃ first rest answer, course = first ++ rest ∧ Tries plan q first answer ∧
      (Passive rest ∨ ∃ later, rest = .exchange (.wait plan.retry.backoff) () :: later) ∧
      ∀ e, answer = .error e → Passive rest ∧ result = .error e := by
  cases h with
  | @failed _ _ _ _ e tries =>
    refine ⟨course, [], _, (List.append_nil _).symm, tries, .inl .nil, ?_⟩
    rintro _ ⟨⟩
    exact ⟨.nil, rfl⟩
  | succeeded tries => exact ⟨course, [], _, (List.append_nil _).symm, tries, .inl .nil, nofun⟩
  | exhausted tries => exact ⟨course, [], _, (List.append_nil _).symm, tries, .inl .nil, nofun⟩
  | @again _ _ _ first rest _ _ tries _ =>
    exact ⟨first, _, _, rfl, tries, .inr ⟨rest, rfl⟩, nofun⟩

end Attempts

/-! ## Runs on rows that can be read -/

/-- How a manual call ends whose run has left these rows: the names under which runs were counted,
what was told of failures, and what the call returns. -/
inductive EndsByHand (plan : BillingPlan) (left : List FailureRecord) : List String → List Summary →
    Except ServiceError (List FailureRecord) → Prop where
  /-- Every record was accepted. -/
  | succeeded (nothing_left : left = []) : EndsByHand plan left ["succeeded"] [] (.ok [])
  /-- The rows that remain are told and returned. -/
  | escalated (some_left : left ≠ []) :
      EndsByHand plan left ["escalated"] [.ofRecords plan.product left] (.ok left)
  | failed (e : ServiceError) : EndsByHand plan left ["error"] [] (.error e)

/-- What a manual call returns whose run has left these rows. -/
def returnedByHand (left : List FailureRecord) :
    Except ServiceError RunOutcome → Except ServiceError (List FailureRecord)
  | .ok (.escalated ..) => .ok left
  | .ok _ => .ok []
  | .error e => .error e

section Runs

variable {plan : BillingPlan} {q : FailureQueue} {course : List Happening}

theorem Dispatches.signals {summary : Summary} (h : Dispatches summary course) :
    Signals course [summary] [] := by
  cases h with
  | sent => exact ⟨rfl, rfl, List.forall_mem_cons.2 ⟨id, List.forall_mem_singleton.2 id⟩⟩
  | failed => exact ⟨rfl, rfl, List.forall_mem_cons.2 ⟨id, List.forall_mem_singleton.2 id⟩⟩

/-- A run begins with an attempt. If it does not fail, no other follows or one follows after a wait. -/
theorem Bills.first_attempt {submitted : Nat} {outcome : Except ServiceError RunOutcome}
    (h : Bills plan submitted q course outcome) :
    ∃ first rest answer, course = first ++ rest ∧ Tries plan q first answer ∧
      (Passive rest ∨ ∃ later, rest = .exchange (.wait plan.retry.backoff) () :: later) ∧
      ∀ e, answer = .error e → Passive rest ∧ outcome = .error e := by
  cases h with
  | failed retries =>
    obtain ⟨first, rest, answer, rfl, tries, follows, fails⟩ := retries.first_attempt
    refine ⟨first, rest, answer, rfl, tries, follows, fun e same => ?_⟩
    obtain ⟨passive, ended⟩ := fails e same
    cases ended
    exact ⟨passive, rfl⟩
  | succeeded retries =>
    obtain ⟨first, rest, answer, rfl, tries, follows, fails⟩ := retries.first_attempt
    refine ⟨first, rest, answer, rfl, tries, follows, fun e same => ?_⟩
    obtain ⟨-, ended⟩ := fails e same
    cases ended
  | @escalated _ escalation _ _ retries dispatches =>
    obtain ⟨first, rest, answer, rfl, tries, follows, fails⟩ := retries.first_attempt
    refine ⟨first, rest ++ escalation, answer, List.append_assoc _ _ _, tries, ?_, fun e same => ?_⟩
    · rcases follows with passive | ⟨later, rfl⟩
      · exact .inl (passive.append dispatches.passive)
      · exact .inr ⟨later ++ escalation, rfl⟩
    · obtain ⟨-, ended⟩ := fails e same
      cases ended

/-- What a run tells on rows that can be read: the rows that remain, if any do. -/
theorem Bills.endsByHand {submitted : Nat} {outcome : Except ServiceError RunOutcome}
    (h : Bills plan submitted q course outcome) (alone : Undisturbed course)
    (readable : undecodableOf q.rows = []) :
    ∃ told, Signals course told [] ∧ EndsByHand plan (q.afterAll course).rows [endName outcome] told
      (returnedByHand (q.afterAll course).rows outcome) := by
  cases h with
  | failed retries => exact ⟨[], (retries.routine alone readable).signals, .failed _⟩
  | succeeded retries =>
    have nothing : (q.afterAll course).Holds [] := retries.leaving rfl
    refine ⟨[], (retries.routine alone readable).signals, .succeeded ?_⟩
    exact FailureQueue.holds_nil_iff.1 nothing
  | @escalated attempted escalation _ left retries dispatches =>
    have routine := retries.routine (alone.part fun h => List.mem_append_left _) readable
    have holds : (q.afterAll (attempted ++ escalation)).Holds left := by
      rw [FailureQueue.afterAll_append, dispatches.afterAll]
      exact retries.leaving rfl
    refine ⟨_, routine.signals.append dispatches.signals, ?_⟩
    rw [← holds.ofRecords_eq]
    exact .escalated (holds.rows_ne_nil (retries.some_left rfl))

end Runs

/-! ## Manual calls -/

section Calls

variable {plan : BillingPlan} {q : FailureQueue} {course : List Happening}

/-- Rows that cannot be read are told about in one summary. -/
theorem Reports.signals {rows : List FailureRecord} (h : Reports plan rows course) :
    Signals course (undecodableSummaries plan.product rows) [] := by
  cases h with
  | nothing => exact Routine.nil.signals
  | told some_left dispatches =>
    rw [undecodableSummaries, if_neg some_left]
    exact dispatches.signals

/-- How a manual call fills the queue: it tells of the rows that cannot be read before it writes
anything, and then stores the others anew. -/
theorem Reseeds.renews {submitted : Nat} (h : Reseeds plan q course (.ok submitted)) :
    ∃ before clock, course = before ++ [.exchange (.seed (outstandingOf clock q.rows)) (.ok ()),
        .exchange (.observe (.depth (outstandingOf clock q.rows).length)) ()] ∧
      Passive before ∧ Signals before (undecodableSummaries plan.product (undecodableOf q.rows)) [] ∧
      (q.afterAll course).Holds (outstandingOf clock q.rows) := by
  generalize ended : Except.ok submitted = result at h
  cases h with
  | unlisted => cases ended
  | unstored => cases ended
  | @reseeded clock asides report quiet reports storable =>
    have listed : Routine (.exchange .listAll (.ok q.rows) :: .exchange .wallClock clock :: asides) :=
      .cons ⟨rfl, rfl, id⟩ (.cons ⟨rfl, rfl, id⟩ quiet.routine)
    have passive : Passive (.exchange .listAll (.ok q.rows) :: .exchange .wallClock clock :: asides) :=
      .cons ⟨rfl, rfl, id⟩ (.cons ⟨rfl, rfl, id⟩ quiet.passive)
    refine ⟨.exchange .listAll (.ok q.rows) :: .exchange .wallClock clock :: asides ++ report, clock,
      by simp, passive.append reports.passive, listed.signals.append reports.signals, ?_⟩
    simpa [FailureQueue.after, FailureQueue.afterAll_asides quiet, reports.afterAll] using
      q.holds_after_seed storable

theorem Lists.routine {outcome : RunOutcome} {result : Except ServiceError (List FailureRecord)}
    (h : Lists q outcome course result) : Routine course := by
  cases h with
  | remaining => exact .cons ⟨rfl, rfl, id⟩ .nil
  | unlisted => exact .cons ⟨rfl, rfl, id⟩ .nil
  | nothing => exact .nil

/-- A manual call returns what the queue holds, or nothing if all was accepted. -/
theorem Lists.returned {outcome : RunOutcome} {result : Except ServiceError (List FailureRecord)}
    (h : Lists q outcome course result) (listed : ∀ e, .exchange .listAll (.error e) ∉ course) :
    result = returnedByHand q.rows (.ok outcome) := by
  cases h with
  | remaining => rfl
  | unlisted attempts left e => exact absurd List.mem_cons_self (listed e)
  | nothing settled =>
    cases outcome with
    | escalated attempts left => exact absurd rfl (settled attempts left)
    | succeeded => rfl
    | skipped => rfl

/-- A manual call that is neither refused a listing nor the storing anew has billed what it stored. -/
theorem RetriesByHand.billed_anew {result : Except ServiceError (List FailureRecord)}
    (h : RetriesByHand plan q course result) (listed : ∀ e, .exchange .listAll (.error e) ∉ course)
    (stored : ∀ clock e, .exchange (.seed (outstandingOf clock q.rows)) (.error e) ∉ course) :
    ∃ opening run closing submitted outcome,
      course = opening ++ (run ++ .exchange (.observe (.run (endName outcome))) () :: closing) ∧
      Reseeds plan q opening (.ok submitted) ∧ Bills plan submitted (q.afterAll opening) run outcome ∧
      Passive closing ∧ Routine closing ∧
      result = returnedByHand ((q.afterAll opening).afterAll run).rows outcome := by
  cases h with
  | @unseeded opening e reseeds =>
    cases reseeds with
    | unlisted => exact absurd List.mem_cons_self (listed e)
    | @unstored clock => exact absurd (by simp) (stored clock e)
  | @failed opening run submitted e reseeds bills =>
    exact ⟨opening, run, [], submitted, .error e, rfl, reseeds, bills, .nil, .nil, rfl⟩
  | @billed opening run closing submitted outcome _ reseeds bills lists =>
    exact ⟨opening, run, closing, submitted, .ok outcome, rfl, reseeds, bills, lists.passive,
      lists.routine, lists.returned fun e member => listed e (by simp [member])⟩

/-- A manual call that holds the run guard, on the queue `q`: what it does before its first attempt,
the first attempt, and the rest of it. -/
structure Resubmits (plan : BillingPlan) (q : FailureQueue) (opening first rest : List Happening)
    (answer : Except ServiceError (List FailureRecord)) : Prop where
  /-- It tells of exactly the rows that cannot be read, before it asks for a token, submits or writes
  anything, and then stores the others. -/
  told : ∃ before failures, opening = before ++
      [.exchange (.seed failures) (.ok ()), .exchange (.observe (.depth failures.length)) ()] ∧
    Passive before ∧ Signals before (undecodableSummaries plan.product (undecodableOf q.rows)) []
  /-- What it stores is exactly the rows that can be read. -/
  renewed : List.Forall₂ FailureRecord.Renews (q.afterAll opening).rows (decodableOf q.rows)
  /-- Rows stand in the order of their ids, now and later. -/
  ordered : ∀ course, (q.afterAll course).rows.Pairwise (·.id < ·.id)
  attempt : tokensIn first = 1
  /-- The first attempt submits exactly the usage records of these rows. -/
  submits : ∀ token, .exchange .token (.ok token) ∈ first →
    (∀ s ∈ submittedIn first, ∃ failures, s.2 = .ok failures) →
    batchesIn first = inBatches plan.batchSize (payloadsOf q.rows)
  follows : Passive rest ∨ ∃ later, rest = .exchange (.wait plan.retry.backoff) () :: later
  /-- If the first attempt fails, no other follows and the stored rows stay. -/
  breaks : ∀ h ∈ first, ∀ e, h.error? = some e → answer = .error e ∧ Passive rest ∧
    (q.afterAll (opening ++ (first ++ rest))).rows = (q.afterAll opening).rows
  ends : ∃ told counted, Signals (first ++ rest) told counted ∧
    EndsByHand plan (q.afterAll (opening ++ (first ++ rest))).rows counted told answer

/-- A manual call that is served resubmits what the queue holds. -/
theorem RetriesByHand.resubmits {answer : Except ServiceError (List FailureRecord)}
    (h : RetriesByHand plan q course answer) (numbered : q.Numbered)
    (alone : Undisturbed (.exchange .takeGuard true :: (course ++ [.exchange .releaseGuard ()])))
    (listed : ∀ e, .exchange .listAll (.error e) ∉ course)
    (stored : ∀ clock e, .exchange (.seed (outstandingOf clock q.rows)) (.error e) ∉ course)
    (paged : ∀ cursor size e, .exchange (.page cursor size) (.error e) ∉ course) :
    ∃ opening first rest, .exchange .takeGuard true :: (course ++ [.exchange .releaseGuard ()]) =
      opening ++ (first ++ rest) ∧ Resubmits plan q opening first rest answer := by
  obtain ⟨opening, run, closing, submitted, outcome, rfl, reseeds, bills, passive, routine, rfl⟩ :=
    h.billed_anew listed stored
  obtain ⟨before, clock, split, passive_before, signals_before, holds⟩ := reseeds.renews
  have readable : undecodableOf (q.afterAll opening).rows = [] := holds.undecodableOf
  have payloads : payloadsOf (q.afterAll opening).rows = payloadsOf q.rows := by
    rw [holds.payloadsOf, map_payload_outstandingOf]
  have alone_run : Undisturbed run := alone.part fun h member => by simp [member]
  obtain ⟨told, signals, ends⟩ := bills.endsByHand alone_run readable
  obtain ⟨first, rest, attempt, rfl, tries, follows, fails⟩ := bills.first_attempt
  have alone_first : Undisturbed first := alone.part fun h member => by simp [member]
  -- after the run nothing is told, submitted or written
  let counted : List Happening := [.exchange (.observe (.run (endName outcome))) ()]
  let ending : List Happening := closing ++ [.exchange .releaseGuard ()]
  have routine_ending : Routine ending := routine.append (.cons ⟨rfl, rfl, id⟩ .nil)
  have passive_ending : Passive (counted ++ ending) :=
    (passive_observe _).append (passive.append passive_releaseGuard)
  have parts : .exchange .takeGuard true :: (opening ++ (first ++ rest ++
      .exchange (.observe (.run (endName outcome))) () :: closing) ++ [.exchange .releaseGuard ()]) =
      (.exchange .takeGuard true :: opening) ++ (first ++ (rest ++ (counted ++ ending))) := by
    simp [counted, ending]
  have alone_ending : Undisturbed (counted ++ ending) := alone.part fun h member => by
    rw [parts]
    simp only [List.mem_append, member, or_true]
  have at_end : q.afterAll ((.exchange .takeGuard true :: opening) ++
      (first ++ (rest ++ (counted ++ ending)))) = (q.afterAll opening).afterAll (first ++ rest) := by
    rw [← List.append_assoc first, FailureQueue.afterAll_append, FailureQueue.afterAll_append,
      FailureQueue.afterAll_eq passive_ending.unwritten alone_ending]
    rfl
  refine ⟨.exchange .takeGuard true :: opening, first, rest ++ (counted ++ ending), parts, ?_⟩
  constructor
  case told =>
    have taken : Signals [.exchange .takeGuard true] [] [] := ⟨rfl, rfl, List.forall_mem_singleton.2 id⟩
    refine ⟨.exchange .takeGuard true :: before, _, by rw [split]; rfl, ?_, taken.append signals_before⟩
    exact .cons ⟨rfl, rfl, id⟩ passive_before
  case renewed => exact holds.renewed
  case ordered => exact fun course => (numbered.afterAll course).ascending
  case attempt => exact tries.tokensIn
  case submits =>
    intro token given answered
    rw [← payloads]
    exact tries.submits_all alone_first readable given
      (fun cursor size e member => paged cursor size e (by simp [member])) answered
  case follows =>
    rcases follows with passive_rest | ⟨later, rfl⟩
    · exact .inl (passive_rest.append passive_ending)
    · exact .inr ⟨later ++ (counted ++ ending), rfl⟩
  case breaks =>
    intro h inside e met
    obtain rfl := tries.fails_with inside met
    obtain ⟨passive_rest, rfl⟩ := fails e rfl
    have unwritten : ∀ g ∈ first ++ rest, ¬ g.IsWrite :=
      List.forall_mem_append.2 ⟨tries.unwritten, passive_rest.unwritten⟩
    refine ⟨rfl, passive_rest.append passive_ending, ?_⟩
    rw [at_end, FailureQueue.afterAll_eq unwritten alone_run]
    rfl
  case ends =>
    have signals_counted : Signals counted [] [endName outcome] :=
      ⟨rfl, rfl, List.forall_mem_singleton.2 id⟩
    refine ⟨told, [endName outcome], ?_, at_end ▸ ends⟩
    rw [← List.append_assoc, ← List.append_assoc]
    have to_count := signals.append signals_counted
    rw [List.append_nil] at to_count
    exact to_count.append_routine routine_ending

end Calls

/-! ## Every manual call -/

section Served

variable {c : Collaborators} {past : Chronicle} {course : List Happening} {α : Type} {p : Action α}
  {result : Except Crash α}

/-- Collaborators that refuse nothing hand out every page. -/
theorem Collaborators.Does.not_unread (h : c.Does p past result course)
    (served : ∀ past r, c.refusal past r = none) (cursor : Option Int) (size : Nat)
    (e : ServiceError) : .exchange (.page cursor size) (.error e) ∉ course := by
  refine h.not_answered fun past => ?_
  show .error e ≠ c.unlessRefused _ _ _
  rw [unlessRefused, served]
  intro same
  cases same

/-- Collaborators that refuse nothing store what can be stored. -/
theorem Collaborators.Does.not_unstored (h : c.Does p past result course)
    (served : ∀ past r, c.refusal past r = none) {failures : List UsageFailure}
    (storable : FailureQueue.Storable failures) (e : ServiceError) :
    .exchange (.seed failures) (.error e) ∉ course := by
  refine h.not_answered fun past => ?_
  show .error e ≠ c.unlessRefused _ _ _
  rw [unlessRefused, served, FailureQueue.seed_eq_ok_iff.2 ⟨storable, rfl⟩]
  intro same
  cases same

end Served

/-- Whatever has happened before, as long as no run is active, no one else appends to the queue, and
messages can be stored: a manual call tells of exactly the rows that cannot be read, stores exactly the
others anew, and submits exactly their usage records in its first attempt. It returns the rows that are
left if some remain, nothing from an empty queue if all were accepted, and leaves the rows as they
were stored if the first attempt fails. -/
theorem retry_resubmits_outstanding {c : Collaborators} {plan : BillingPlan} {past : Chronicle}
    {result : Except Crash (Except ServiceError (List FailureRecord))} {course : List Happening}
    (reachable : c.queue.Reachable) (served : ∀ past r, c.refusal past r = none)
    (storable : ∀ r ∈ (c.queueAt past).rows, isStorable r.message = true)
    (free : past.foldl guardAfter false = false)
    (does : c.Does (retryOutstanding plan).run past result course) (alone : Undisturbed course)
    (unspent : (c.queueAt (past ++ course)).Unspent) :
    ∃ opening first rest answer, course = opening ++ (first ++ rest) ∧ result = .ok answer ∧
      Resubmits plan (c.queueAt past) opening first rest answer := by
  have numbered : (c.queueAt past).Numbered := reachable.numbered.afterAll past
  obtain ⟨answer, rfl, guards⟩ := does.retryOutstanding numbered unspent
  cases guards with
  | busy arrivals leaves =>
    obtain rfl := arrivals.eq_nil alone
    have taken : false = !past.foldl guardAfter false := does.genuine.1
    rw [free] at taken
    cases taken
  | @held others body _ arrivals retries =>
    obtain rfl := arrivals.eq_nil alone
    replace retries : RetriesByHand plan (c.queueAt past) body answer := retries
    obtain ⟨opening, first, rest, parts, resubmits⟩ := retries.resubmits numbered alone
      (fun e member => does.not_unlisted (fun past => served past _) e (by simp [member]))
      (fun clock e member => does.not_unstored served (storable_outstandingOf clock storable) e
        (by simp [member]))
      fun cursor size e member => does.not_unread served cursor size e (by simp [member])
    exact ⟨opening, first, rest, answer, parts, rfl, resubmits⟩

/-! ## A manual call on a row that can be read and one that cannot -/

namespace OneUnreadable

def record : UsagePayload := ⟨"", "", 0, 0, "", []⟩

def plan : BillingPlan := ⟨"", ⟨1, 0⟩, 0, false⟩

def queue : FailureQueue :=
  FailureQueue.push (FailureQueue.push {} "" "" ⟨0, 0⟩) record.toJson "" ⟨0, 0⟩

/-- Every batch is turned down. -/
def collaborators : Collaborators :=
  .obliging queue [] ⟨0, 0⟩ (.ok "") fun _ batch => .ok (batch.map (.stamped · "" ⟨0, 0⟩))

def row : FailureRecord := .ofFailure 4 (.stamped record "" ⟨0, 0⟩)

theorem account_retryOutstanding :
    collaborators.account (collaborators.perform (retryOutstanding plan).run []) =
      (.ok (.ok [row]), 4, [[""]]) := by
  decide +kernel

theorem storable : ∀ r ∈ (collaborators.queueAt []).rows, isStorable r.message = true := by
  decide +kernel

/-- The row that can be read is resubmitted, and it is the one that is returned. -/
theorem readable_row_resubmitted : ∃ course opening first rest,
    collaborators.Does (retryOutstanding plan).run [] (.ok (.ok [row])) course ∧
      course = opening ++ (first ++ rest) ∧
      Resubmits plan queue opening first rest (.ok [row]) := by
  obtain ⟨course, does, unspent, -⟩ :=
    Collaborators.exists_does_of_account account_retryOutstanding (by decide)
  obtain ⟨opening, first, rest, answer, parts, same, resubmits⟩ :=
    retry_resubmits_outstanding (.push (.push .empty _ _ _) _ _ _) (fun _ _ => rfl) storable rfl does
      (does.undisturbed fun _ => rfl) unspent
  obtain rfl : answer = .ok [row] := (Except.ok.inj same).symm
  exact ⟨course, opening, first, rest, does, parts, resubmits⟩

end OneUnreadable

end UsageBilling
