import Mathlib
import UsageBilling.Proofs.Metering.Samples
import UsageBilling.Proofs.Runs.Acceptance
import UsageBilling.Proofs.Runs.Counts
import UsageBilling.Proofs.Runs.Series

/-!
# Runs only shrink the queue

The batches of a run are cut to the size that the metering client accepts, so
that the client answers each of them. What comes back from an attempt is, in
order, some of what the queue held before it; whatever else fails a run, the
metering API does not. A scheduled run starts with one record for each active
instance, and never holds more.
-/

namespace UsageBilling

open Billing Metering

/-! ## Rows of others -/

/-- The usage record of a row that others append here, if it can be read. -/
def Happening.arrived? : Happening → Option UsagePayload
  | .arrival payload _ _ => (UsagePayload.ofJson payload).toOption
  | _ => none

/-- Somebody else appends a row. -/
def Happening.isArrival : Happening → Bool
  | .arrival .. => true
  | _ => false

/-- The usage records that others append and that can be read. -/
def arrivedIn (course : List Happening) : List UsagePayload :=
  course.filterMap (·.arrived?)

/-- How many rows others append. -/
def arrivalsIn (course : List Happening) : Nat :=
  course.countP (·.isArrival)

/-- The queue has only shrunk: its usage records are, in order, some of those before and of those that
others appended, and it has no more rows than before and appended. -/
structure FailureQueue.Shrinks (q : FailureQueue) (course : List Happening) : Prop where
  payloads : (payloadsOf (q.afterAll course).rows).Sublist (payloadsOf q.rows ++ arrivedIn course)
  rows : (q.afterAll course).rows.length ≤ q.rows.length + arrivalsIn course

namespace FailureQueue

variable {q : FailureQueue} {h : Happening} {first second : List Happening}

theorem Shrinks.nil (q : FailureQueue) : q.Shrinks [] :=
  ⟨by simp [arrivedIn], Nat.le_refl _⟩

theorem Shrinks.append (h : q.Shrinks first) (h' : (q.afterAll first).Shrinks second) :
    q.Shrinks (first ++ second) := by
  refine ⟨?_, ?_⟩
  · have arrived : arrivedIn (first ++ second) = arrivedIn first ++ arrivedIn second :=
      List.filterMap_append
    rw [afterAll_append, arrived, ← List.append_assoc]
    exact h'.payloads.trans (h.payloads.append_right _)
  · have arrivals : arrivalsIn (first ++ second) = arrivalsIn first + arrivalsIn second :=
      List.countP_append
    have before := h.rows
    have after := h'.rows
    rw [afterAll_append, arrivals]
    omega

/-- What is stored instead of the rows, if it is no more than they hold. -/
theorem Shrinks.of_holds {failures : List UsageFailure} (after : (q.after h).Holds failures)
    (fewer : (failures.map (·.payload)).Sublist (payloadsOf q.rows)) (own : h.isArrival = false) :
    q.Shrinks [h] := by
  have arrived : arrivedIn [h] = [] := by
    cases h <;> first | rfl | cases own
  refine ⟨?_, ?_⟩
  · rw [arrived, List.append_nil, afterAll_cons, afterAll_nil, after.payloadsOf]
    exact fewer
  · have stored := after.length_eq
    have kept := fewer.length_le
    have readable : (payloadsOf q.rows).length ≤ q.rows.length := List.length_filterMap_le _ _
    rw [List.length_map] at kept
    rw [afterAll_cons, afterAll_nil]
    omega

theorem Shrinks.of_same (same : q.after h = q) : q.Shrinks [h] := by
  refine ⟨?_, ?_⟩
  · rw [afterAll_cons, afterAll_nil, same]
    exact List.sublist_append_left _ _
  · rw [afterAll_cons, afterAll_nil, same]
    exact Nat.le_add_right _ _

/-- What is no write only adds the row that somebody else appends. -/
theorem Shrinks.of_unwritten (unwritten : ¬ h.IsWrite) : q.Shrinks [h] := by
  cases h with
  | ended failed => exact .of_same rfl
  | arrival payload message now =>
    have added : (q.afterAll [.arrival payload message now]).rows =
        q.rows ++ [⟨q.lastId + 1, payload, message, now, now⟩] := rfl
    refine ⟨?_, ?_⟩
    · rw [added, payloadsOf, List.filterMap_append]
      exact List.Sublist.refl _
    · rw [added, List.length_append]
      exact Nat.le_refl _
  | exchange r answer =>
    refine .of_same ?_
    generalize asked : Happening.exchange r answer = h at unwritten ⊢
    unfold after
    split
    · exact absurd trivial unwritten
    · exact absurd trivial unwritten
    · cases asked
    · rfl

end FailureQueue

/-! ## What a write leaves -/

section Writes

variable {plan : BillingPlan} {q : FailureQueue} {call : Call} {client : Client}
  {replies : Nat → Reply} {since : List Happening} {write : Happening}

/-- A queue that is refilled holds what was left. -/
theorem FailureQueue.holds_after_refill {failures : List UsageFailure}
    (storable : Storable failures) (q : FailureQueue) :
    (q.after (refillWith failures)).Holds failures := by
  by_cases nothing : failures = []
  · subst nothing
    exact .nil
  · rw [refillWith, if_neg nothing]
    exact q.holds_after_seed storable

theorem isArrival_refillWith (failures : List UsageFailure) :
    (refillWith failures).isArrival = false := by
  unfold refillWith
  split <;> rfl

/-- What a pass finds that comes to its end are, in order, some of the usage records of its rows. -/
theorem Passes.payloads_sublist {token : String} {limit : Nat} {rows : List FailureRecord}
    {pass : List Happening} {found : Pass} (h : Passes token limit rows pass (.ok found))
    (positive : 0 < limit) (through : AnsweredThrough client replies (submittedIn pass)) :
    (payloads found.failures).Sublist (payloadsOf rows) := by
  rw [h.found_eq rfl, ← h.flatten_batchesIn positive]
  exact returnedFrom_sublist through (h.answered rfl)

/-- Where a call writes the queue, except to fill it from the instances, the queue shrinks. -/
theorem WritesAt.shrinks (h : WritesAt plan q call since write)
    (filled : call = .byHand ∨ ∃ w ∈ since, w.IsWrite)
    (through : AnsweredThrough client replies (submittedIn since))
    (storable : ∀ failures, write = .exchange (.seed failures) (.ok ()) →
      FailureQueue.Storable failures) : (q.afterAll since).Shrinks [write] := by
  cases h with
  | seeding arrivals failures =>
    obtain by_hand | ⟨w, member, wrote⟩ := filled
    · cases by_hand
    rcases List.mem_append.1 member with arrived | opening
    · exact absurd wrote (arrivals.passive.unwritten w arrived)
    · simp only [List.mem_cons, List.not_mem_nil, or_false] at opening
      obtain rfl | rfl | rfl | rfl := opening <;> cases wrote
  | @reseeding others asides report clock arrivals quiet reports =>
    have rows : q.afterAll (others ++ .exchange .takeGuard true ::
        .exchange .listAll (.ok (q.afterAll others).rows) :: .exchange .wallClock clock ::
        (asides ++ report)) = q.afterAll others := by
      simp [FailureQueue.after, FailureQueue.afterAll_asides quiet, reports.afterAll]
    rw [rows]
    refine .of_holds (FailureQueue.holds_after_seed (storable _ rfl) _) ?_ rfl
    rw [map_payload_outstandingOf]
  | @refilling _ before pass report token found passes reports =>
    have rows : q.afterAll (before ++ .exchange .token (.ok token) :: (pass ++ report)) =
        q.afterAll before := by
      simp [FailureQueue.after, passes.afterAll, reports.afterAll]
    have sent : submittedIn (before ++ .exchange .token (.ok token) :: (pass ++ report)) =
        submittedIn before ++ submittedIn pass := by
      rw [submittedIn_append, submittedIn_cons_of_none rfl, submittedIn_append,
        reports.passive.submittedIn, List.append_nil]
    rw [sent] at through
    rw [rows]
    refine .of_holds (FailureQueue.holds_after_refill ?_ _)
      (passes.payloads_sublist (by omega) through.right) (isArrival_refillWith _)
    by_cases nothing : found.failures = []
    · rw [nothing]
      exact List.forall_mem_nil _
    · exact storable _ (if_neg nothing)

/-- Once it is filled, the queue of a call only shrinks, from any point of the call to any later
one. -/
theorem Calls.shrinks {course before during after : List Happening} {failed : Bool}
    (h : Calls plan q call course failed) (split : course = before ++ (during ++ after))
    (filled : call = .byHand ∨ ∃ w ∈ before, w.IsWrite)
    (through : AnsweredThrough client replies (submittedIn course))
    (storable : ∀ failures, .exchange (.seed failures) (.ok ()) ∈ course →
      FailureQueue.Storable failures) : (q.afterAll before).Shrinks during := by
  induction during generalizing before with
  | nil => exact .nil _
  | cons happening during ih =>
    have first : (q.afterAll before).Shrinks [happening] := by
      by_cases wrote : happening.IsWrite
      · have site := throughout_iff.1 h.writtenAt before happening _ split wrote
        rw [split, submittedIn_append] at through
        refine site.shrinks filled through.left fun failures same => storable failures ?_
        simp [split, same]
      · exact .of_unwritten wrote
    have filled_on : call = .byHand ∨ ∃ w ∈ before ++ [happening], w.IsWrite := by
      refine filled.imp_right ?_
      rintro ⟨w, member, wrote⟩
      exact ⟨w, List.mem_append_left _ member, wrote⟩
    have others := ih (by simpa using split) filled_on
    rw [FailureQueue.afterAll_append] at others
    exact first.append others

end Writes

/-! ## One record for each instance -/

/-- The queue holds a record at most for each of these instances, beside what others have appended. -/
structure AtMostOneEach (instances : List ServiceInstance) (appended : List Happening)
    (rows : List FailureRecord) : Prop where
  ids : ((payloadsOf rows).map (·.instanceId)).Sublist
    (instances.map (·.instanceId) ++ (arrivedIn appended).map (·.instanceId))
  count : rows.length ≤ instances.length + arrivalsIn appended
  distinct : arrivedIn appended = [] → (instances.map (·.instanceId)).Nodup →
    ((payloadsOf rows).map (·.instanceId)).Nodup

section Instances

variable {plan : BillingPlan} {q : FailureQueue} {course : List Happening}

/-- The first write of a scheduled call stores a record for each active instance. -/
theorem Calls.first_write {failed : Bool} {since later : List Happening} {write : Happening}
    (h : Calls plan q .scheduled course failed) (split : course = since ++ write :: later)
    (wrote : write.IsWrite) (first : ∀ w ∈ since, ¬ w.IsWrite) :
    ∃ instances now clock failures, .exchange .activeInstances (.ok instances) ∈ since ∧
      write = .exchange (.seed failures) (.ok ()) ∧
      scheduledFailures now clock instances = .ok failures := by
  have passive_part {part rest : List Happening} (quiet : Passive part)
      (same : part ++ rest = since ++ write :: later) :
      ∃ between, since = part ++ between ∧ rest = between ++ write :: later :=
    exists_between same fun member => quiet.unwritten write member wrote
  cases h with
  | @busy others closing arrivals quiet =>
    have passive : Passive (others ++ .exchange .takeGuard false :: closing) :=
      arrivals.passive.append (.cons ⟨rfl, rfl, id⟩ quiet)
    exact absurd wrote (passive.unwritten write (by simp [split]))
  | @unopened others opening closing arrivals opens quiet =>
    have passive : Passive (others ++ .exchange .takeGuard true :: (opening ++ closing)) :=
      arrivals.passive.append (.cons ⟨rfl, rfl, id⟩ (opens.passive.append quiet))
    exact absurd wrote (passive.unwritten write (by simp [split]))
  | @billed others opening run closing submitted failed outcome arrivals opens =>
    generalize filled : some submitted = number at opens
    cases opens with
    | scheduled seeds =>
      cases seeds with
      | @seeded instances now clock failures scheduled storable =>
        have quiet : Passive (others ++ [.exchange .takeGuard true,
            .exchange .activeInstances (.ok instances), .exchange .now (some now),
            .exchange .wallClock clock]) :=
          arrivals.passive.append (.cons ⟨rfl, rfl, id⟩ (.cons ⟨rfl, rfl, id⟩
            (.cons ⟨rfl, rfl, id⟩ (.cons ⟨rfl, rfl, id⟩ .nil))))
        obtain ⟨between, rfl, rest⟩ := passive_part quiet (by simpa using split)
        cases between with
        | nil =>
          obtain ⟨rfl, -⟩ := List.cons.inj rest
          exact ⟨instances, now, clock, failures, by simp, rfl, scheduled⟩
        | cons w between =>
          obtain ⟨rfl, -⟩ := List.cons.inj rest
          exact absurd trivial (first (.exchange (.seed failures) (.ok ())) (by simp))
      | unlisted | unclocked | overflown | unstored => cases filled

/-- A queue that was filled from these instances and has only shrunk since. -/
theorem FailureQueue.Shrinks.atMostOneEach {now : Calendar.Instant} {clock : Calendar.Readings}
    {instances : List ServiceInstance} {failures : List UsageFailure} (holds : q.Holds failures)
    (scheduled : scheduledFailures now clock instances = .ok failures) (h : q.Shrinks course) :
    AtMostOneEach instances course (q.afterAll course).rows := by
  have initial := scheduledFailures_initial scheduled
  have ids : ((payloadsOf (q.afterAll course).rows).map (·.instanceId)).Sublist
      (instances.map (·.instanceId) ++ (arrivedIn course).map (·.instanceId)) := by
    have kept := h.payloads.map (·.instanceId)
    rwa [List.map_append, holds.payloadsOf, map_instanceId_of_initial initial] at kept
  refine ⟨ids, ?_, fun nothing distinct => ?_⟩
  · have stored := holds.length_eq
    have each := initial.length_eq
    have fewer := h.rows
    omega
  · rw [nothing, List.map_nil, List.append_nil] at ids
    exact ids.nodup distinct

end Instances

/-! ## What a run fails on -/

/-- The instances cannot be listed, a token is refused, or the queue cannot be written. -/
inductive Happening.Refuses (e : ServiceError) : Happening → Prop where
  | instances : Refuses e (.exchange .activeInstances (.error e))
  | token : Refuses e (.exchange .token (.error e))
  | seed (failures : List UsageFailure) : Refuses e (.exchange (.seed failures) (.error e))
  | clear : Refuses e (.exchange .clear (.error e))

/-- The queue cannot be read. -/
inductive Happening.Unread (e : ServiceError) : Happening → Prop where
  | page (cursor : Option Int) (limit : Nat) : Unread e (.exchange (.page cursor limit) (.error e))
  | listAll : Unread e (.exchange .listAll (.error e))

/-- The error comes from the instances, the tokens or the queue. -/
def FailsOn (e : ServiceError) (course : List Happening) : Prop :=
  ∃ h ∈ course, h.Refuses e ∨ h.Unread e

section Errors

variable {plan : BillingPlan} {q : FailureQueue} {call : Call} {course first second : List Happening}
  {e : ServiceError}

theorem FailsOn.left (h : FailsOn e first) : FailsOn e (first ++ second) := by
  obtain ⟨happening, member, failed⟩ := h
  exact ⟨happening, List.mem_append_left _ member, failed⟩

theorem FailsOn.right (h : FailsOn e second) : FailsOn e (first ++ second) := by
  obtain ⟨happening, member, failed⟩ := h
  exact ⟨happening, List.mem_append_right _ member, failed⟩

theorem FailsOn.tail {happening : Happening} (h : FailsOn e course) :
    FailsOn e (happening :: course) := by
  obtain ⟨failing, member, failed⟩ := h
  exact ⟨failing, List.mem_cons_of_mem _ member, failed⟩

theorem FailsOn.refused {happening : Happening} (failed : happening.Refuses e) :
    FailsOn e (happening :: course) :=
  ⟨happening, List.mem_cons_self, .inl failed⟩

theorem FailsOn.unread {happening : Happening} (failed : happening.Unread e) :
    FailsOn e (happening :: course) :=
  ⟨happening, List.mem_cons_self, .inr failed⟩

theorem Answered.left (h : Answered (submittedIn (first ++ second))) :
    Answered (submittedIn first) := by
  rw [submittedIn_append] at h
  exact (List.forall_mem_append.1 h).1

theorem Answered.right (h : Answered (submittedIn (first ++ second))) :
    Answered (submittedIn second) := by
  rw [submittedIn_append] at h
  exact (List.forall_mem_append.1 h).2

theorem Answered.tail {happening : Happening} (h : Answered (submittedIn (happening :: course))) :
    Answered (submittedIn course) := by
  have parts : Answered (submittedIn ([happening] ++ course)) := h
  exact parts.right

/-- A submission whose batch was answered has come back. -/
theorem Submits.answer_of_answered {token : String} {payloads : List UsagePayload}
    {result : Except ServiceError (List UsageFailure)} (h : Submits token payloads course result)
    (answered : Answered (submittedIn course)) : ∃ failures, result = .ok failures := by
  cases h with
  | nothing => exact ⟨[], rfl⟩
  | batch => exact answered _ List.mem_cons_self

/-- A pass whose batches are all answered fails only where the queue cannot be read. -/
theorem Passes.failsOn {token : String} {limit : Nat} {rows : List FailureRecord}
    {result : Except ServiceError Pass} (h : Passes token limit rows course result)
    (failed : result = .error e) (answered : Answered (submittedIn course)) : FailsOn e course := by
  induction h with
  | finished => cases failed
  | unread cursor size =>
    cases failed
    exact .unread (.page cursor size)
  | refused _ _ submits =>
    obtain ⟨failures, ended⟩ := submits.answer_of_answered answered.right
    cases ended
  | @page _ _ _ _ _ result _ _ _ _ ih =>
    cases result with
    | ok found => cases failed
    | error e' =>
      cases failed
      exact (ih rfl answered.right.right).right.right

/-- To refill the queue fails on the queue. -/
theorem Refills.failsOn {failures : List UsageFailure} (h : Refills failures course (.error e)) :
    FailsOn e course := by
  cases h with
  | uncleared => exact .refused .clear
  | unfilled => exact .refused (.seed failures)

/-- An attempt whose batches were answered fails on its token or on the queue. -/
theorem Tries.failsOn (h : Tries plan q course (.error e)) (answered : Answered (submittedIn course)) :
    FailsOn e course := by
  cases h with
  | tokenless => exact FailsOn.right (.refused .token)
  | broken _ passes => exact (passes.failsOn rfl answered.right.tail).tail.right
  | passed _ _ _ refills => exact refills.failsOn.right.right.tail.right

theorem Retries.failsOn {more number : Nat}
    {result : Except ServiceError (RetryOutcome (List UsageFailure))}
    (h : Retries plan more number q course result) (failed : result = .error e)
    (answered : Answered (submittedIn course)) : FailsOn e course := by
  induction h with
  | failed tries =>
    cases failed
    exact tries.failsOn answered
  | succeeded => cases failed
  | exhausted => cases failed
  | again _ _ ih => exact (ih failed answered.right.tail).tail.right

theorem Bills.failsOn {submitted : Nat} (h : Bills plan submitted q course (.error e))
    (answered : Answered (submittedIn course)) : FailsOn e course := by
  cases h with
  | failed retries => exact retries.failsOn rfl answered

/-- To seed the queue fails on the instances or on the queue. -/
theorem Seeds.failsOn (h : Seeds course (.ok (.error e))) : FailsOn e course := by
  cases h with
  | unlisted => exact .refused .instances
  | @unstored _ _ _ failures => exact FailsOn.tail (.tail (.tail (.refused (.seed failures))))

/-- To store the rows anew fails on the queue. -/
theorem Reseeds.failsOn (h : Reseeds plan q course (.error e)) : FailsOn e course := by
  cases h with
  | unlisted => exact .unread .listAll
  | unstored => exact .tail (.tail (.right (.right (.refused (.seed _)))))

/-- A scheduled call fails on the instances, its tokens or the queue. -/
theorem Schedules.failsOn (h : Schedules plan q course (.ok (.error e)))
    (answered : Answered (submittedIn course)) : FailsOn e course := by
  cases h with
  | unseeded seeds => exact seeds.failsOn.left
  | billed _ bills => exact ((bills.failsOn answered.right.left).left).right

/-- A manual call fails on its tokens or the queue. -/
theorem RetriesByHand.failsOn (h : RetriesByHand plan q course (.error e))
    (answered : Answered (submittedIn course)) : FailsOn e course := by
  cases h with
  | unseeded reseeds => exact reseeds.failsOn
  | failed _ bills => exact ((bills.failsOn answered.right.left).left).right
  | billed _ _ lists =>
    cases lists with
    | unlisted => exact .right (.right (.tail (.unread .listAll)))

end Errors

/-! ## Calls through the client -/

/-- What a call does to the queue and the metering API that goes through the client. -/
structure OnlyShrinks (c : Collaborators) (plan : BillingPlan) (client : Client) (past : Chronicle)
    (call : Call) (result : Except Crash (Except ServiceError call.Outcome))
    (course : List Happening) : Prop where
  batches : ∀ batch ∈ batchesIn course, 1 ≤ batch.length ∧ batch.length ≤ client.pageSize
  answered : ∀ s ∈ submittedIn course, ∃ failures, s.2 = .ok failures
  /-- A manual call is turned away; any other error comes from the instances, the tokens or the
  queue. -/
  fails : ∀ e, result = .ok (.error e) →
    (call = .byHand ∧ e = runInProgress ∧ .exchange .takeGuard false ∈ course) ∨ FailsOn e course
  /-- A read fails only where the queue refuses it. -/
  unread : ∀ since h later e, course = since ++ h :: later → h.Unread e →
    ∃ r, c.refusal (past ++ since) r = some e
  /-- Every attempt, the first one included, begins with a queue that the call has filled. -/
  filled : ∀ since answer later, course = since ++ .exchange .token answer :: later →
    ∃ w ∈ since, w.IsWrite
  shrinks : ∀ before during after, course = before ++ (during ++ after) →
    (call = .byHand ∨ ∃ w ∈ before, w.IsWrite) → (c.queueAt (past ++ before)).Shrinks during
  /-- From the first write of a scheduled call on, which fills the queue. -/
  scheduled : call = .scheduled → ∀ since write appended later,
    course = since ++ write :: (appended ++ later) → write.IsWrite → (∀ w ∈ since, ¬ w.IsWrite) →
    ∃ instances, .exchange .activeInstances (.ok instances) ∈ since ∧
      AtMostOneEach instances appended
        (c.queueAt (past ++ (since ++ write :: appended))).rows

section Client

variable {c : Collaborators} {plan : BillingPlan} {client : Client} {replies : Nat → Reply}
  {past : Chronicle} {call : Call} {course : List Happening}

/-- Batches that fit are all answered. -/
theorem AnsweredThrough.answered {sent : List Submitted} (h : AnsweredThrough client replies sent)
    (fitting : ∀ batch ∈ sent.map (·.1), 0 < batch.length ∧ batch.length ≤ client.pageSize) :
    Answered sent := by
  rintro ⟨batch, answer⟩ member
  obtain ⟨k, at_k⟩ := List.mem_iff_getElem?.1 member
  obtain ⟨clock, rfl⟩ := h k batch answer at_k
  obtain ⟨some_left, fits⟩ := fitting batch (List.mem_map_of_mem member)
  obtain ⟨failures, answered, -⟩ :=
    submit_of_fitting (List.length_pos_iff.1 some_left) fits (replies k) clock
  exact ⟨failures, answered⟩

/-- What a call does is one of the courses of its kind. -/
theorem Collaborators.Does.calls {result : Except Crash (Except ServiceError call.Outcome)}
    (h : c.Does (call.program plan).run past result course) (numbered : (c.queueAt past).Numbered)
    (unspent : (c.queueAt (past ++ course)).Unspent) :
    ∃ failed, Calls plan (c.queueAt past) call course failed := by
  cases call with
  | scheduled => exact ⟨_, (h.runScheduled numbered unspent).calls_scheduled⟩
  | byHand =>
    obtain ⟨answer, -, guards⟩ := h.retryOutstanding numbered unspent
    exact ⟨_, guards.calls_byHand⟩

/-- Where the plan takes its batch size from the client, every batch of a call fits the client. -/
theorem Calls.fitting_client {q : FailureQueue} {failed : Bool} {endpoint resourceId : String}
    {pageSize : Nat} {policy : RejectionPolicy} (h : Calls plan q call course failed)
    (limit : plan.batchSize = (Client.atLeastOne endpoint resourceId pageSize policy).pageSize) :
    Fitting (Client.atLeastOne endpoint resourceId pageSize policy).pageSize course := by
  have size : max plan.batchSize 1 = (Client.atLeastOne endpoint resourceId pageSize policy).pageSize := by
    rw [limit]
    exact Nat.max_eq_left (Nat.le_max_right pageSize 1)
  exact size ▸ h.fitting

/-- A call whose batches are all answered fails on what it asks of others. -/
theorem Collaborators.Does.failsOn {e : ServiceError}
    (h : c.Does (call.program plan).run past (.ok (.error e)) course)
    (numbered : (c.queueAt past).Numbered) (unspent : (c.queueAt (past ++ course)).Unspent)
    (answered : Answered (submittedIn course)) :
    (call = .byHand ∧ e = runInProgress ∧ .exchange .takeGuard false ∈ course) ∨ FailsOn e course := by
  have inside {others body : List Happening} (same : course =
      others ++ .exchange .takeGuard true :: (body ++ [.exchange .releaseGuard ()])) :
      Answered (submittedIn body) := by
    subst same
    exact answered.right.tail.left
  cases call with
  | scheduled =>
    cases h.runScheduled numbered unspent with
    | busy _ leaves => cases leaves.2
    | held _ schedules => exact .inr (schedules.failsOn (inside rfl)).left.tail.right
  | byHand =>
    obtain ⟨_, same, guards⟩ := h.retryOutstanding numbered unspent
    cases same
    cases guards with
    | busy _ leaves =>
      cases leaves.2
      exact .inl ⟨rfl, rfl, by simp⟩
    | held _ retries => exact .inr (retries.failsOn (inside rfl)).left.tail.right

/-- A read of the queue fails only where it is refused. -/
theorem Collaborators.Genuine.refused {earlier : Chronicle} {h : Happening} {e : ServiceError}
    (genuine : c.Genuine earlier h) (unread : h.Unread e) : ∃ r, c.refusal earlier r = some e := by
  have refused {α : Type} {r : Request} {a : α}
      (same : Except.error e = c.unlessRefused earlier r (.ok a)) : c.refusal earlier r = some e := by
    unfold unlessRefused at same
    split at same
    next refusal =>
      cases same
      exact refusal
    next => cases same
  cases unread with
  | page cursor limit => exact ⟨_, refused genuine⟩
  | listAll => exact ⟨_, refused genuine⟩

/-- A call through the metering client never fails on it, and only shrinks the queue that it has
filled, whatever the page size, the rows of the queue and the replies. -/
theorem run_only_shrinks {endpoint resourceId : String} {pageSize : Nat} {policy : RejectionPolicy}
    {result : Except Crash (Except ServiceError call.Outcome)} (reachable : c.queue.Reachable)
    (metered : c.MetersThrough (.atLeastOne endpoint resourceId pageSize policy) replies)
    (limit : plan.batchSize = (Client.atLeastOne endpoint resourceId pageSize policy).pageSize)
    (h : c.Does (call.program plan).run past result course)
    (unspent : (c.queueAt (past ++ course)).Unspent) :
    OnlyShrinks c plan (.atLeastOne endpoint resourceId pageSize policy) past call result course := by
  have numbered : (c.queueAt past).Numbered := reachable.numbered.afterAll past
  have genuine := h.genuine
  have through := metered.answeredThrough genuine
  obtain ⟨failed, calls⟩ := h.calls numbered unspent
  have fitting := calls.fitting_client limit
  have answered := through.answered fitting
  have storable : ∀ failures, .exchange (.seed failures) (.ok ()) ∈ course →
      FailureQueue.Storable failures := by
    intro failures member
    obtain ⟨_, _, -, served⟩ := h.answered member
    exact Collaborators.reply_seed served
  have shrinks : ∀ before during after, course = before ++ (during ++ after) →
      (call = .byHand ∨ ∃ w ∈ before, w.IsWrite) → (c.queueAt (past ++ before)).Shrinks during := by
    intro before during after split filled
    rw [Collaborators.queueAt_append]
    exact calls.shrinks split filled through storable
  refine ⟨fitting, answered, ?_, ?_, fun _ _ _ => calls.filled_before_token, shrinks, ?_⟩
  · rintro e rfl
    exact h.failsOn numbered unspent answered
  · rintro since happening later e rfl unread
    exact (throughout_iff.1 genuine since happening later rfl).refused unread
  · rintro rfl since write appended later split wrote first
    obtain ⟨instances, now, clock, failures, listed, rfl, scheduled⟩ :=
      calls.first_write split wrote first
    refine ⟨instances, listed, ?_⟩
    have holds : (c.queueAt (past ++ (since ++ [.exchange (.seed failures) (.ok ())]))).Holds
        failures := by
      rw [← List.append_assoc, Collaborators.queueAt_append]
      exact FailureQueue.holds_after_seed (storable failures (by simp [split])) _
    have shrunk := shrinks (since ++ [.exchange (.seed failures) (.ok ())]) appended later
      (by simp [split]) (.inr ⟨_, List.mem_append_right _ List.mem_cons_self, wrote⟩)
    have each := shrunk.atMostOneEach holds scheduled
    rw [← Collaborators.queueAt_append] at each
    simpa using each

end Client

/-! ## A run whose first batch is lost, and one that cannot read the queue -/

namespace PageOfOne

def client : Client := .atLeastOne "" "" 0 .allRejected

def replies : Nat → Reply
  | 0 => .lost
  | _ + 1 => .answered 201 ""

def plan : BillingPlan := ⟨"", ⟨2, 0⟩, client.pageSize, false⟩

def collaborators : Collaborators :=
  .obliging {} (Trio.instances.take 2) ⟨0, 0⟩ (.ok "") fun past batch =>
    (client.submit batch (replies (batchesIn past).length) (.still ⟨0, 0⟩)).result

theorem account_run :
    collaborators.account (collaborators.perform (Call.program plan .scheduled).run []) =
      (.ok (.ok (.succeeded 2 2)), 3, [["i-1"], ["i-3"], ["i-1"]]) := by
  cbv

/-- The record of the batch that was lost is the only one that is left for the second attempt. -/
theorem lost_batch_only_shrinks : ∃ course,
    collaborators.Does (Call.program plan .scheduled).run [] (.ok (.ok (.succeeded 2 2))) course ∧
    OnlyShrinks collaborators plan client [] .scheduled (.ok (.ok (.succeeded 2 2))) course := by
  obtain ⟨course, does, unspent, -⟩ :=
    Collaborators.exists_does_of_account account_run (by decide)
  exact ⟨course, does,
    run_only_shrinks .empty (fun _ _ _ => ⟨.still ⟨0, 0⟩, rfl⟩) rfl does unspent⟩

end PageOfOne

namespace Unreadable

def client : Client := .atLeastOne "" "" 100 .duplicateOnly

def plan : BillingPlan := ⟨"", ⟨1, 0⟩, client.pageSize, false⟩

def unreadable : ServiceError :=
  ErrorKind.database.because "next_page call 1 failed"

def refusal : Request → Option ServiceError
  | .page _ _ => some unreadable
  | _ => none

/-- No page of the queue can be fetched. -/
def collaborators : Collaborators :=
  { Collaborators.obliging {} [] ⟨0, 0⟩ (.ok "") fun _ batch =>
      (client.submit batch .lost (.still ⟨0, 0⟩)).result with
    refusal := fun _ => refusal }

def course : List Happening :=
  [.exchange .takeGuard true, .exchange .activeInstances (.ok []), .exchange .now (some ⟨0, 0⟩),
    .exchange .wallClock (.still ⟨0, 0⟩), .exchange (.seed []) (.ok ()), .exchange (.observe (.depth 0)) (),
    .exchange .token (.ok ""), .exchange (.page none 100) (.error unreadable),
    .exchange (.observe (.run "error")) (), .exchange .releaseGuard ()]

/-- The run fails on no instances, no token and no write, and the metering API is never asked. -/
theorem unread_queue_fails_run :
    collaborators.MetersThrough client (fun _ => .lost) ∧ plan.batchSize = client.pageSize ∧
      collaborators.Does (Call.program plan .scheduled).run [] (.ok (.error unreadable)) course ∧
      ¬ ∃ h ∈ course, ∃ e, h.Refuses e := by
  refine ⟨fun _ _ _ => ⟨.still ⟨0, 0⟩, rfl⟩, rfl, ?_, ?_⟩
  · unfold Collaborators.Does
    cbv
  · rintro ⟨h, member, e, refuses⟩
    cases refuses <;> simp [course] at member

end Unreadable

end UsageBilling
