import Mathlib
import UsageBilling.Proofs.Courses.Submissions
import UsageBilling.Proofs.Instances
import UsageBilling.Proofs.Metering.Settling

/-!
# Acceptance

Where batches go through the metering client, a run that succeeds has settled
each of its records exactly once: every other submission of a record came
before the one that settled it and left it outstanding. The invariant goes from
attempt to attempt: a record that is still in the queue was not settled yet, and
one that was settled is not in the queue any more.
-/

namespace UsageBilling

open Billing Metering
open Calendar (Instant)

/-! ## Positions in batches -/

/-- The record stands at this position of this batch. -/
def StandsAt (batches : List (List UsagePayload)) (k position : Nat) (p : UsagePayload) : Prop :=
  ∃ batch, batches[k]? = some batch ∧ batch[position]? = some p

/-- The reply to this batch settles the record at this position of it. -/
def SettledAt (policy : RejectionPolicy) (replies : Nat → Reply) (batches : List (List UsagePayload))
    (k position : Nat) : Prop :=
  ∃ batch, batches[k]? = some batch ∧ (replies k).Settles policy batch position

/-- The record is settled at exactly one position, and not submitted again after it: every other
submission of it is in an earlier batch, whose reply does not settle it. -/
def SettledOnce (policy : RejectionPolicy) (replies : Nat → Reply)
    (batches : List (List UsagePayload)) (p : UsagePayload) : Prop :=
  ∃ k position, StandsAt batches k position p ∧ SettledAt policy replies batches k position ∧
    ∀ k' position', StandsAt batches k' position' p → (k', position') ≠ (k, position) →
      k' < k ∧ ¬ SettledAt policy replies batches k' position'

section Positions

variable {policy : RejectionPolicy} {replies : Nat → Reply} {batch : List UsagePayload}
  {batches first second : List (List UsagePayload)} {k position : Nat} {p : UsagePayload}

/-- A record in some batch has a position. -/
theorem exists_standsAt (h : p ∈ batches.flatten) : ∃ k position, StandsAt batches k position p := by
  obtain ⟨batch, member, inside⟩ := List.mem_flatten.1 h
  obtain ⟨k, at_k⟩ := List.mem_iff_getElem?.1 member
  obtain ⟨position, at_position⟩ := List.mem_iff_getElem?.1 inside
  exact ⟨k, position, batch, at_k, at_position⟩

theorem StandsAt.mem (h : StandsAt batches k position p) : p ∈ batches.flatten := by
  obtain ⟨batch, at_k, at_position⟩ := h
  exact List.mem_flatten_of_mem (List.mem_of_getElem? at_k) (List.mem_of_getElem? at_position)

theorem standsAt_cons_zero : StandsAt (batch :: batches) 0 position p ↔ batch[position]? = some p := by
  simp [StandsAt]

theorem standsAt_cons_succ :
    StandsAt (batch :: batches) (k + 1) position p ↔ StandsAt batches k position p := .rfl

/-- Where no record is submitted twice, a record has one position. -/
theorem StandsAt.unique {k' position' : Nat} (nodup : batches.flatten.Nodup)
    (h : StandsAt batches k position p) (h' : StandsAt batches k' position' p) :
    (k', position') = (k, position) := by
  induction batches generalizing k k' with
  | nil =>
    obtain ⟨_, at_k, -⟩ := h
    cases at_k
  | cons batch batches ih =>
    rw [List.flatten_cons, List.nodup_append] at nodup
    obtain ⟨first, others, apart⟩ := nodup
    cases k with
    | zero =>
      rw [standsAt_cons_zero] at h
      cases k' with
      | zero =>
        obtain ⟨within, -⟩ := List.getElem?_eq_some_iff.1 h
        rw [(List.getElem?_inj within first).1 (h.trans (standsAt_cons_zero.1 h').symm)]
      | succ k' =>
        exact absurd rfl (apart p (List.mem_of_getElem? h) p (standsAt_cons_succ.1 h').mem)
    | succ k =>
      rw [standsAt_cons_succ] at h
      cases k' with
      | zero =>
        exact absurd rfl (apart p (List.mem_of_getElem? (standsAt_cons_zero.1 h')) p h.mem)
      | succ k' =>
        have same := ih others h (standsAt_cons_succ.1 h')
        simpa using same

/-- Batches that follow change no position. -/
theorem standsAt_append_left (within : k < first.length) :
    StandsAt (first ++ second) k position p ↔ StandsAt first k position p := by
  simp [StandsAt, List.getElem?_append_left within]

theorem standsAt_append_right :
    StandsAt (first ++ second) (first.length + k) position p ↔ StandsAt second k position p := by
  simp [StandsAt, List.getElem?_append_right]

theorem settledAt_append_left (within : k < first.length) :
    SettledAt policy replies (first ++ second) k position ↔
      SettledAt policy replies first k position := by
  simp [SettledAt, List.getElem?_append_left within]

theorem settledAt_append_right :
    SettledAt policy replies (first ++ second) (first.length + k) position ↔
      SettledAt policy (fun k => replies (first.length + k)) second k position := by
  simp [SettledAt, List.getElem?_append_right]

theorem StandsAt.lt_length (h : StandsAt batches k position p) : k < batches.length := by
  obtain ⟨_, at_k, -⟩ := h
  exact (List.getElem?_eq_some_iff.1 at_k).1

/-- A record that is settled in the first batches and does not come again is settled once. -/
theorem SettledOnce.of_first (nodup : first.flatten.Nodup) (h : StandsAt first k position p)
    (settled : SettledAt policy replies first k position) (no_more : p ∉ second.flatten) :
    SettledOnce policy replies (first ++ second) p := by
  refine ⟨k, position, (standsAt_append_left h.lt_length).2 h,
    (settledAt_append_left h.lt_length).2 settled, fun k' position' h' other => ?_⟩
  by_cases early : k' < first.length
  · exact absurd (h.unique nodup ((standsAt_append_left early).1 h')) other
  · obtain ⟨k', rfl⟩ := Nat.exists_eq_add_of_le (Nat.le_of_not_lt early)
    exact absurd (standsAt_append_right.1 h').mem no_more

/-- A record that the first batches leave outstanding is settled once if the second ones do so. -/
theorem SettledOnce.of_second
    (outstanding : ∀ k position, StandsAt first k position p →
      ¬ SettledAt policy replies first k position)
    (h : SettledOnce policy (fun k => replies (first.length + k)) second p) :
    SettledOnce policy replies (first ++ second) p := by
  obtain ⟨k, position, stands, settled, others⟩ := h
  refine ⟨first.length + k, position, standsAt_append_right.2 stands,
    settledAt_append_right.2 settled, fun k' position' h' other => ?_⟩
  by_cases early : k' < first.length
  · refine ⟨by omega, ?_⟩
    rw [settledAt_append_left early]
    exact outstanding _ _ ((standsAt_append_left early).1 h')
  · obtain ⟨k', rfl⟩ := Nat.exists_eq_add_of_le (Nat.le_of_not_lt early)
    rw [standsAt_append_right] at h'
    obtain ⟨earlier, unsettled⟩ := others k' position' h' (by simpa using other)
    exact ⟨by omega, fun settled => unsettled (settledAt_append_right.1 settled)⟩

end Positions

/-! ## Answers of the client -/

/-- The submissions go through the client, which gets one reply after another. -/
def AnsweredThrough (client : Client) (replies : Nat → Reply) (sent : List Submitted) : Prop :=
  ∀ k batch answer, sent[k]? = some (batch, answer) →
    ∃ clock, answer = (client.submit batch (replies k) clock).result

/-- Every submission was answered. -/
def Answered (sent : List Submitted) : Prop :=
  ∀ s ∈ sent, ∃ failures, s.2 = .ok failures

section Answers

variable {client : Client} {replies : Nat → Reply} {sent first second : List Submitted}

/-- The first batches were answered through the client. -/
theorem AnsweredThrough.left (h : AnsweredThrough client replies (first ++ second)) :
    AnsweredThrough client replies first := by
  intro k batch answer at_k
  refine h k batch answer ?_
  rw [List.getElem?_append_left (List.getElem?_eq_some_iff.1 at_k).1, at_k]

theorem AnsweredThrough.right (h : AnsweredThrough client replies (first ++ second)) :
    AnsweredThrough client (fun k => replies (first.length + k)) second := by
  intro k batch answer at_k
  refine h (first.length + k) batch answer ?_
  simpa [List.getElem?_append_right] using at_k

theorem AnsweredThrough.tail {s : Submitted} (h : AnsweredThrough client replies (s :: sent)) :
    AnsweredThrough client (fun k => replies (k + 1)) sent :=
  fun k batch answer at_k => h (k + 1) batch answer at_k

/-- What comes back is what was submitted, or less, in order. -/
theorem returnedFrom_sublist (through : AnsweredThrough client replies sent)
    (answered : Answered sent) :
    (payloads (returnedFrom sent)).Sublist (sent.map (·.1)).flatten := by
  induction sent generalizing replies with
  | nil => exact .slnil
  | cons s sent ih =>
    obtain ⟨batch, answer⟩ := s
    obtain ⟨failures, rfl⟩ := answered _ List.mem_cons_self
    obtain ⟨clock, submitted⟩ := through 0 batch _ rfl
    have others := ih through.tail fun s member => answered s (List.mem_cons_of_mem _ member)
    have this_one := payloads_submit_sublist submitted.symm
    simpa [returnedFrom, payloads, Except.toOption] using this_one.append others

/-- A record comes back exactly if the reply to its batch does not settle it. -/
theorem mem_returnedFrom {k position : Nat} {p : UsagePayload}
    (through : AnsweredThrough client replies sent) (answered : Answered sent)
    (nodup : (sent.map (·.1)).flatten.Nodup) (h : StandsAt (sent.map (·.1)) k position p) :
    p ∈ payloads (returnedFrom sent) ↔
      ¬ SettledAt client.policy replies (sent.map (·.1)) k position := by
  induction sent generalizing replies k with
  | nil =>
    obtain ⟨_, at_k, -⟩ := h
    cases at_k
  | cons s sent ih =>
    obtain ⟨batch, answer⟩ := s
    obtain ⟨failures, rfl⟩ := answered _ List.mem_cons_self
    obtain ⟨clock, submitted⟩ := through 0 batch _ rfl
    have answered_others : Answered sent := fun s member =>
      answered s (List.mem_cons_of_mem _ member)
    have split : payloads (returnedFrom ((batch, .ok failures) :: sent)) =
        payloads failures ++ payloads (returnedFrom sent) := by
      simp [returnedFrom, payloads, Except.toOption]
    rw [List.map_cons, List.flatten_cons, List.nodup_append] at nodup
    obtain ⟨nodup_batch, nodup_others, apart⟩ := nodup
    rw [split, List.mem_append]
    cases k with
    | zero =>
      rw [List.map_cons, standsAt_cons_zero] at h
      have not_later : p ∉ payloads (returnedFrom sent) := fun later =>
        apart p (List.mem_of_getElem? h) p
          ((returnedFrom_sublist through.tail answered_others).mem later) rfl
      rw [or_iff_left not_later, mem_payloads_submit submitted.symm nodup_batch h]
      simp [SettledAt]
    | succ k =>
      rw [List.map_cons, standsAt_cons_succ] at h
      have not_here : p ∉ payloads failures := fun here =>
        apart p ((payloads_submit_sublist submitted.symm).mem here) p h.mem rfl
      rw [or_iff_right not_here, ih through.tail answered_others nodup_others h]
      rfl

end Answers

/-! ## From attempt to attempt -/

section Attempts

variable {client : Client} {replies : Nat → Reply} {plan : BillingPlan} {q : FailureQueue}
  {course : List Happening}

/-- An attempt settles a record, or leaves it in the queue. -/
theorem BillsQueue.fates (h : BillsQueue plan q course) (answered : Answered (submittedIn course))
    (through : AnsweredThrough client replies (submittedIn course))
    (nodup : (payloadsOf q.rows).Nodup) :
    (payloadsOf (q.afterAll course).rows).Sublist (payloadsOf q.rows) ∧
      ∀ k position p, StandsAt (batchesIn course) k position p →
        (p ∈ payloadsOf (q.afterAll course).rows ↔
          ¬ SettledAt client.policy replies (batchesIn course) k position) := by
  rw [h.left.payloadsOf, ← h.flatten_batchesIn]
  rw [← h.flatten_batchesIn] at nodup
  exact ⟨returnedFrom_sublist through answered,
    fun k position p stands => mem_returnedFrom through answered nodup stands⟩

/-- Attempts that succeed in the end settle each record of the queue once, and submit no other. -/
theorem Retries.settledOnce {more number attempts : Nat}
    {answer : Except ServiceError (RetryOutcome (List UsageFailure))}
    (h : Retries plan more number q course answer) (ended : answer = .ok (.succeeded attempts))
    (alone : Undisturbed course) (through : AnsweredThrough client replies (submittedIn course))
    (nodup : (payloadsOf q.rows).Nodup) :
    (∀ p ∈ (batchesIn course).flatten, p ∈ payloadsOf q.rows) ∧
      ∀ p ∈ payloadsOf q.rows, SettledOnce client.policy replies (batchesIn course) p := by
  -- the replies to later attempts are those that come after the replies to the first one
  induction h generalizing replies with
  | failed => cases ended
  | exhausted => cases ended
  | @succeeded more number q course tries =>
    obtain ⟨bills, done⟩ := tries.billsQueue alone
    obtain ⟨-, fates⟩ := bills.fates tries.answered through nodup
    have nothing_left : payloadsOf (q.afterAll course).rows = [] := by
      rw [bills.left.payloadsOf, Attempt.success_eq_leaving.1 done]
      rfl
    rw [← bills.flatten_batchesIn] at nodup ⊢
    refine ⟨fun p => id, fun p pending => ?_⟩
    obtain ⟨k, position, stands⟩ := exists_standsAt pending
    have settled : SettledAt client.policy replies (batchesIn course) k position := by
      have fate := fates k position p stands
      rw [nothing_left] at fate
      simpa using fate
    have once : SettledOnce client.policy replies (batchesIn course ++ []) p :=
      .of_first nodup stands settled (by simp)
    rwa [List.append_nil] at once
  | @again more number q first rest left result tries retries ih =>
    have sent : submittedIn (first ++ .exchange (.wait plan.retry.backoff) () :: rest) =
        submittedIn first ++ submittedIn rest := by
      rw [submittedIn_append, submittedIn_cons_of_none rfl]
    have batches : batchesIn (first ++ .exchange (.wait plan.retry.backoff) () :: rest) =
        batchesIn first ++ batchesIn rest := by
      rw [batchesIn, sent, List.map_append]
      rfl
    rw [sent] at through
    have offset : (submittedIn first).length = (batchesIn first).length := by
      rw [batchesIn, List.length_map]
    have through_rest := through.right
    rw [offset] at through_rest
    obtain ⟨bills, -⟩ := tries.billsQueue (alone.part fun h => List.mem_append_left _)
    obtain ⟨fewer, fates⟩ := bills.fates tries.answered through.left nodup
    have alone_rest : Undisturbed rest := alone.part fun h member =>
      List.mem_append_right _ (List.mem_cons_of_mem _ member)
    obtain ⟨no_other, once⟩ := ih ended alone_rest through_rest (fewer.nodup nodup)
    rw [batches, ← bills.flatten_batchesIn]
    rw [← bills.flatten_batchesIn] at nodup fewer
    constructor
    · intro p submitted
      rw [List.flatten_append] at submitted
      rcases List.mem_append.1 submitted with here | later
      · exact here
      · exact fewer.mem (no_other p later)
    · intro p pending
      by_cases left : p ∈ payloadsOf (q.afterAll first).rows
      · exact .of_second (fun k position stands => (fates k position p stands).1 left) (once p left)
      · obtain ⟨k, position, stands⟩ := exists_standsAt pending
        have settled := not_not.1 (mt (fates k position p stands).2 left)
        exact .of_first nodup stands settled fun later => left (no_other p later)

end Attempts

/-! ## Scheduled runs -/

/-- The metering API is asked through this client, and its replies come one after another. -/
def Collaborators.MetersThrough (c : Collaborators) (client : Client) (replies : Nat → Reply) : Prop :=
  ∀ past token batch, ∃ clock, c.answer past (.submit token batch) =
    (client.submit batch (replies (batchesIn past).length) clock).result

/-- In a course around such collaborators every batch was answered through the client. -/
theorem Collaborators.MetersThrough.answeredThrough {c : Collaborators} {client : Client}
    {replies : Nat → Reply} {past : Chronicle} {course : List Happening}
    (h : c.MetersThrough client replies) (genuine : Throughout c.Genuine past course) :
    AnsweredThrough client (fun k => replies ((batchesIn past).length + k)) (submittedIn course) := by
  induction course generalizing past with
  | nil => nofun
  | cons happening course ih =>
    obtain ⟨answered, genuine⟩ := genuine
    have others := ih genuine
    cases sent : happening.submitted? with
    | none =>
      have same : batchesIn (past ++ [happening]) = batchesIn past := by
        simp [batchesIn, submittedIn_cons_of_none sent]
      rwa [submittedIn_cons_of_none sent, ← same]
    | some s =>
      obtain ⟨token, batch, answer, rfl⟩ := exists_submit_of_submitted sent
      cases sent
      have more : (batchesIn (past ++ [.exchange (.submit token batch) answer])).length =
          (batchesIn past).length + 1 := by
        simp [batchesIn, submittedIn, Happening.submitted?]
      intro k batch' answer' at_k
      cases k with
      | zero =>
        cases at_k
        obtain ⟨clock, same⟩ := h past token batch
        exact ⟨clock, Eq.trans answered same⟩
      | succ k =>
        rw [more] at others
        obtain ⟨clock, same⟩ := others k batch' answer' at_k
        have index : (batchesIn past).length + 1 + k = (batchesIn past).length + (k + 1) := by omega
        exact ⟨clock, by simpa only [index] using same⟩

/-- The course of a scheduled run that succeeds. -/
theorem Guards.of_succeeded {plan : BillingPlan} {q : FailureQueue} {course : List Happening}
    {attempts submitted : Nat}
    (h : Guards Skips (Schedules plan) q course (.ok (.ok (.succeeded attempts submitted))))
    (alone : Undisturbed course) :
    ∃ instances now clock failures retried,
      course = .exchange .takeGuard true :: .exchange .activeInstances (.ok instances) ::
        .exchange .now (some now) :: .exchange .wallClock clock ::
        .exchange (.seed failures) (.ok ()) :: .exchange (.observe (.depth failures.length)) () ::
        (retried ++ [.exchange (.observe (.run "succeeded")) (), .exchange .releaseGuard ()]) ∧
      scheduledFailures now clock instances = .ok failures ∧ FailureQueue.Storable failures ∧
      Retries plan (max plan.retry.maxAttempts 1 - 1) 1
        (q.after (.exchange (.seed failures) (.ok ()))) retried (.ok (.succeeded attempts)) := by
  cases h with
  | busy _ leaves => cases leaves.2
  | held arrivals schedules =>
    obtain rfl := arrivals.eq_nil alone
    cases schedules with
    | billed seeds bills =>
      cases seeds with
      | @seeded instances now clock failures scheduled storable =>
        cases bills with
        | succeeded retries =>
          exact ⟨instances, now, clock, failures, _, by simp [endName, RunOutcome.name], scheduled,
            storable, retries⟩

/-- A scheduled run that succeeds has settled the record of each active instance exactly once, and
did not submit it again afterwards. -/
theorem runScheduled_settledOnce {c : Collaborators} {plan : BillingPlan} {client : Client}
    {replies : Nat → Reply} {instances : List ServiceInstance} {course : List Happening}
    {attempts submitted : Nat} (reachable : c.queue.Reachable)
    (distinct : (instances.map (·.instanceId)).Nodup) (alone : ∀ past, c.arrivals past = [])
    (listed : ∀ past, c.answer past .activeInstances = .ok (InstanceStore.ofList instances).rows)
    (metered : c.MetersThrough client replies)
    (h : c.Does (runScheduled plan).run [] (.ok (.ok (.succeeded attempts submitted))) course)
    (unspent : (c.queueAt course).Unspent) :
    ∃ now, .exchange .now (some now) ∈ course ∧ ∀ i ∈ instances, ∃ p,
      usagePayload i .scheduled now = .ok p ∧
        SettledOnce client.policy replies (batchesIn course) p := by
  have undisturbed := h.undisturbed alone
  have genuine := h.genuine
  have through := metered.answeredThrough genuine
  obtain ⟨instances', now, _, failures, retried, rfl, scheduled, storable, retries⟩ :=
    (h.runScheduled reachable.numbered unspent).of_succeeded undisturbed
  have listing : .ok instances' = c.answer [.exchange .takeGuard true] .activeInstances :=
    genuine.2.1
  obtain rfl := Except.ok.inj (listing.trans (listed _))
  have perm := InstanceStore.ofList_perm distinct
  have initial := scheduledFailures_initial scheduled
  have pending := ((c.queueAt []).holds_after_seed storable).payloadsOf
  have nodup : (failures.map (·.payload)).Nodup :=
    nodup_of_initial initial ((perm.map _).nodup_iff.2 distinct)
  have sent : submittedIn (retried ++ [.exchange (.observe (.run "succeeded")) (),
      .exchange .releaseGuard ()]) = submittedIn retried := by
    simp [submittedIn, Happening.submitted?]
  have batches : batchesIn (retried ++ [.exchange (.observe (.run "succeeded")) (),
      .exchange .releaseGuard ()]) = batchesIn retried := by
    rw [batchesIn, sent, ← batchesIn]
  have alone_retried : Undisturbed retried := undisturbed.part fun h member => by simp [member]
  have through_retried : AnsweredThrough client replies (submittedIn retried) := by
    have through : AnsweredThrough client (fun k => replies (0 + k)) (submittedIn (retried ++ _)) :=
      through
    simpa [sent] using through
  obtain ⟨-, once⟩ := retries.settledOnce rfl alone_retried through_retried (pending ▸ nodup)
  refine ⟨now, by simp, fun i member => ?_⟩
  obtain ⟨f, inside, billed⟩ := exists_of_initial initial (perm.mem_iff.2 member)
  refine ⟨f.payload, billed, ?_⟩
  have settled := once f.payload (pending ▸ List.mem_map_of_mem inside)
  show SettledOnce client.policy replies (batchesIn (retried ++ _)) f.payload
  rwa [batches]

/-! ## A run whose first batch is lost -/

namespace LostOnce

/-- A client that sends two records at most. -/
def client : Client := .atLeastOne "" "" 2 .duplicateOnly

/-- The first of two records is accepted, and the second one turned down for good. -/
def oneByOne : String :=
  "\x7b\"resources\":[\x7b\"status\":201\x7d,\x7b\"status\":400\x7d]\x7d"

/-- The first batch is lost, the second one accepted, and the third one settled one by one. -/
def replies : Nat → Reply
  | 0 => .lost
  | 1 => .answered 201 ""
  | _ + 2 => .answered 202 oneByOne

def plan : BillingPlan := ⟨"", ⟨2, 0⟩, client.pageSize, false⟩

def collaborators : Collaborators :=
  .obliging {} Trio.instances ⟨0, 0⟩ (.ok "") fun past batch =>
    (client.submit batch (replies (batchesIn past).length) (.still ⟨0, 0⟩)).result

theorem account_run : collaborators.account (collaborators.perform (runScheduled plan).run []) =
    (.ok (.ok (.succeeded 2 3)), 5, [["i-1", "i-2"], ["i-3"], ["i-1", "i-2"]]) := by
  cbv

/-- The records of the batch that was lost are settled together in another one. -/
theorem run_settledOnce : ∃ course, collaborators.Does (runScheduled plan).run []
      (.ok (.ok (.succeeded 2 3))) course ∧
    (batchesIn course).map (·.map (·.instanceId)) = [["i-1", "i-2"], ["i-3"], ["i-1", "i-2"]] ∧
    ∃ now, .exchange .now (some now) ∈ course ∧ ∀ i ∈ Trio.instances, ∃ p,
      usagePayload i .scheduled now = .ok p ∧
        SettledOnce client.policy replies (batchesIn course) p := by
  obtain ⟨course, does, unspent, submitted⟩ :=
    Collaborators.exists_does_of_account account_run (by decide)
  exact ⟨course, does, submitted, runScheduled_settledOnce .empty Trio.distinct (fun _ => rfl)
    (fun _ => rfl) (fun _ _ _ => ⟨.still ⟨0, 0⟩, rfl⟩) does unspent⟩

end LostOnce

end UsageBilling
