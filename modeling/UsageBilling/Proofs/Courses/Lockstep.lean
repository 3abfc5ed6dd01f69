import UsageBilling.Proofs.Lockstep

/-!
# The parts of a call in lockstep

Whatever a part of a call is handed, it asks the same if that differs only in what
is not seen of time stamps: what is submitted and told is made of payloads, messages
and ids, and which way a run takes depends on how many records there are. A summary
is dispatched and its outcome forgotten, so that nothing that follows can depend
on it.
-/

namespace UsageBilling

open Billing
open Calendar (Instant)
open Program (Lockstep)

/-! ## What the parts come to -/

/-- What a pass has found, as far as stamps are seen. -/
def Billing.Pass.seen (see : Instant → Instant) (pass : Pass) : Pass :=
  ⟨seenFailures see pass.failures, seenRows see pass.undecodable⟩

/-- What an attempt leaves, as far as stamps are seen. -/
def Attempt.seen (see : Instant → Instant) :
    Attempt (List UsageFailure) → Attempt (List UsageFailure)
  | success => success
  | retryable left => retryable (seenFailures see left)

/-- What all attempts leave, as far as stamps are seen. -/
def RetryOutcome.seen (see : Instant → Instant) :
    RetryOutcome (List UsageFailure) → RetryOutcome (List UsageFailure)
  | succeeded attempts => succeeded attempts
  | exhausted attempts last => exhausted attempts (seenFailures see last)

/-! ## In lockstep -/

section Lockstep

variable {see : Instant → Instant} {α β γ δ : Type} {view : β → γ} {plan : BillingPlan}

theorem seenFailures_append (first second : List UsageFailure) :
    seenFailures see (first ++ second) = seenFailures see first ++ seenFailures see second :=
  List.map_append

theorem seenRows_append (first second : List FailureRecord) :
    seenRows see (first ++ second) = seenRows see first ++ seenRows see second :=
  List.map_append

/-- Failures that look the same are equally many. -/
theorem length_eq_of_seenFailures {failures failures' : List UsageFailure}
    (same : seenFailures see failures = seenFailures see failures') :
    failures.length = failures'.length := by
  simpa [seenFailures] using congrArg List.length same

theorem length_eq_of_seenRows {rows rows' : List FailureRecord}
    (same : seenRows see rows = seenRows see rows') : rows.length = rows'.length := by
  simpa [seenRows] using congrArg List.length same

theorem isEmpty_eq_of_length_eq {xs ys : List α} (same : xs.length = ys.length) :
    xs.isEmpty = ys.isEmpty := by
  rw [Bool.eq_iff_iff, List.isEmpty_iff_length_eq_zero, List.isEmpty_iff_length_eq_zero, same]

/-- A request whose answers look the same if they have the same essence. -/
theorem lockstep_ask {r : Request} {view : r.Answer → γ} (shows : ∀ answer answer' : r.Answer,
    (Happening.exchange r answer).essence see = (Happening.exchange r answer').essence see →
      view answer = view answer') : Lockstep see view (ask r) (ask r) :=
  .ask (.same r) fun answer answer' same => .done (shows answer answer' same)

/-- Answers that the essence keeps are the same in both runs. -/
theorem lockstep_asked {r : Request} (view : r.Answer → γ) (kept : ∀ answer : r.Answer,
    (Happening.exchange r answer).essence see = .exchange r answer) :
    Lockstep see view (ask r) (ask r) := by
  refine lockstep_ask fun answer answer' same => ?_
  rw [kept, kept] at same
  exact congrArg view (eq_of_heq (Happening.exchange.inj same).2)

/-- A batch is submitted in both runs, and what comes back looks the same. -/
theorem lockstep_submit (token : String) (batch : List UsagePayload) :
    Lockstep see (Except.map (seenFailures see)) (submit token batch).run (submit token batch).run :=
  lockstep_ask (r := .submit token batch) fun answer answer' same => by simpa [Happening.essence] using same

theorem lockstep_page (cursor : Option Int) (limit : Nat) :
    Lockstep see (Except.map (FailurePage.seen see)) (page cursor limit).run (page cursor limit).run :=
  lockstep_ask (r := .page cursor limit) fun answer answer' same => by simpa [Happening.essence] using same

theorem lockstep_listAll : Lockstep see (Except.map (seenRows see)) listAll.run listAll.run :=
  lockstep_ask (r := .listAll) fun answer answer' same => by simpa [Happening.essence] using same

theorem lockstep_wallClock :
    Lockstep see (Calendar.Readings.seen see) (ask .wallClock) (ask .wallClock) :=
  lockstep_ask (r := .wallClock) fun answer answer' same => by simpa [Happening.essence] using same

theorem lockstep_observe (o : Observation) : Lockstep see id (observe o) (observe o) :=
  lockstep_ask (r := .observe o) fun _ _ _ => rfl

/-- Whether the summary goes out makes no difference to what follows. -/
theorem lockstep_dispatch (summary : Summary) :
    Lockstep see (fun _ => ()) (dispatch summary) (dispatch summary) := by
  refine lockstep_askThen (.same _) fun answer answer' _ => ?_
  cases answer <;> cases answer' <;> exact .ask (.escalation _ _) fun _ _ _ => .done rfl

/-- Equally many rows are counted as unreadable in both runs. -/
theorem lockstep_reportUndecodable {records records' : List FailureRecord}
    (same : records.length = records'.length) :
    Lockstep see id (reportUndecodable records) (reportUndecodable records') := by
  induction records generalizing records' with
  | nil =>
    obtain rfl := List.length_eq_zero_iff.1 same.symm
    exact .done rfl
  | cons r records ih =>
    cases records' with
    | nil => cases same
    | cons r' records' => exact (lockstep_observe _).bind fun _ _ _ => ih (Nat.succ.inj same)

/-- Rows that cannot be read are reported in both runs or in none. -/
theorem lockstep_reporting {records records' : List FailureRecord} {next next' : Unit → Billing β}
    (same : seenRows see records = seenRows see records')
    (h : Lockstep see (Except.map view) (next ()).run (next' ()).run) :
    Lockstep see (Except.map view)
      (if (!records.isEmpty) = true then
        discard (always (escalateUndecodable plan records)) >>= next else next ()).run
      (if (!records'.isEmpty) = true then
        discard (always (escalateUndecodable plan records')) >>= next' else next' ()).run := by
  have empty : records.isEmpty = records'.isEmpty :=
    isEmpty_eq_of_length_eq (length_eq_of_seenRows same)
  have told : escalateUndecodable plan records = escalateUndecodable plan records' := by
    rw [escalateUndecodable, escalateUndecodable, ← Summary.ofUndecodable_seen, same,
      Summary.ofUndecodable_seen]
  rw [empty, told]
  split
  · exact lockstep_discardThen (lockstep_dispatch _) h
  · exact h

theorem Billing.Pass.seen_eq_iff {pass pass' : Pass} : pass.seen see = pass'.seen see ↔
    seenFailures see pass.failures = seenFailures see pass'.failures ∧
      seenRows see pass.undecodable = seenRows see pass'.undecodable := by
  rw [seen, seen, mk.injEq]

/-- Batches that look the same are submitted alike. -/
theorem lockstep_submitPage (token : String) {records records' : List FailureRecord}
    {pass pass' : Pass} (rows : seenRows see records = seenRows see records')
    (found : pass.seen see = pass'.seen see) :
    Lockstep see (Except.map (Pass.seen see)) (submitPage token records pass).run
      (submitPage token records' pass').run := by
  have decoded := decodePage_seen see records
  rw [rows, decodePage_seen] at decoded
  obtain ⟨payloads, undecodable⟩ := Prod.mk.inj decoded
  obtain ⟨failures, unread⟩ := Pass.seen_eq_iff.1 found
  have more : seenRows see (pass.undecodable ++ (decodePage records).2) =
      seenRows see (pass'.undecodable ++ (decodePage records').2) := by
    rw [seenRows_append, seenRows_append, unread, undecodable]
  unfold submitPage
  refine lockstep_alwaysThen (lockstep_reportUndecodable (length_eq_of_seenRows undecodable.symm))
    fun _ _ _ => ?_
  dsimp only
  rw [payloads]
  split
  · exact lockstep_pure (Pass.seen_eq_iff.2 ⟨failures, more⟩)
  · refine lockstep_then (lockstep_submit token _) fun returned returned' same => ?_
    refine lockstep_pure (Pass.seen_eq_iff.2 ⟨?_, more⟩)
    rw [seenFailures_append, seenFailures_append, failures, same]

/-- Both runs go over the queue page by page, each from its own page to the next. -/
theorem lockstep_passOver (token : String) (fuel : Nat) (scan : Scan) {pass pass' : Pass}
    (found : pass.seen see = pass'.seen see) :
    Lockstep see (Except.map (Pass.seen see)) (passOver token fuel scan pass).run
      (passOver token fuel scan pass').run := by
  induction fuel generalizing scan pass pass' with
  | zero => exact lockstep_pure found
  | succ fuel ih =>
    rw [passOver, passOver]
    split
    · exact lockstep_pure found
    · refine lockstep_then (lockstep_page scan.cursor scan.limit) fun page page' same => ?_
      have advanced := scan.advance_seen see page
      rw [same, Scan.advance_seen] at advanced
      generalize scan.advance page = step, scan.advance page' = step' at advanced
      obtain ⟨next, records⟩ := step
      obtain ⟨next', records'⟩ := step'
      obtain ⟨rfl, rows⟩ := Prod.mk.inj advanced
      cases records with
      | none =>
        cases records' with
        | none => exact lockstep_pure found
        | some _ => cases rows
      | some records =>
        cases records' with
        | none => cases rows
        | some records' =>
          exact lockstep_then (lockstep_submitPage token (Option.some.inj rows).symm found)
            fun pass pass' found => ih _ found

theorem lockstep_attemptToken : Lockstep see (Except.map id) attemptToken.run attemptToken.run := by
  refine (lockstep_asked (r := .token) id fun _ => rfl).bind fun answer answer' same => ?_
  obtain rfl : answer = answer' := same
  cases answer with
  | ok token => exact .done rfl
  | error e => exact (lockstep_observe _).bind fun _ _ _ => .done rfl

/-- The queue is filled and its depth set in both runs. -/
theorem lockstep_seedThen {failures failures' : List UsageFailure} {f f' : Unit → Billing β}
    (same : seenFailures see failures = seenFailures see failures')
    (h : Lockstep see (Except.map view) (f ()).run (f' ()).run) :
    Lockstep see (Except.map view)
      (seed failures >>= fun _ => always (observe (.depth failures.length)) >>= f).run
      (seed failures' >>= fun _ => always (observe (.depth failures'.length)) >>= f').run := by
  have seeded : Lockstep see (Except.map id) (seed failures).run (seed failures').run :=
    .ask (.seed same) fun answer answer' same => by
      obtain ⟨-, same⟩ := Happening.exchange.inj same
      exact .done (congrArg _ (eq_of_heq same))
  rw [length_eq_of_seenFailures same]
  exact lockstep_then seeded fun _ _ _ => lockstep_alwaysThen (lockstep_observe _) fun _ _ _ => h

/-- An attempt leaves what looks the same in both runs. -/
theorem lockstep_attempt (number : Nat) :
    Lockstep see (Except.map (Attempt.seen see)) (attempt plan number).run (attempt plan number).run := by
  unfold attempt
  refine lockstep_then lockstep_attemptToken fun token token' same => ?_
  obtain rfl : token = token' := same
  refine lockstep_then (lockstep_passOver token _ _ rfl) fun pass pass' found => ?_
  obtain ⟨failures, unread⟩ := Pass.seen_eq_iff.1 found
  refine lockstep_reporting unread ?_
  have empty : pass.failures.isEmpty = pass'.failures.isEmpty :=
    isEmpty_eq_of_length_eq (length_eq_of_seenFailures failures)
  rw [empty]
  split
  · refine lockstep_then (lockstep_asked (r := .clear) (Except.map id) fun _ => rfl) fun _ _ _ => ?_
    exact lockstep_alwaysThen (lockstep_observe _) fun _ _ _ => lockstep_pure rfl
  · refine lockstep_seedThen failures (lockstep_pure ?_)
    exact congrArg Attempt.retryable failures

/-- Attempts that look the same ended in the same way. -/
theorem Attempt.seen_cases {outcome outcome' : Except ServiceError (Attempt (List UsageFailure))}
    (same : outcome.map (seen see) = outcome'.map (seen see)) :
    (∃ e, outcome = .error e ∧ outcome' = .error e) ∨
    (outcome = .ok .success ∧ outcome' = .ok .success) ∨
    ∃ left left', outcome = .ok (.retryable left) ∧ outcome' = .ok (.retryable left') ∧
      seenFailures see left = seenFailures see left' := by
  rcases outcome with e | _ | left <;> rcases outcome' with e' | _ | left' <;>
    simp_all [Except.map, seen]

/-- All attempts leave what looks the same, and both runs make equally many. -/
theorem lockstep_attempts (more number : Nat) :
    Lockstep see (Except.map (RetryOutcome.seen see))
      (RetryPolicy.attemptsFrom (m := Program surroundings) (ask (.wait plan.retry.backoff))
        (fun n => (attempt plan n).run) more number)
      (RetryPolicy.attemptsFrom (m := Program surroundings) (ask (.wait plan.retry.backoff))
        (fun n => (attempt plan n).run) more number) := by
  induction more generalizing number with
  | zero =>
    rw [RetryPolicy.attemptsFrom]
    refine (lockstep_attempt number).bind fun outcome outcome' same => ?_
    obtain ⟨e, rfl, rfl⟩ | ⟨rfl, rfl⟩ | ⟨left, left', rfl, rfl, remaining⟩ := Attempt.seen_cases same
    · exact .done rfl
    · exact .done rfl
    · exact .done (congrArg (fun left => Except.ok (RetryOutcome.exhausted number left)) remaining)
  | succ more ih =>
    rw [RetryPolicy.attemptsFrom]
    refine (lockstep_attempt number).bind fun outcome outcome' same => ?_
    obtain ⟨e, rfl, rfl⟩ | ⟨rfl, rfl⟩ | ⟨left, left', rfl, rfl, -⟩ := Attempt.seen_cases same
    · exact .done rfl
    · exact .done rfl
    · exact (lockstep_asked (r := .wait _) id fun _ => rfl).bind fun _ _ _ => ih (number + 1)

/-- Both runs come to the same outcome; the summaries that escalate them are the same. -/
theorem lockstep_attemptAndEscalate (submitted : Nat) :
    Lockstep see (Except.map id) (attemptAndEscalate plan submitted).run
      (attemptAndEscalate plan submitted).run := by
  refine lockstep_then (lockstep_attempts _ _) fun outcome outcome' same => ?_
  cases outcome with
  | succeeded attempts =>
    cases outcome' with
    | succeeded attempts' =>
      cases same
      exact lockstep_pure rfl
    | exhausted => cases same
  | exhausted attempts last =>
    cases outcome' with
    | succeeded => cases same
    | exhausted attempts' last' =>
      obtain ⟨rfl, left⟩ := RetryOutcome.exhausted.inj same
      have told : escalate plan last = escalate plan last' := by
        rw [escalate, escalate, ← Summary.ofFailures_seen, left, Summary.ofFailures_seen]
      dsimp only
      rw [told, length_eq_of_seenFailures left]
      exact lockstep_discardThen (lockstep_dispatch _) (lockstep_pure rfl)

/-- How a run ended is counted in both runs. -/
theorem lockstep_counted {run : Billing RunOutcome} (h : Lockstep see (Except.map id) run.run run.run) :
    Lockstep see (Except.map id) (counted run).run (counted run).run := by
  refine h.bind fun outcome outcome' same => ?_
  obtain rfl : outcome = outcome' := by simpa using same
  have ended : Lockstep see id (finishRun outcome) (finishRun outcome) := by
    cases outcome <;> exact lockstep_observe _
  exact ended.bind fun _ _ _ => .done rfl

theorem lockstep_orCrash {view : α → γ} {value value' : Except Crash α}
    (same : value.map view = value'.map view) : Lockstep see view (orCrash value) (orCrash value') := by
  cases value with
  | ok a =>
    cases value' with
    | ok a' => exact .done (Except.ok.inj same)
    | error reason => cases same
  | error reason =>
    cases value' with
    | ok a' => cases same
    | error reason' =>
      obtain rfl := Except.error.inj same
      exact .crash reason

/-- Both runs store the records of the active instances anew. -/
theorem lockstep_seedFromInstances :
    Lockstep see (Except.map id) seedFromInstances.run seedFromInstances.run := by
  refine lockstep_then (lockstep_asked (r := .activeInstances) (Except.map id) fun _ => rfl)
    fun instances instances' same => ?_
  obtain rfl : instances = instances' := same
  have clock : Lockstep see id readClock readClock := by
    refine (lockstep_asked (r := .now) id fun _ => rfl).bind fun reading reading' same => ?_
    obtain rfl : reading = reading' := same
    cases reading with
    | none => exact .crash .clock
    | some now => exact .done rfl
  refine lockstep_alwaysThen clock fun now now' same => ?_
  obtain rfl : now = now' := same
  refine lockstep_alwaysThen lockstep_wallClock fun wall wall' shown => ?_
  have computed : Lockstep see (seenFailures see) (orCrash (scheduledFailures now wall instances))
      (orCrash (scheduledFailures now wall' instances)) := by
    have same : (scheduledFailures now wall instances).map (seenFailures see) =
        (scheduledFailures now wall' instances).map (seenFailures see) := by
      rw [← scheduledFailures_seen, ← scheduledFailures_seen, shown]
    exact lockstep_orCrash same
  exact lockstep_alwaysThen computed fun failures failures' same =>
    lockstep_seedThen same (lockstep_pure (length_eq_of_seenFailures same))

/-- Under the guard both calls do their work, or both stand aside. -/
theorem lockstep_guarded {busy body : Billing α} {view : α → γ}
    (aside : Lockstep see (Except.map view) busy.run busy.run)
    (inside : Lockstep see (Except.map view) body.run body.run) :
    Lockstep see (Except.map view) (guarded busy body).run (guarded busy body).run := by
  refine (lockstep_asked (r := .takeGuard) id fun _ => rfl).bind fun free free' same => ?_
  obtain rfl : free = free' := same
  cases free with
  | false => exact aside
  | true => exact inside.ensuring

/-- Two manual calls go in lockstep, and return rows that look the same. -/
theorem lockstep_retryOutstanding (plan : BillingPlan) :
    Lockstep see (Except.map (seenRows see)) (retryOutstanding plan).run (retryOutstanding plan).run := by
  refine lockstep_guarded (.done rfl) ?_
  refine lockstep_then lockstep_listAll fun records records' rows => ?_
  refine lockstep_alwaysThen lockstep_wallClock fun wall wall' shown => ?_
  have found := outstanding_seen see wall records
  rw [rows, shown, outstanding_seen see wall'] at found
  generalize outstanding wall records = split, outstanding wall' records' = split' at found
  obtain ⟨failures, undecodable⟩ := split
  obtain ⟨failures', undecodable'⟩ := split'
  obtain ⟨failures_same, unread⟩ := Prod.mk.inj found
  refine lockstep_alwaysThen (lockstep_reportUndecodable (length_eq_of_seenRows unread.symm))
    fun _ _ _ => ?_
  refine lockstep_reporting unread.symm (lockstep_seedThen failures_same.symm ?_)
  rw [length_eq_of_seenFailures failures_same]
  refine lockstep_then (lockstep_counted (lockstep_attemptAndEscalate _)) fun outcome outcome' same => ?_
  obtain rfl : outcome = outcome' := same
  cases outcome with
  | escalated => exact lockstep_listAll
  | succeeded => exact lockstep_pure rfl
  | skipped => exact lockstep_pure rfl

/-- Two scheduled runs go in lockstep, and come to the same outcome. -/
theorem lockstep_runScheduled (plan : BillingPlan) :
    Lockstep see (Except.map id) (runScheduled plan).run (runScheduled plan).run := by
  have skipped : Lockstep see (Except.map id) skip.run skip.run :=
    lockstep_alwaysThen (lockstep_observe _) fun _ _ _ => lockstep_pure rfl
  refine lockstep_guarded skipped (lockstep_counted ?_)
  refine lockstep_then lockstep_seedFromInstances fun submitted submitted' same => ?_
  obtain rfl : submitted = submitted' := same
  exact lockstep_attemptAndEscalate submitted

end Lockstep

end UsageBilling
