import Mathlib
import UsageBilling.Proofs.Instances
import UsageBilling.Proofs.Runs.Announcement

/-!
# Accounting for removed rows

On a queue that only billing calls write, a row that a pass removes was
submitted in the pass, and a row that a manual call removes is stored anew. A
row that a scheduled call removes when it fills the queue was named in an
escalation before, or is left from a call that failed: such a row is dropped
without anyone being told.
-/

namespace UsageBilling

open Billing

/-- An escalation of failures was dispatched, delivered or not, that names the instance of this
usage record with this reason. -/
def Named (plan : BillingPlan) (course : List Happening) (p : UsagePayload) (message : String) : Prop :=
  ∃ failures answer, .exchange (.notify .main (.ofFailures plan.product failures)) answer ∈ course ∧
    (∃ f ∈ failures, f.payload = p ∧ f.message = message) ∧
    OccursIn (Summary.line p.instanceId message) (Summary.ofFailures plan.product failures).text

/-- What becomes of the usage record `p` of the row `r` at a write of a call, given what has happened
before the call and in it. -/
inductive Accounted (plan : BillingPlan) (past : Chronicle) (call : Call) (since : List Happening)
    (write : Happening) (r : FailureRecord) (p : UsagePayload) : Prop where
  /-- It was submitted in the pass, and the queue takes up all that the pass came back with. -/
  | submitted {before pass : List Happening} {token : String} {batch : List UsagePayload}
      {failures : List UsageFailure} (split : since = before ++ .exchange .token (.ok token) :: pass)
      (last_pass : tokensIn pass = 0) (sent : (batch, .ok failures) ∈ submittedIn pass)
      (inside : p ∈ batch) (refills : write = refillWith (returnedIn pass))
  /-- It is stored anew by a manual call. -/
  | stored {failures : List UsageFailure} (by_hand : call = .byHand) (opening : tokensIn since = 0)
      (reseeds : write = .exchange (.seed failures) (.ok ()))
      (inside : ∃ f ∈ failures, f.payload = p ∧ f.message = r.message ∧ f.created = r.created)
  /-- It was named. -/
  | named (told : Named plan (past ++ since) p r.message)

/-- The last call that wrote to the queue has failed. -/
def LeftByFailure (past : Chronicle) : Prop :=
  ∃ before course after, past = before ++ (course ++ .ended true :: after) ∧
    (∀ failed, .ended failed ∉ course) ∧ (∃ h ∈ course, h.IsWrite) ∧ ∀ h ∈ after, ¬ h.IsWrite

section Parts

variable {plan : BillingPlan} {q : FailureQueue} {call : Call} {course more : List Happening}

theorem Named.mono {p : UsagePayload} {message : String} (h : Named plan course p message)
    (within : ∀ h ∈ course, h ∈ more) : Named plan more p message := by
  obtain ⟨failures, answer, member, rest⟩ := h
  exact ⟨failures, answer, within _ member, rest⟩

/-- What a failure has left stays until the queue is written. -/
theorem LeftByFailure.append {past : Chronicle} (h : LeftByFailure past)
    (unwritten : ∀ h ∈ more, ¬ h.IsWrite) : LeftByFailure (past ++ more) := by
  obtain ⟨before, course, after, rfl, one_call, write, none_after⟩ := h
  refine ⟨before, course, after ++ more, by simp, one_call, write, fun h member => ?_⟩
  rcases List.mem_append.1 member with member | member
  · exact none_after h member
  · exact unwritten h member

/-- Failures that are escalated are named. -/
theorem Dispatches.named {failures : List UsageFailure}
    (h : Dispatches (.ofFailures plan.product failures) course) {f : UsageFailure}
    (member : f ∈ failures) : Named plan course f.payload f.message := by
  obtain ⟨answer, inside⟩ := h.mem
  exact ⟨failures, answer, inside, ⟨f, member, rfl, rfl⟩,
    Summary.occursIn_ofLines (List.mem_map.2 ⟨f, member, rfl⟩)⟩

/-- Nothing but a write or somebody else changes the queue. -/
theorem FailureQueue.afterAll_eq (unwritten : ∀ h ∈ course, ¬ h.IsWrite)
    (alone : Undisturbed course) : q.afterAll course = q := by
  induction course generalizing q with
  | nil => rfl
  | cons h course ih =>
    have same : q.after h = q := by
      unfold after
      split
      · exact absurd trivial (unwritten _ List.mem_cons_self)
      · exact absurd trivial (unwritten _ List.mem_cons_self)
      · exact absurd List.mem_cons_self (alone _ _ _)
      · rfl
    rw [afterAll_cons, same]
    exact ih (fun h member => unwritten h (List.mem_cons_of_mem _ member))
      (alone.part fun h => List.mem_cons_of_mem _)

/-! ## What a call leaves -/

/-- A run that comes to its end leaves only rows that it has named. -/
theorem Bills.leaves_named {submitted : Nat} {outcome : RunOutcome}
    (h : Bills plan submitted q course (.ok outcome)) :
    ∃ left, (q.afterAll course).Holds left ∧ ∀ f ∈ left, Named plan course f.payload f.message := by
  cases h with
  | succeeded retries => exact ⟨[], retries.leaving rfl, nofun⟩
  | @escalated first escalation _ left retries dispatches =>
    refine ⟨left, ?_, fun f member => ?_⟩
    · simpa [dispatches.afterAll, RetryOutcome.remaining] using retries.leaving rfl
    · exact (dispatches.named member).mono fun h => List.mem_append_right first

/-- A call that cannot fill the queue submits and writes nothing. -/
theorem Opens.passive (h : Opens plan q call course none) : Passive course := by
  generalize none_submitted : (none : Option Nat) = submitted at h
  cases h with
  | scheduled seeds =>
    cases seeds with
    | seeded => cases none_submitted
    | unlisted => exact .cons ⟨rfl, rfl, id⟩ .nil
    | unclocked => exact .cons ⟨rfl, rfl, id⟩ (.cons ⟨rfl, rfl, id⟩ .nil)
    | overflown =>
      exact .cons ⟨rfl, rfl, id⟩ (.cons ⟨rfl, rfl, id⟩ (.cons ⟨rfl, rfl, id⟩ .nil))
    | unstored =>
      exact .cons ⟨rfl, rfl, id⟩ (.cons ⟨rfl, rfl, id⟩ (.cons ⟨rfl, rfl, id⟩
        (.cons ⟨rfl, rfl, id⟩ .nil)))
  | byHand reseeds =>
    cases reseeds with
    | reseeded => cases none_submitted
    | unlisted => exact .cons ⟨rfl, rfl, id⟩ .nil
    | @unstored clock asides report quiet reports e =>
      have refused : Passive [.exchange (.seed (outstandingOf clock q.rows)) (.error e)] :=
        .cons ⟨rfl, rfl, id⟩ .nil
      exact .cons ⟨rfl, rfl, id⟩ (.cons ⟨rfl, rfl, id⟩
        (quiet.passive.append (reports.passive.append refused)))

/-- A call that goes on to bill has filled the queue, and asked for no token yet. -/
theorem Opens.filled {submitted : Nat} (h : Opens plan q call course (some submitted)) :
    ∃ failures, .exchange (.seed failures) (.ok ()) ∈ course ∧
      (q.afterAll course).Holds failures ∧ tokensIn course = 0 := by
  generalize some_submitted : some submitted = number at h
  cases h with
  | scheduled seeds =>
    cases seeds with
    | @seeded _ _ _ failures _ storable =>
      exact ⟨failures, by simp, q.holds_after_seed storable, rfl⟩
    | unlisted | unclocked | overflown | unstored => cases some_submitted
  | byHand reseeds =>
    cases reseeds with
    | @reseeded clock asides report quiet reports storable =>
      refine ⟨outstandingOf clock q.rows, by simp, ?_, ?_⟩
      · simpa [FailureQueue.after, FailureQueue.afterAll_asides quiet, reports.afterAll] using
          q.holds_after_seed storable
      · have none_asked : tokensIn (asides ++ report) = 0 :=
          (quiet.passive.append reports.passive).tokensIn
        simpa [tokensIn, Happening.isToken] using none_asked
    | unlisted | unstored => cases some_submitted

/-- A call on a queue of its own writes nothing, or leaves only rows that it has named, or writes
and fails. -/
theorem Calls.leaves_named {failed : Bool} (h : Calls plan q call course failed)
    (alone : Undisturbed course) :
    (∀ h ∈ course, ¬ h.IsWrite) ∨
    (∃ left, (q.afterAll course).Holds left ∧ ∀ f ∈ left, Named plan course f.payload f.message) ∨
    (failed = true ∧ ∃ h ∈ course, h.IsWrite) := by
  cases h with
  | @busy others closing arrivals quiet =>
    have passive : Passive (others ++ .exchange .takeGuard false :: closing) :=
      arrivals.passive.append (.cons ⟨rfl, rfl, id⟩ quiet)
    exact .inl passive.unwritten
  | @unopened others opening closing arrivals opens quiet =>
    have passive : Passive (others ++ .exchange .takeGuard true :: (opening ++ closing)) :=
      arrivals.passive.append (.cons ⟨rfl, rfl, id⟩ (opens.passive.append quiet))
    exact .inl passive.unwritten
  | @billed others opening run closing submitted failed outcome arrivals opens bills quiet ended =>
    cases outcome with
    | error e =>
      -- the attempts may have broken off anywhere, but the queue was filled before them
      refine .inr (.inr ⟨?_, ?_⟩)
      · cases failed with
        | true => rfl
        | false =>
          obtain ⟨_, absurd_outcome⟩ := ended rfl
          cases absurd_outcome
      · obtain ⟨failures, inside, -⟩ := opens.filled
        exact ⟨.exchange (.seed failures) (.ok ()), by simp [inside], trivial⟩
    | ok outcome =>
      obtain ⟨left, holds, named⟩ := bills.leaves_named
      refine .inr (.inl ⟨left, ?_, fun f member => (named f member).mono fun h inside => ?_⟩)
      · have undisturbed : Undisturbed closing := alone.part fun h inside => by simp [inside]
        have unchanged : ∀ q : FailureQueue, q.afterAll closing = q := fun _ =>
          FailureQueue.afterAll_eq quiet.unwritten undisturbed
        simpa [FailureQueue.after, unchanged] using holds
      · simp [inside]

/-! ## Writes of a call -/

/-- A write of a call accounts for each row that it removes, unless it fills the queue of a scheduled
call. -/
theorem WritesAt.accounted {past : Chronicle} {since : List Happening} {write : Happening}
    (h : WritesAt plan q call since write) (alone : Undisturbed since) {r : FailureRecord}
    {p : UsagePayload} (present : r ∈ (q.afterAll since).rows) (read : r.usagePayload = .ok p) :
    Accounted plan past call since write r p ∨ (FillsQueue call since ∧ r ∈ q.rows) := by
  cases h with
  | seeding arrivals failures =>
    obtain rfl := arrivals.eq_nil alone
    exact .inr ⟨⟨rfl, rfl⟩, present⟩
  | @reseeding others asides report clock arrivals quiet reports =>
    have rows : r ∈ (q.afterAll others).rows := by
      simpa [FailureQueue.after, FailureQueue.afterAll_asides quiet, reports.afterAll] using present
    obtain ⟨stamp, renewed⟩ := exists_mem_outstandingOf clock rows read
    refine .inl (.stored rfl ?_ rfl ⟨_, renewed, rfl, rfl, rfl⟩)
    have none_asked : tokensIn (asides ++ report) = 0 := (quiet.passive.append reports.passive).tokensIn
    rw [tokensIn_append, arrivals.passive.tokensIn]
    simpa [tokensIn, Happening.isToken] using none_asked
  | @refilling _ before pass report token found passes reports =>
    have rows : r ∈ (q.afterAll before).rows := by
      simpa [FailureQueue.after, passes.afterAll, reports.afterAll] using present
    have sent : p ∈ (batchesIn pass).flatten := by
      rw [passes.flatten_batchesIn (by omega)]
      exact mem_payloadsOf.2 ⟨r, rows, read⟩
    obtain ⟨_, member, inside⟩ := List.mem_flatten.1 sent
    obtain ⟨⟨batch, answer⟩, submission, rfl⟩ := List.mem_map.1 member
    obtain ⟨failures, rfl⟩ := passes.answered rfl _ submission
    have sent_since : (batch, .ok failures) ∈ submittedIn (pass ++ report) := by
      rw [submittedIn_append]
      exact List.mem_append_left _ submission
    refine .inl (.submitted rfl ?_ sent_since inside ?_)
    · rw [tokensIn_append, passes.tokensIn, reports.passive.tokensIn]
    · rw [returnedIn_append, reports.passive.returnedIn, List.append_nil, passes.found_eq rfl]

end Parts

namespace Collaborators

variable {c : Collaborators} {plan : BillingPlan} {past : Chronicle}

/-- No call notes down its own end. -/
theorem Takes.not_ended {failed : Bool} {course : List Happening} {call : Call}
    (h : c.Takes plan past failed course call) (done : Bool) : .ended done ∉ course := by
  have genuine : Throughout c.Genuine past course := by
    cases call with
    | scheduled => exact h.choose_spec.1.genuine
    | byHand => exact h.choose_spec.1.genuine
  intro member
  obtain ⟨since, later, split⟩ := List.append_of_mem member
  exact throughout_iff.1 genuine since _ later split

/-- Between two calls, each row of the queue that can be read has been named, or is left from a call
that failed. -/
theorem History.named_or_left (numbered : c.queue.Numbered) (empty : c.queue.rows = [])
    (alone : ∀ past, c.arrivals past = []) (h : c.History plan past)
    (unspent : (c.queueAt past).Unspent) {r : FailureRecord} {p : UsagePayload}
    (member : r ∈ (c.queueAt past).rows) (read : r.usagePayload = .ok p) :
    Named plan past p r.message ∨ LeftByFailure past := by
  -- a call that writes nothing hands on what the calls before it have left
  induction h with
  | start =>
    rw [queueAt, FailureQueue.afterAll_nil, empty] at member
    cases member
  | @call past failed course call before takes ih =>
    have undisturbed := takes.undisturbed alone
    rw [← List.append_assoc] at unspent member ⊢
    have unspent_call : (c.queueAt (past ++ course)).Unspent := by
      simpa [FailureQueue.after] using unspent
    have rows : r ∈ ((c.queueAt past).afterAll course).rows := by
      simpa [FailureQueue.after] using member
    have calls := takes.calls (numbered.afterAll past) unspent_call
    rcases calls.leaves_named undisturbed with unwritten | ⟨left, holds, named⟩ | ⟨rfl, write⟩
    · rw [FailureQueue.afterAll_eq unwritten undisturbed] at rows
      rcases ih (.of_afterAll course (by simpa using unspent_call)) rows with named | left
      · exact .inl (named.mono fun h inside => by simp [inside])
      · refine .inr ((left.append unwritten).append fun h inside => ?_)
        rw [List.mem_singleton.1 inside]
        exact id
    · obtain ⟨f, inside, stores⟩ := holds.exists_stores rows
      obtain rfl : p = f.payload := Except.ok.inj (read.symm.trans stores.payload)
      rw [stores.message]
      exact .inl ((named f inside).mono fun h inside => by simp [inside])
    · exact .inr ⟨past, course, [], by simp, takes.not_ended, write, List.forall_mem_nil _⟩

end Collaborators

/-- On a queue that only billing calls write, each row that can be read and that a call removes is
accounted for, unless it is removed when a scheduled call fills the queue after a call that failed. -/
theorem removed_accounted {c : Collaborators} {plan : BillingPlan} {past : Chronicle} {call : Call}
    {failed : Bool} {course since later : List Happening} {write : Happening} {r : FailureRecord}
    {p : UsagePayload} (reachable : c.queue.Reachable) (empty : c.queue.rows = [])
    (alone : ∀ past, c.arrivals past = []) (history : c.History plan past)
    (takes : c.Takes plan past failed course call) (unspent : (c.queueAt (past ++ course)).Unspent)
    (here : course = since ++ write :: later) (read : r.usagePayload = .ok p)
    (present : r ∈ (c.queueAt (past ++ since)).rows)
    (removed : r ∉ (c.queueAt (past ++ (since ++ [write]))).rows) :
    Accounted plan past call since write r p ∨ (FillsQueue call since ∧ LeftByFailure past) := by
  have numbered := reachable.numbered
  have undisturbed : Undisturbed since :=
    (takes.undisturbed alone).part fun h inside => by simp [here, inside]
  rw [Collaborators.queueAt_append] at unspent present removed
  have written := throughout_iff.1
    (takes.calls (numbered.afterAll past) (by simpa using unspent)).writtenAt since write later here
  have is_write : write.IsWrite := FailureQueue.isWrite_of_removed present (by simpa using removed)
  rcases (written is_write).accounted undisturbed present read with accounted | ⟨fills, old⟩
  · exact .inl accounted
  rcases history.named_or_left numbered empty alone (.of_afterAll course unspent) old read with
    named | left
  · exact .inl (.named (named.mono fun h inside => by simp [inside]))
  · exact .inr ⟨fills, left⟩

/-! ## A record that a failed run leaves and the next one drops -/

namespace DroppedUntold

def unnamed : ServiceInstance := ⟨"", "", "", ⟨0, 0⟩⟩

def refused : ServiceError := ErrorKind.authentication.because ""

/-- No token is ever given, and the only instance is gone once one was asked for. -/
def collaborators : Collaborators where
  queue := {}
  answer past
    | .activeInstances => .ok (if tokensIn past = 0 then [unnamed] else [])
    | r => (Collaborators.obliging {} [] ⟨0, 0⟩ (.error refused) fun _ _ => .ok []).answer past r
  refusal _ _ := none
  arrivals _ := []

def plan : BillingPlan := ⟨"", ⟨1, 0⟩, 0, false⟩

def record : UsagePayload := ⟨"", "", 7200000, 7200000, "", [⟨instanceMeasure, 1⟩]⟩

def row : FailureRecord := .ofFailure 1 (.stamped record initialFailure ⟨0, 0⟩)

def opening (instances : List ServiceInstance) : List Happening :=
  [.exchange .takeGuard true, .exchange .activeInstances (.ok instances),
    .exchange .now (some ⟨0, 0⟩), .exchange .wallClock (.still ⟨0, 0⟩)]

def closing (depth : Nat) : List Happening :=
  [.exchange (.observe (.depth depth)) (), .exchange .token (.error refused),
    .exchange (.observe (.error "token")) (), .exchange (.observe (.run "error")) (),
    .exchange .releaseGuard ()]

def first : List Happening :=
  opening [unnamed] ++
    .exchange (.seed [.stamped record initialFailure ⟨0, 0⟩]) (.ok ()) :: closing 1

def second : List Happening :=
  opening [] ++ .exchange (.seed []) (.ok ()) :: closing 0

/-- What has happened before the second run. -/
def past : Chronicle :=
  first ++ [.ended true]

theorem first_takes : collaborators.Takes plan [] true first .scheduled := by
  refine ⟨.ok (.error refused), ?_, rfl⟩
  unfold Collaborators.Does
  cbv

theorem second_takes : collaborators.Takes plan past true second .scheduled := by
  refine ⟨.ok (.error refused), ?_, rfl⟩
  unfold Collaborators.Does
  cbv

theorem first_history : collaborators.History plan past :=
  .call .start first_takes

theorem row_read : row.usagePayload = .ok record :=
  (FailureRecord.ofFailure_stores _ _).payload

theorem queue_left : collaborators.queueAt past = ⟨1, [row]⟩ := by
  have storable : FailureQueue.Storable [.stamped record initialFailure ⟨0, 0⟩] :=
    List.forall_mem_singleton.2 initialFailure_storable
  have stored : FailureQueue.seed {} [.stamped record initialFailure ⟨0, 0⟩] = .ok ⟨1, [row]⟩ :=
    FailureQueue.seed_eq_ok_iff.2 ⟨storable, rfl⟩
  simp [Collaborators.queueAt, collaborators, past, first, opening, closing, FailureQueue.after,
    stored, Except.toOption]

theorem row_present : row ∈ (collaborators.queueAt (past ++ opening [])).rows := by
  simp [queue_left, opening, FailureQueue.after]

theorem queue_refilled :
    collaborators.queueAt (past ++ (opening [] ++ [.exchange (.seed []) (.ok ())])) = ⟨1, []⟩ := by
  rw [Collaborators.queueAt_append, queue_left]
  rfl

/-- The second run removes it. -/
theorem row_removed : row ∉ (collaborators.queueAt
    (past ++ (opening [] ++ [.exchange (.seed []) (.ok ())]))).rows := by
  rw [queue_refilled]
  exact List.not_mem_nil

theorem unspent : (collaborators.queueAt (past ++ second)).Unspent := by
  have refilled : collaborators.queueAt (past ++ second) = ⟨1, []⟩ := by
    rw [Collaborators.queueAt_append, queue_left]
    rfl
  rw [refilled]
  exact (by decide : (1 : Int) ≤ Int64.maxValue.toInt)

/-- It was neither submitted again, nor stored anew, nor named. -/
theorem not_accounted :
    ¬ Accounted plan past .scheduled (opening []) (.exchange (.seed []) (.ok ())) row record := by
  rintro (⟨split, -, -, -, -⟩ | ⟨by_hand, -, -, -⟩ | ⟨_, _, told, -⟩)
  · have asked : tokensIn (opening []) = 0 := rfl
    rw [split, tokensIn_append, tokensIn_cons_token] at asked
    omega
  · cases by_hand
  · simp [past, first, opening, closing] at told

/-- The second run removes the row, and nobody was told. -/
theorem row_dropped_untold : collaborators.History plan past ∧
    collaborators.Takes plan past true second .scheduled ∧
    second = opening [] ++ .exchange (.seed []) (.ok ()) :: closing 0 ∧
    row.usagePayload = .ok record ∧ row ∈ (collaborators.queueAt (past ++ opening [])).rows ∧
    row ∉ (collaborators.queueAt
      (past ++ (opening [] ++ [.exchange (.seed []) (.ok ())]))).rows ∧
    ¬ Accounted plan past .scheduled (opening []) (.exchange (.seed []) (.ok ())) row record :=
  ⟨first_history, second_takes, rfl, row_read, row_present, row_removed, not_accounted⟩

/-- It was left by a call that failed. -/
theorem row_left_by_failure : FillsQueue .scheduled (opening []) ∧ LeftByFailure past := by
  have accounted := removed_accounted .empty rfl (fun _ => rfl) first_history second_takes unspent
    rfl row_read row_present row_removed
  exact accounted.resolve_left not_accounted

end DroppedUntold

end UsageBilling
