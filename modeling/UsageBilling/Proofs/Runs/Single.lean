import UsageBilling.Proofs.Runs.Acceptance
import UsageBilling.Proofs.Runs.Announcement

/-!
# Billing a single instance

A call that bills one instance goes past the queue: it reads the clock, takes a
token and submits one record. It ends well exactly if nothing comes back. Where
the metering API is asked through the client, that is not only so for a record
that was accepted: the rejection policy also drops records for good, and the
call cannot tell the difference.
-/

namespace UsageBilling

open Billing Metering
open Calendar (Instant Readings)

/-- The calls that bill one instance. -/
inductive SingleCall where
  | bill (i : ServiceInstance) (ctx : BillingContext)
  | byId (id : String) (dryRun : Bool)
  /-- The final bill of an instance that is deprovisioned. -/
  | final (i : ServiceInstance)
  deriving DecidableEq, Repr

namespace SingleCall

/-- What the call does. -/
def program : SingleCall → Billing Unit
  | bill i ctx => billInstance i ctx
  | byId id dryRun => billInstanceId id dryRun
  | final i => billDeprovisioned i

/-- How the call was triggered. -/
def context : SingleCall → BillingContext
  | bill _ ctx => ctx
  | byId _ dryRun => .byHand dryRun
  | final _ => .byHand false

/-- The instance of the call; one that is billed by its id is the one found under it. -/
def Concerns (course : List Happening) : SingleCall → ServiceInstance → Prop
  | bill i _, j => i = j
  | byId id _, j => .exchange (.instanceOf id) (.ok (some j)) ∈ course
  | final i, j => i = j

end SingleCall

/-! ## Courses -/

/-- What a call makes of the answer to its submission. -/
def verdict (i : ServiceInstance) :
    Except ServiceError (List UsageFailure) → Except ServiceError Unit
  | .error e => .error e
  | .ok [] => .ok ()
  | .ok (f :: _) => .error (billingFailed i.instanceId f.message)

/-- Billing one instance. -/
inductive BillsOnce (i : ServiceInstance) (ctx : BillingContext) :
    List Happening → Except Crash (Except ServiceError Unit) → Prop where
  | unclocked : BillsOnce i ctx [.exchange .now none] (.error .clock)
  | overflown {now : Instant} {reason : Crash} (billed : usagePayload i ctx now = .error reason) :
      BillsOnce i ctx [.exchange .now (some now)] (.error reason)
  | tokenless {now : Instant} {others : List Happening} (arrivals : Arrivals others)
      (e : ServiceError) :
      BillsOnce i ctx (.exchange .now (some now) :: (others ++ [.exchange .token (.error e)]))
        (.ok (.error e))
  | submitted {now : Instant} {p : UsagePayload} {others : List Happening} (arrivals : Arrivals others)
      (billed : usagePayload i ctx now = .ok p) (token : String)
      (answer : Except ServiceError (List UsageFailure)) :
      BillsOnce i ctx (.exchange .now (some now) :: (others ++ [.exchange .token (.ok token),
        .exchange (.submit token [p]) answer])) (.ok (verdict i answer))

section Courses

variable {i : ServiceInstance} {ctx : BillingContext} {course : List Happening}
  {result : Except Crash (Except ServiceError Unit)}

theorem Arrivals.not_mem_exchange {others : List Happening} (h : Arrivals others) (r : Request)
    (answer : r.Answer) : .exchange r answer ∉ others := by
  intro member
  obtain ⟨_, _, _, ended⟩ := h _ member
  cases ended

/-- Nothing is looked up once the instance is known. -/
theorem BillsOnce.not_mem_instanceOf (h : BillsOnce i ctx course result) (id : String)
    (answer : Except ServiceError (Option ServiceInstance)) :
    .exchange (.instanceOf id) answer ∉ course := by
  cases h with
  | unclocked => simp
  | overflown => simp
  | tokenless arrivals => simp [arrivals.not_mem_exchange]
  | submitted arrivals => simp [arrivals.not_mem_exchange]

/-- A call that is given a token submits the record of its instance, and nothing else. -/
theorem BillsOnce.of_token {token : String} (h : BillsOnce i ctx course result)
    (given : .exchange .token (.ok token) ∈ course) :
    ∃ now p answer, .exchange .now (some now) ∈ course ∧ usagePayload i ctx now = .ok p ∧
      submittedIn course = [([p], answer)] ∧ result = .ok (verdict i answer) := by
  cases h with
  | unclocked => simp at given
  | overflown => simp at given
  | tokenless arrivals => simp [arrivals.not_mem_exchange] at given
  | @submitted now p others arrivals billed token answer =>
    refine ⟨now, p, answer, List.mem_cons_self, billed, ?_, rfl⟩
    rw [submittedIn_cons_of_none rfl, submittedIn_append, arrivals.passive.submittedIn]
    rfl

namespace Collaborators

variable {c : Collaborators} {past : Chronicle}

/-- What billing an instance does is to bill it once. -/
theorem Does.billInstance (h : c.Does (billInstance i ctx).run past result course) :
    BillsOnce i ctx course result := by
  unfold Billing.billInstance at h
  rcases h.alwaysThen with ⟨reason, rfl, broken⟩ | ⟨now, _, _, rfl, clock, h⟩
  · obtain ⟨same, rfl⟩ := broken.readClock.resolve_right (by rintro ⟨_, ended, -⟩; cases ended)
    cases same
    exact .unclocked
  obtain ⟨_, same, rfl⟩ := clock.readClock.resolve_left (by rintro ⟨ended, -⟩; cases ended)
  cases same
  rcases h.alwaysThen with ⟨reason, rfl, broken⟩ | ⟨p, _, _, rfl, computed, h⟩
  · obtain ⟨billed, rfl⟩ := broken.orCrash
    exact .overflown billed.symm
  obtain ⟨billed, rfl⟩ := computed.orCrash
  rcases h.then with ⟨_, -, broken⟩ | ⟨e, rfl, refused⟩ | ⟨token, _, _, rfl, answered, h⟩
  · exact broken.not_broken.elim
  · obtain ⟨_, -, same, rfl⟩ := refused.request
    cases same
    exact .tokenless (arrivals_meanwhile .token) e
  obtain ⟨_, -, same, rfl⟩ := answered.request
  cases same
  have arrivals : Arrivals (c.meanwhile (past ++ [.exchange .now (some now)]) .token) :=
    arrivals_meanwhile .token
  have bills (answer : Except ServiceError (List UsageFailure)) :=
    BillsOnce.submitted arrivals billed.symm token answer
  rcases h.then with ⟨_, -, broken⟩ | ⟨e, rfl, refused⟩ | ⟨failures, _, closing, rfl, submitted, h⟩
  · exact broken.not_broken.elim
  · obtain ⟨_, -, same, rfl⟩ := refused.settled rfl
    cases same
    simpa [verdict] using bills (.error e)
  obtain ⟨_, -, same, rfl⟩ := submitted.settled rfl
  cases same
  have ended : result = .ok (verdict i (.ok failures)) ∧ closing = [] := by
    cases failures with
    | nil => exact h.pure
    | cons f _ => exact h.throw
  obtain ⟨rfl, rfl⟩ := ended
  simpa using bills (.ok failures)

/-- A call bills its instance, once it has found it. -/
theorem Does.single {call : SingleCall} (h : c.Does call.program.run past result course)
    (concerns : call.Concerns course i) :
    ∃ search rest, course = search ++ rest ∧ Passive search ∧
      (∀ answer, .exchange .token answer ∉ search) ∧ BillsOnce i call.context rest result := by
  cases call with
  | bill j ctx =>
    obtain rfl := concerns
    exact ⟨[], course, rfl, .nil, by simp, h.billInstance⟩
  | final j =>
    obtain rfl := concerns
    exact ⟨[], course, rfl, .nil, by simp, Does.billInstance h⟩
  | byId id dryRun =>
    rcases Does.then h with ⟨_, -, broken⟩ | ⟨e, rfl, refused⟩ | ⟨found, _, rest, rfl, answered, h⟩
    · exact broken.not_broken.elim
    · obtain ⟨_, -, same, rfl⟩ := refused.settled rfl
      cases same
      simp [SingleCall.Concerns] at concerns
    obtain ⟨_, -, same, rfl⟩ := answered.settled rfl
    cases same
    cases found with
    | none =>
      obtain ⟨-, rfl⟩ := h.throw
      simp [SingleCall.Concerns] at concerns
    | some j =>
      have bills := h.billInstance
      have same : i = j := by
        simpa [SingleCall.Concerns, bills.not_mem_instanceOf] using concerns
      rw [same]
      exact ⟨[.exchange (.instanceOf id) (.ok (some j))], rest, rfl, .cons ⟨rfl, rfl, nofun⟩ .nil,
        by simp, bills⟩

end Collaborators

end Courses

/-! ## Replies to a single record -/

namespace Metering

/-- The reply accepts a single record: the batch as a whole, or the one result that there is. -/
def Reply.Accepts : Reply → Prop
  | .lost => False
  | .answered status body => status = 201 ∨ (status = 202 ∧ ∃ item, batchResults body = .ok [item] ∧
      200 ≤ item.status ∧ item.status ≤ 299)

/-- The reply turns a single record down, and not as a duplicate, under the policy that keeps nothing
but duplicates. -/
def Reply.Drops (policy : RejectionPolicy) : Reply → Prop
  | .lost => False
  | .answered status body => policy = .duplicateOnly ∧ status = 202 ∧ ∃ item,
      batchResults body = .ok [item] ∧ ¬ (200 ≤ item.status ∧ item.status ≤ 299) ∧
        item.status ≠ 409

/-- A single record is settled if it is accepted, or dropped. -/
theorem Reply.settles_single_iff {policy : RejectionPolicy} {reply : Reply} {p : UsagePayload} :
    reply.Settles policy [p] 0 ↔ reply.Accepts ∨ reply.Drops policy := by
  cases reply with
  | lost => simp [Settles, Accepts, Drops]
  | answered status body =>
    have one_result (results : List ItemResult) (item : ItemResult) :
        results.length = [p].length ∧ results[0]? = some item ↔ results = [item] := by
      rcases results with _ | ⟨first, _ | ⟨second, results⟩⟩ <;> simp
    have settled : (∃ results item, batchResults body = .ok results ∧
        results.length = [p].length ∧ results[0]? = some item ∧ SettlesItem policy item) ↔
        ∃ item, batchResults body = .ok [item] ∧ SettlesItem policy item := by
      constructor
      · rintro ⟨results, item, read, aligned, first, settles⟩
        obtain rfl := (one_result results item).1 ⟨aligned, first⟩
        exact ⟨item, read, settles⟩
      · rintro ⟨item, read, settles⟩
        exact ⟨[item], item, read, rfl, rfl, settles⟩
    rw [Settles, settled]
    constructor
    · rintro (whole | ⟨single, item, read, accepted | ⟨drops, rejected⟩⟩)
      · exact .inl (.inl whole)
      · exact .inl (.inr ⟨single, item, read, accepted⟩)
      · exact .inr ⟨drops, single, item, read, rejected⟩
    · rintro ((whole | ⟨single, item, read, accepted⟩) | ⟨drops, single, item, read, rejected⟩)
      · exact .inl whole
      · exact .inr ⟨single, item, read, .inl accepted⟩
      · exact .inr ⟨single, item, read, .inr ⟨drops, rejected⟩⟩

/-- A single record is always sent, and comes back exactly if its reply does not settle it. -/
theorem Client.submit_single (client : Client) (positive : 0 < client.pageSize) (p : UsagePayload)
    (reply : Reply) (clock : Readings) :
    ∃ failures, (client.submit [p] reply clock).result = .ok failures ∧
      (failures = [] ↔ reply.Settles client.policy [p] 0) := by
  have sent : client.submit [p] reply clock = client.conclude [p] clock reply := by
    rw [submit, if_neg (by simp), if_neg (Nat.not_lt.2 positive : ¬ client.pageSize < [p].length)]
  obtain ⟨failures, answered⟩ : ∃ failures, (client.conclude [p] clock reply).result = .ok failures := by
    cases reply <;> exact ⟨_, rfl⟩
  rw [← sent] at answered
  have back := mem_payloads_submit answered (List.nodup_singleton p) (rfl : [p][0]? = some p)
  refine ⟨failures, answered, ?_⟩
  rw [← not_iff_not, ← back]
  rcases List.sublist_singleton.1 (payloads_submit_sublist answered) with none | one
  · simp [List.map_eq_nil_iff.1 none]
  · have some_back : failures ≠ [] := by
      rintro rfl
      cases one
    simp [one, some_back]

end Metering

/-! ## What a call reports -/

/-- The error names the instance as one that could not be billed. -/
def Blames (i : ServiceInstance) (e : ServiceError) : Prop :=
  e.kind = .badGateway ∧ OccursIn i.instanceId e.message

/-- The error of a record that came back names its instance. -/
theorem billingFailed_blames (i : ServiceInstance) (reason : String) :
    Blames i (billingFailed i.instanceId reason) := by
  refine ⟨rfl, "Bad Gateway: Billing for instance: ".toList, (" failed: " ++ reason).toList, ?_⟩
  simp [billingFailed, ServiceError.message, ErrorKind.because, ErrorKind.heading, Cause.text]

/-- A call that was given a token has submitted the record of its instance as of the reading of its
clock. It ends well exactly if the reply accepts the record or the policy drops it, and with an error
that blames the instance otherwise. -/
theorem single_ok_iff {c : Collaborators} {endpoint resourceId : String} {pageSize : Nat}
    {policy : RejectionPolicy} {replies : Nat → Reply} {call : SingleCall} {i : ServiceInstance}
    {past : Chronicle} {course : List Happening} {result : Except Crash (Except ServiceError Unit)}
    {token : String}
    (metered : c.MetersThrough (.atLeastOne endpoint resourceId pageSize policy) replies)
    (h : c.Does call.program.run past result course) (concerns : call.Concerns course i)
    (given : .exchange .token (.ok token) ∈ course) :
    ∃ now p, .exchange .now (some now) ∈ course ∧ usagePayload i call.context now = .ok p ∧
      batchesIn course = [[p]] ∧
      (result = .ok (.ok ()) ↔ (replies (batchesIn past).length).Accepts ∨
        (replies (batchesIn past).length).Drops policy) ∧
      (result = .ok (.ok ()) ∨ ∃ e, result = .ok (.error e) ∧ Blames i e) := by
  have through := metered.answeredThrough h.genuine
  obtain ⟨search, rest, rfl, passive, tokenless, bills⟩ := h.single concerns
  have given_after : .exchange .token (.ok token) ∈ rest :=
    (List.mem_append.1 given).resolve_left (tokenless _)
  obtain ⟨now, p, answer, read, billed, sent, rfl⟩ := bills.of_token given_after
  have sent_all : submittedIn (search ++ rest) = [([p], answer)] := by
    rw [submittedIn_append, passive.submittedIn, sent, List.nil_append]
  rw [sent_all] at through
  obtain ⟨clock, same⟩ := through 0 [p] answer rfl
  have positive : 0 < (Client.atLeastOne endpoint resourceId pageSize policy).pageSize :=
    Nat.le_max_right pageSize 1
  obtain ⟨failures, answered, nothing_back⟩ :=
    Client.submit_single _ positive p (replies (batchesIn past).length) clock
  obtain rfl : answer = .ok failures := same.trans answered
  refine ⟨now, p, List.mem_append_right _ read, billed, by rw [batchesIn, sent_all]; rfl, ?_, ?_⟩
  · rw [← Reply.settles_single_iff (p := p)]
    refine Iff.trans ?_ nothing_back
    cases failures <;> simp [verdict]
  · cases failures with
    | nil => exact .inl rfl
    | cons f _ => exact .inr ⟨_, rfl, billingFailed_blames i f.message⟩

/-! ## A rejection that is reported as a success -/

namespace RejectedQuietly

def body : String := "\x7b\"resources\":[\x7b\"status\":400\x7d]\x7d"

def reply : Reply := .answered 202 body

def client : Client := .atLeastOne "" "" 0 .duplicateOnly

def unnamed : ServiceInstance := ⟨"", "", "", ⟨0, 0⟩⟩

def collaborators : Collaborators := .obliging {} [] ⟨0, 0⟩ (.ok "") fun _ batch =>
  (client.submit batch reply (.still ⟨0, 0⟩)).result

def record : UsagePayload := ⟨"", "", 0, 0, "", [⟨instanceMeasure, 1⟩]⟩

def course : List Happening :=
  [.exchange .now (some ⟨0, 0⟩), .exchange .token (.ok ""),
    .exchange (.submit "" [record]) (.ok [])]

theorem body_read : batchResults body = .ok [⟨400, none⟩] := by
  cbv

/-- The record is turned down, and the call ends well. -/
theorem bill_does :
    collaborators.Does (SingleCall.final unnamed).program.run [] (.ok (.ok ())) course := by
  unfold Collaborators.Does
  cbv

theorem not_accepts : ¬ reply.Accepts := by
  rintro (ended | ⟨-, item, read, -, high⟩)
  · cases ended
  · obtain rfl : item = ⟨400, none⟩ := by simpa [body_read, eq_comm] using read
    exact absurd high (by decide)

/-- The reply rejects the record, and the call ends well. -/
theorem rejection_dropped :
    collaborators.Does (SingleCall.final unnamed).program.run [] (.ok (.ok ())) course ∧
      ¬ reply.Accepts ∧ reply.Drops .duplicateOnly := by
  have metered : collaborators.MetersThrough client fun _ => reply := fun _ _ _ => ⟨_, rfl⟩
  obtain ⟨-, -, -, -, -, ended, -⟩ := single_ok_iff metered bill_does rfl
    (by simp [course] : .exchange .token (.ok "") ∈ course)
  exact ⟨bill_does, not_accepts, (ended.1 rfl).resolve_left not_accepts⟩

end RejectedQuietly

end UsageBilling
