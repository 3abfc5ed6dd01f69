import UsageBilling.Metering.Client
import Mathlib.Data.List.Nodup

/-!
# Settled records

A reply settles a record of a batch by its position: it accepts the record, or
turns it down for good where the policy drops such records. A batch that is
sent leaves outstanding exactly the records that its reply does not settle.
-/

namespace UsageBilling.Metering

open Calendar (Readings)

/-- The result of a single record settles it: the record was accepted, or it was rejected and
the policy keeps duplicates only. -/
def SettlesItem (policy : RejectionPolicy) (item : ItemResult) : Prop :=
  (200 ≤ item.status ∧ item.status ≤ 299) ∨
    (policy = .duplicateOnly ∧ ¬ (200 ≤ item.status ∧ item.status ≤ 299) ∧ item.status ≠ 409)

/-- The reply settles the record at this position of the batch: the batch was accepted as a whole,
or its results line up with it and the one at this position settles the record. -/
def Reply.Settles (policy : RejectionPolicy) (batch : List UsagePayload) (position : Nat) :
    Reply → Prop
  | .lost => False
  | .answered status body => status = 201 ∨
      (status = 202 ∧ ∃ results item, batchResults body = .ok results ∧
        results.length = batch.length ∧ results[position]? = some item ∧ SettlesItem policy item)

theorem isKept_iff {policy : RejectionPolicy} {item : ItemResult} :
    item.isKept policy = true ↔ ¬ SettlesItem policy item := by
  cases policy <;> simp [ItemResult.isKept, ItemResult.isAccepted, SettlesItem] <;> omega

section Outstanding

variable {batch : List UsagePayload} {clock : Readings}

/-- The usage records of some failures. -/
abbrev payloads (failures : List UsageFailure) : List UsagePayload :=
  failures.map (·.payload)

/-- Whatever the clock shows, the failures are those of the rejected records, in order. -/
theorem payloads_stampAll (clock : Readings) (rejected : List (UsagePayload × String)) :
    payloads (UsageFailure.stampAll clock rejected) = rejected.map (·.1) := by
  induction rejected generalizing clock with
  | nil => rfl
  | cons x rejected ih =>
    obtain ⟨p, reason⟩ := x
    exact congrArg (p :: ·) (ih clock.later)

@[simp] theorem payloads_failAll (reason : String) :
    payloads (failAll batch reason clock) = batch := by
  simp [failAll, payloads_stampAll, Function.comp_def]

/-- The records that are kept for another try. -/
def keptOf (policy : RejectionPolicy) (results : List ItemResult) (batch : List UsagePayload) :
    List UsagePayload :=
  (results.zip batch).filterMap fun (item, p) => if item.isKept policy then some p else none

theorem keptOf_sublist (policy : RejectionPolicy) (results : List ItemResult)
    (batch : List UsagePayload) : (keptOf policy results batch).Sublist batch := by
  induction results generalizing batch with
  | nil => exact List.nil_sublist _
  | cons item results ih =>
    cases batch with
    | nil => exact .slnil
    | cons p batch =>
      have others := ih batch
      unfold keptOf at others ⊢
      rw [List.zip_cons_cons, List.filterMap_cons]
      dsimp only
      split
      · exact others.cons p
      next kept =>
        split at kept <;> cases kept
        exact others.cons_cons p

/-- A record of a batch without repetitions is kept if the result at its position does not settle
it. -/
theorem mem_keptOf {policy : RejectionPolicy} {results : List ItemResult} {position : Nat}
    {p : UsagePayload} (nodup : batch.Nodup) (at_position : batch[position]? = some p) :
    p ∈ keptOf policy results batch ↔
      ∃ item, results[position]? = some item ∧ ¬ SettlesItem policy item := by
  rw [keptOf, List.mem_filterMap]
  constructor
  · rintro ⟨⟨item, q⟩, member, kept⟩
    obtain ⟨k, at_k⟩ := List.mem_iff_getElem?.1 member
    obtain ⟨result, record⟩ := List.getElem?_zip_eq_some.1 at_k
    obtain ⟨is_kept, same⟩ := Option.ite_none_right_eq_some.1 kept
    cases same
    obtain ⟨within, -⟩ := List.getElem?_eq_some_iff.1 at_position
    obtain rfl := (List.getElem?_inj within nodup).1 (at_position.trans record.symm)
    exact ⟨item, result, isKept_iff.1 is_kept⟩
  · rintro ⟨item, result, unsettled⟩
    have member : (item, p) ∈ results.zip batch :=
      List.mem_of_getElem? (List.getElem?_zip_eq_some.2 ⟨result, at_position⟩)
    exact ⟨(item, p), member, if_pos (isKept_iff.2 unsettled)⟩

/-- The records that a body leaves outstanding whose results line up with the batch. -/
theorem payloads_classifyItems {body : String} {policy : RejectionPolicy} {results : List ItemResult}
    (read : batchResults body = .ok results) (aligned : results.length = batch.length) :
    payloads (classifyItems body batch policy clock) = keptOf policy results batch := by
  rw [classifyItems, read]
  simp only [aligned, if_true]
  rw [payloads_stampAll, rejected, keptOf, List.map_filterMap]
  refine List.filterMap_congr fun (item, p) _ => ?_
  cases kept : item.isKept policy <;> simp [kept]

/-- A body whose results do not line up with the batch leaves all of it outstanding. -/
theorem payloads_classifyItems_of_not_lined_up {body : String} {policy : RejectionPolicy}
    (astray : ∀ results, batchResults body = .ok results → results.length ≠ batch.length) :
    payloads (classifyItems body batch policy clock) = batch := by
  unfold classifyItems
  split
  · exact payloads_failAll _
  next results read =>
    rw [if_neg (astray results read)]
    exact payloads_failAll _

/-- A reply leaves the whole batch outstanding, or nothing, or what its results say. -/
theorem conclude_cases {client : Client} {reply : Reply} {failures : List UsageFailure}
    (h : (client.conclude batch clock reply).result = .ok failures) :
    (payloads failures = batch ∧ ∀ position, ¬ reply.Settles client.policy batch position) ∨
    (failures = [] ∧ ∀ position, reply.Settles client.policy batch position) ∨
    ∃ results, payloads failures = keptOf client.policy results batch ∧
      results.length = batch.length ∧ ∀ position, reply.Settles client.policy batch position ↔
        ∃ item, results[position]? = some item ∧ SettlesItem client.policy item := by
  cases reply with
  | lost =>
    cases h
    exact .inl ⟨payloads_failAll _, fun _ => id⟩
  | answered status body =>
    cases h
    unfold classify
    by_cases whole : status = 201
    · exact .inr (.inl ⟨if_pos whole, fun _ => .inl whole⟩)
    rw [if_neg whole]
    by_cases single : status = 202
    · by_cases lined_up : ∃ results, batchResults body = .ok results ∧ results.length = batch.length
      · obtain ⟨results, read, aligned⟩ := lined_up
        rw [if_pos single]
        refine .inr (.inr ⟨results, payloads_classifyItems read aligned, aligned, fun position => ?_⟩)
        simp [Reply.Settles, single, read, aligned]
      · refine .inl ⟨?_, ?_⟩
        · rw [if_pos single, payloads_classifyItems_of_not_lined_up]
          exact fun results read aligned => lined_up ⟨results, read, aligned⟩
        · rintro position (accepted | ⟨-, results, item, read, aligned, -⟩)
          · exact whole accepted
          · exact lined_up ⟨results, read, aligned⟩
    · have unsettled : ∀ position, ¬ (Reply.answered status body).Settles client.policy batch position := by
        simp [Reply.Settles, whole, single]
      rw [if_neg single]
      split <;> exact .inl ⟨payloads_failAll _, unsettled⟩

/-- A batch that is sent leaves its records outstanding in order. -/
theorem payloads_conclude_sublist {client : Client} {reply : Reply} {failures : List UsageFailure}
    (h : (client.conclude batch clock reply).result = .ok failures) :
    (payloads failures).Sublist batch := by
  rcases conclude_cases h with ⟨all, -⟩ | ⟨rfl, -⟩ | ⟨results, kept, -, -⟩
  · rw [all]
  · exact List.nil_sublist _
  · rw [kept]
    exact keptOf_sublist _ _ _

/-- A batch that is sent leaves exactly the records outstanding that its reply does not settle. -/
theorem mem_payloads_conclude {client : Client} {reply : Reply} {failures : List UsageFailure}
    {position : Nat} {p : UsagePayload}
    (h : (client.conclude batch clock reply).result = .ok failures) (nodup : batch.Nodup)
    (at_position : batch[position]? = some p) :
    p ∈ payloads failures ↔ ¬ reply.Settles client.policy batch position := by
  rcases conclude_cases h with ⟨all, unsettled⟩ | ⟨rfl, settled⟩ | ⟨results, kept, aligned, settles⟩
  · rw [all]
    exact iff_of_true (List.mem_of_getElem? at_position) (unsettled position)
  · exact iff_of_false nofun (not_not.2 (settled position))
  · obtain ⟨within, -⟩ := List.getElem?_eq_some_iff.1 at_position
    rw [kept, mem_keptOf nodup at_position, settles,
      List.getElem?_eq_getElem (aligned ▸ within : position < results.length)]
    simp

theorem submit_eq_ok {client : Client} {reply : Reply} {failures : List UsageFailure}
    (h : (client.submit batch reply clock).result = .ok failures) :
    (batch = [] ∧ failures = []) ∨ (client.conclude batch clock reply).result = .ok failures := by
  unfold Client.submit at h
  split at h
  next empty => exact .inl ⟨List.isEmpty_iff.1 empty, (Except.ok.inj h).symm⟩
  next =>
    split at h
    · cases h
    · exact .inr h

/-- A submission leaves its records outstanding in order. -/
theorem payloads_submit_sublist {client : Client} {reply : Reply} {failures : List UsageFailure}
    (h : (client.submit batch reply clock).result = .ok failures) :
    (payloads failures).Sublist batch := by
  rcases submit_eq_ok h with ⟨rfl, rfl⟩ | sent
  · exact .slnil
  · exact payloads_conclude_sublist sent

/-- A submission leaves exactly the records outstanding that its reply does not settle. -/
theorem mem_payloads_submit {client : Client} {reply : Reply} {failures : List UsageFailure}
    {position : Nat} {p : UsagePayload} (h : (client.submit batch reply clock).result = .ok failures)
    (nodup : batch.Nodup) (at_position : batch[position]? = some p) :
    p ∈ payloads failures ↔ ¬ reply.Settles client.policy batch position := by
  rcases submit_eq_ok h with ⟨rfl, -⟩ | sent
  · cases at_position
  · exact mem_payloads_conclude sent nodup at_position

end Outstanding

end UsageBilling.Metering
