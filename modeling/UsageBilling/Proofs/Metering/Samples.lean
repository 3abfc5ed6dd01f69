import UsageBilling.Proofs.Metering.Settling

/-!
# Samples of a batch

The metering client counts a batch when the reply to it is known: once as
submitted, and once more with the records it leaves outstanding, if there are
any. A batch that is not sent is not counted. What is counted does not depend
on what the clock shows.
-/

namespace UsageBilling.Metering

open Calendar (Readings)

/-- What is counted for a batch that was sent, with this reply, and leaves these failures. -/
inductive Sampled : Reply → List UsageFailure → List Observation → Prop where
  /-- No reply, or a part of one: all of the batch is outstanding. -/
  | lost {failures : List UsageFailure} (some_left : failures ≠ []) :
      Sampled .lost failures
        [.submission "transport_error", .failures "transport" failures.length]
  | accepted (status : Nat) (body : String) :
      Sampled (.answered status body) [] [.submission (String.ofList (Text.decimal status))]
  | rejected (status : Nat) (body : String) {failures : List UsageFailure}
      (some_left : failures ≠ []) :
      Sampled (.answered status body) failures
        [.submission (String.ofList (Text.decimal status)),
          .failures (String.ofList (Text.decimal status)) failures.length]

/-- What the client counts for a batch and its reply. -/
def Client.samples (client : Client) (batch : List UsagePayload) (reply : Reply) :
    List Observation :=
  (client.submit batch reply (.still ⟨0, 0⟩)).observations

section Samples

variable {client : Client} {batch : List UsagePayload} {reply : Reply}

/-- The records that a response leaves outstanding are the same whatever the clock shows. -/
theorem payloads_classify (status : Nat) (body : String) (batch : List UsagePayload)
    (policy : RejectionPolicy) (clock other : Readings) :
    payloads (classify status body batch policy clock) =
      payloads (classify status body batch policy other) := by
  unfold classify
  split
  · rfl
  split
  · by_cases lined_up : ∃ results, batchResults body = .ok results ∧ results.length = batch.length
    · obtain ⟨results, read, aligned⟩ := lined_up
      rw [payloads_classifyItems read aligned, payloads_classifyItems read aligned]
    · have astray : ∀ results, batchResults body = .ok results → results.length ≠ batch.length :=
        fun results read aligned => lined_up ⟨results, read, aligned⟩
      rw [payloads_classifyItems_of_not_lined_up astray,
        payloads_classifyItems_of_not_lined_up astray]
  split <;> simp only [payloads_failAll]

theorem length_classify (status : Nat) (body : String) (batch : List UsagePayload)
    (policy : RejectionPolicy) (clock other : Readings) :
    (classify status body batch policy clock).length =
      (classify status body batch policy other).length := by
  have same := congrArg List.length (payloads_classify status body batch policy clock other)
  rwa [List.length_map, List.length_map] at same

/-- What is counted does not depend on what the clock shows. -/
theorem observations_submit (client : Client) (batch : List UsagePayload) (reply : Reply)
    (clock : Readings) :
    (client.submit batch reply clock).observations = client.samples batch reply := by
  unfold Client.samples Client.submit
  split
  · rfl
  split
  · rfl
  cases reply with
  | lost => rfl
  | answered status body =>
    have same := length_classify status body batch client.policy clock (.still ⟨0, 0⟩)
    simp only [Client.conclude, List.isEmpty_iff_length_eq_zero, same]

/-- A batch that is not sent is not counted. -/
theorem samples_of_unsent (unsent : batch = [] ∨ client.pageSize < batch.length) :
    client.samples batch reply = [] := by
  unfold Client.samples Client.submit
  split
  · rfl
  next some_left =>
    rw [if_pos (unsent.resolve_left (by simpa using some_left))]

/-- A batch that fits is answered, whatever the metering API replies, and counted. -/
theorem submit_of_fitting (some_left : batch ≠ []) (fits : batch.length ≤ client.pageSize)
    (reply : Reply) (clock : Readings) :
    ∃ failures, (client.submit batch reply clock).result = .ok failures ∧
      Sampled reply failures (client.samples batch reply) := by
  rw [← observations_submit client batch reply clock, Client.submit, if_neg (by simpa using some_left),
    if_neg (Nat.not_lt.2 fits)]
  cases reply with
  | lost =>
    have all : (failAll batch unexpectedFailure clock).length = batch.length := by
      have same := congrArg List.length (@payloads_failAll batch clock unexpectedFailure)
      rwa [List.length_map] at same
    refine ⟨_, rfl, ?_⟩
    show Sampled .lost _ [_, .failures "transport" batch.length]
    rw [← all]
    refine .lost ?_
    rwa [← List.length_pos_iff, all, List.length_pos_iff]
  | answered status body =>
    refine ⟨_, rfl, ?_⟩
    show Sampled _ _ (_ :: if _ then _ else _)
    cases left : classify status body batch client.policy clock with
    | nil => exact .accepted status body
    | cons f failures => exact .rejected status body (List.cons_ne_nil f failures)

end Samples

end UsageBilling.Metering
