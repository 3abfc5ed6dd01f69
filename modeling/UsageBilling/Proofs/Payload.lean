import UsageBilling.Failure
import UsageBilling.Proofs.Json.Values
import UsageBilling.Queue

/-!
# Stored usage records

A usage record that is stored as text is read back unchanged, whatever its
strings and numbers are, and the text can always be stored: it holds no
control character. So different records have different texts, and a text that is
read and stored anew settles at once.
-/

namespace UsageBilling

open Calendar (Instant)
open Json

theorem Measurement.fields_blind :
    ∀ field ∈ Measurement.fields, ∀ draft, Blind (field.read draft) := by
  simp only [Measurement.fields, List.forall_mem_cons]
  refine ⟨fun _ => required_blind text_blind, fun _ => required_blind word_blind, ?_⟩
  rintro _ ⟨⟩

theorem UsagePayload.fields_blind :
    ∀ field ∈ UsagePayload.fields, ∀ draft, Blind (field.read draft) := by
  simp only [UsagePayload.fields, List.forall_mem_cons]
  refine ⟨fun _ => required_blind text_blind, fun _ => required_blind text_blind,
    fun _ => required_blind signedWord_blind, fun _ => required_blind signedWord_blind,
    fun _ => required_blind text_blind, fun _ => required_blind (listOf_blind _), ?_⟩
  rintro _ ⟨⟩

namespace Measurement

/-- The members of an amount as they are written. -/
def members (m : Measurement) : List (String × List Char) :=
  [("measure", string m.measure), ("quantity", integer m.quantity.toNat)]

/-- The members of an amount are all of its fields. -/
theorem members_collect (m : Measurement) :
    Collects fields {} m.members ⟨some m.measure, some m.quantity⟩ :=
  .member rfl rfl (required_reads (text_reads _)) <|
    .member rfl rfl (required_reads (word_reads _)) <| .done _

/-- An amount is read back. -/
theorem render_reads (m : Measurement) : Reads reader m.render m :=
  record_reads _ m.members_collect fields_blind rfl

theorem render_startsValue (m : Measurement) : StartsValue m.render :=
  ⟨_, _, rfl, rfl, by decide⟩

end Measurement

namespace UsagePayload

/-- The members of a usage record as they are written. -/
def members (p : UsagePayload) : List (String × List Char) :=
  [("plan_id", string p.planId), ("resource_instance_id", string p.instanceId),
    ("start", integer p.start.toInt), ("end", integer p.stop.toInt), ("region", string p.region),
    ("measured_usage", array (p.measured.map Measurement.render))]

/-- The amounts of a usage record are read back in order. -/
theorem measured_reads (p : UsagePayload) :
    Reads (listOf Measurement.reader) (array (p.measured.map Measurement.render)) p.measured := by
  apply listOf_reads
  rw [List.forall₂_map_right_iff, List.forall₂_same]
  exact fun m _ => ⟨m.render_reads, m.render_startsValue⟩

/-- The members of a usage record are all of its fields. -/
theorem members_collect (p : UsagePayload) :
    Collects fields {} p.members ⟨some p.planId, some p.instanceId, some p.start, some p.stop,
      some p.region, some p.measured⟩ :=
  .member rfl rfl (required_reads (text_reads _)) <|
    .member rfl rfl (required_reads (text_reads _)) <|
    .member rfl rfl (required_reads (signedWord_reads _)) <|
    .member rfl rfl (required_reads (signedWord_reads _)) <|
    .member rfl rfl (required_reads (text_reads _)) <|
    .member rfl rfl (required_reads p.measured_reads) <| .done _

/-- A usage record is read back, whatever its strings and numbers are. -/
theorem render_reads (p : UsagePayload) : Reads reader p.render p :=
  record_reads _ p.members_collect fields_blind rfl

/-- Behind an object anything may follow. -/
theorem render_reads_append (p : UsagePayload) (rest : List Char) :
    reader (p.render ++ rest) = .ok (p, rest) := by
  have finished : Draft.finish ⟨some p.planId, some p.instanceId, some p.start, some p.stop,
      some p.region, some p.measured⟩ = some p := rfl
  exact record_reads_append _ p.members_collect fields_blind finished rest

end UsagePayload

/-- What is stored is read back. -/
theorem UsagePayload.ofJson_toJson (p : UsagePayload) : ofJson p.toJson = .ok p := by
  have read := p.render_reads [] endsNumber_nil
  rw [List.append_nil] at read
  rw [ofJson, Json.decode, toJson, String.toList_ofList, read]
  rfl

/-- The row of a failure can be read, and holds its usage record. -/
theorem FailureRecord.usagePayload_ofFailure (id : Int) (f : UsageFailure) :
    (ofFailure id f).usagePayload = .ok f.payload :=
  f.payload.ofJson_toJson

/-! ## Storing -/

theorem Measurement.render_noControls (m : Measurement) : NoControls m.render := by
  apply object_noControls
  simp only [List.forall_mem_cons, List.not_mem_nil, false_implies, implies_true, and_true]
  exact ⟨string_noControls _, integer_noControls _⟩

/-- The text of a usage record has no control characters. -/
theorem UsagePayload.render_noControls (p : UsagePayload) : NoControls p.render := by
  apply object_noControls
  simp only [List.forall_mem_cons, List.not_mem_nil, false_implies, implies_true, and_true]
  refine ⟨string_noControls _, string_noControls _, integer_noControls _, integer_noControls _,
    string_noControls _, array_noControls ?_⟩
  intro item member
  obtain ⟨m, -, rfl⟩ := List.mem_map.1 member
  exact m.render_noControls

/-- The text of a usage record can be stored. -/
theorem UsagePayload.toJson_storable (p : UsagePayload) : isStorable p.toJson = true := by
  rw [isStorable, toJson, String.toList_ofList, Bool.not_eq_true', List.contains_eq_mem,
    decide_eq_false_iff_not]
  intro member
  exact absurd (p.render_noControls _ member) (by decide)

/-! ## Storing anew -/

theorem FailureRecord.toFailure_ofFailure (id : Int) (f : UsageFailure) (now : Instant) :
    (ofFailure id f).toFailure now = .ok { f with updated := now } := by
  rw [toFailure, usagePayload_ofFailure]
  rfl

namespace UsagePayload

/-- The text with which the usage record of a stored text is stored anew. -/
def restored (raw : String) : Except Fault String := do
  return (← ofJson raw).toJson

theorem restored_toJson (p : UsagePayload) : restored p.toJson = .ok p.toJson := by
  rw [restored, ofJson_toJson]
  rfl

/-- Different usage records have different texts. -/
theorem toJson_inj {p q : UsagePayload} : p.toJson = q.toJson ↔ p = q := by
  constructor
  · intro same
    have read : ofJson p.toJson = .ok q := by rw [same, q.ofJson_toJson]
    rw [p.ofJson_toJson] at read
    exact Except.ok.inj read
  · exact congrArg toJson

/-- A text that is read and stored anew settles at once. -/
theorem restored_restored (raw : String) : (restored raw >>= restored) = restored raw := by
  cases read : ofJson raw with
  | error fault =>
    have failed : restored raw = .error fault := by
      rw [restored, read]
      rfl
    rw [failed]
    rfl
  | ok p =>
    have stored : restored raw = .ok p.toJson := by
      rw [restored, read]
      rfl
    rw [stored]
    simp only [bind, Except.bind, restored_toJson]

/-- Every usage record has a text that can be stored, and is read back from it as it was; so is a
failure from its row, but for the time of the update. Different records have different texts, and
storing anew what is read from a text changes the text no more the second time. -/
theorem stored_reads_back (p q : UsagePayload) (raw : String) (f : UsageFailure) (id : Int)
    (now : Instant) :
    isStorable p.toJson = true ∧ ofJson p.toJson = .ok p ∧
    (FailureRecord.ofFailure id f).toFailure now = .ok { f with updated := now } ∧
    (p.toJson = q.toJson ↔ p = q) ∧ (restored raw >>= restored) = restored raw := by
  refine ⟨p.toJson_storable, p.ofJson_toJson, ?_, toJson_inj, restored_restored raw⟩
  exact FailureRecord.toFailure_ofFailure id f now

end UsagePayload

end UsageBilling
