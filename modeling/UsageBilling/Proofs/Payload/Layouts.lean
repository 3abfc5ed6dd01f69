import UsageBilling.Proofs.Json.Records
import UsageBilling.Proofs.Payload

/-!
# Usage records in any layout

The rows of the queue may have been written by somebody else. A usage record is
read from every text that writes it: as an object with its fields in any order,
blanks between the tokens, any spelling of its strings and any other members, or
as the list of its fields; and so is each amount in it. A text in which a field of
the record or of an amount is missing or stands twice is read as no record.
-/

namespace UsageBilling

open Json

/-! ## Texts of a usage record -/

/-- The text writes the amount. -/
inductive Measurement.Writes (m : Measurement) (w : List Char) : Prop where
  | record {measure : List Char} (is_measure : WritesString m.measure measure)
      (written : WritesRecord ["measure", "quantity"] [measure, Json.integer m.quantity.toNat] w)

/-- The text writes the usage record. -/
inductive UsagePayload.Writes (p : UsagePayload) (w : List Char) : Prop where
  | record {plan instance_id region measured : List Char} {measures : List (List Char)}
      (is_plan : WritesString p.planId plan) (is_instance : WritesString p.instanceId instance_id)
      (is_region : WritesString p.region region)
      (are_measures : List.Forall₂ Measurement.Writes p.measured measures)
      (is_measured : WritesList measures measured)
      (written : WritesRecord
        ["plan_id", "resource_instance_id", "start", "end", "region", "measured_usage"]
        [plan, instance_id, Json.integer p.start.toInt, Json.integer p.stop.toInt, region, measured]
        w)

/-- The text is an object or a list, but a field of the usage record, or of an amount in it, does
not stand there exactly once. -/
inductive UsagePayload.Flawed (w : List Char) : Prop where
  | field (misshapen : Misshapen
      ["plan_id", "resource_instance_id", "start", "end", "region", "measured_usage"] w)
  | measure {measured v : List Char} {measures : List (List Char)}
      (has : HasField
        ["plan_id", "resource_instance_id", "start", "end", "region", "measured_usage"]
        "measured_usage" measured w)
      (are_values : ∀ v ∈ measures, IsValue v) (is_measured : WritesList measures measured)
      (member : v ∈ measures) (misshapen : Misshapen ["measure", "quantity"] v)

/-! ## Fields and drafts -/

namespace Measurement

/-- The fields of an amount have names of their own, and each marks its part of a draft. -/
theorem collecting : Collecting fields {} Draft.finish where
  distinct := by decide
  required := by simp [fields, Field.required]
  blind := fields_blind
  decides := by
    simp only [fields, List.forall_mem_cons]
    refine ⟨fun _ => required_decides text_decides, fun _ => required_decides word_decides, ?_⟩
    rintro _ ⟨⟩
  unset := by simp [fields, Field.required]
  marks := by
    simp only [fields, List.forall_mem_cons]
    refine ⟨?_, ?_, ?_⟩
    · intro draft cs next rest read
      obtain ⟨b, rfl⟩ := required_ok read
      simp [Field.required]
    · intro draft cs next rest read
      obtain ⟨b, rfl⟩ := required_ok read
      simp [Field.required]
    · rintro _ ⟨⟩
  complete := by
    rintro ⟨measure, quantity⟩ m finished
    cases measure <;> cases quantity <;> simp [fields, Field.required, Draft.finish] at finished ⊢

/-- The amount as far as fields of these names have been read. -/
def draftOf (m : Measurement) (seen : List String) : Draft where
  measure := if "measure" ∈ seen then some m.measure else none
  quantity := if "quantity" ∈ seen then some m.quantity else none

/-- Each field of an amount fills its own part of a draft. -/
theorem filling {m : Measurement} {measure : List Char} (is_measure : WritesString m.measure measure) :
    Filling fields {} Draft.finish [measure, Json.integer m.quantity.toNat] m m.draftOf where
  blank_eq := rfl
  length_eq := rfl
  starts := by
    simp only [List.forall_mem_cons]
    exact ⟨is_measure.isValue.startsValue, (isNumber_integer _).startsValue, by rintro _ ⟨⟩⟩
  fills := by
    show ∀ x ∈ [("measure", measure), ("quantity", Json.integer m.quantity.toNat)], _
    simp only [List.forall_mem_cons]
    refine ⟨fills_required rfl (text_reads_string is_measure) ?_ ?_,
      fills_required rfl (word_reads _) ?_ ?_, by rintro _ ⟨⟩⟩
    · intro seen fresh
      exact if_neg fresh
    · intro seen
      simp [draftOf]
    · intro seen fresh
      exact if_neg fresh
    · intro seen
      simp [draftOf]
  finished := by
    intro seen all
    simp [fields, Field.required] at all
    simp [draftOf, all, Draft.finish]

/-- An amount is read from every text that writes it. -/
theorem Writes.reads {m : Measurement} {w : List Char} (h : m.Writes w) : Reads reader w m := by
  cases h with
  | record is_measure written => exact (filling is_measure).reads collecting written

theorem Writes.isValue {m : Measurement} {w : List Char} (h : m.Writes w) : IsValue w := by
  cases h with
  | record is_measure written =>
    refine written.isValue ?_
    simp only [List.forall_mem_cons]
    exact ⟨is_measure.isValue, .number (isNumber_integer _), by rintro _ ⟨⟩⟩

end Measurement

namespace UsagePayload

/-- The fields of a usage record have names of their own, and each marks its part of a draft. -/
theorem collecting : Collecting fields {} Draft.finish where
  distinct := by decide
  required := by simp [fields, Field.required]
  blind := fields_blind
  decides := by
    simp only [fields, List.forall_mem_cons]
    refine ⟨fun _ => required_decides text_decides, fun _ => required_decides text_decides,
      fun _ => required_decides signedWord_decides, fun _ => required_decides signedWord_decides,
      fun _ => required_decides text_decides, fun _ => required_decides (listOf_decides ?_), ?_⟩
    · exact record_decides Measurement.collecting.blind Measurement.collecting.decides
    · rintro _ ⟨⟩
  unset := by simp [fields, Field.required]
  marks := by
    simp only [fields, List.forall_mem_cons]
    refine ⟨?_, ?_, ?_, ?_, ?_, ?_, by rintro _ ⟨⟩⟩
    all_goals
      intro draft cs next rest read
      obtain ⟨b, rfl⟩ := required_ok read
      simp [Field.required]
  complete := by
    rintro ⟨plan, instance_id, start, stop, region, measured⟩ p finished
    simp only [Draft.finish, Option.bind_eq_bind, Option.bind_eq_some_iff] at finished
    obtain ⟨_, rfl, _, rfl, _, rfl, _, rfl, _, rfl, _, rfl, -⟩ := finished
    simp [fields, Field.required]

/-- The usage record as far as fields of these names have been read. -/
def draftOf (p : UsagePayload) (seen : List String) : Draft where
  planId := if "plan_id" ∈ seen then some p.planId else none
  instanceId := if "resource_instance_id" ∈ seen then some p.instanceId else none
  start := if "start" ∈ seen then some p.start else none
  stop := if "end" ∈ seen then some p.stop else none
  region := if "region" ∈ seen then some p.region else none
  measured := if "measured_usage" ∈ seen then some p.measured else none

section Filling

variable {p : UsagePayload} {plan instance_id region measured : List Char}
  {measures : List (List Char)}

/-- Amounts are read from every list that writes them. -/
theorem measures_read (are_measures : List.Forall₂ Measurement.Writes p.measured measures)
    (is_measured : WritesList measures measured) :
    Reads (listOf Measurement.reader) measured p.measured := by
  rw [reads_iff_outcome, ← allSome_map_some p.measured]
  refine listOf_outcome is_measured ?_ ?_
  · intro v member
    obtain ⟨m, -, writes⟩ := exists_of_forall₂_right are_measures member
    exact writes.isValue.startsValue
  · rw [List.forall₂_map_right_iff]
    exact are_measures.flip.imp fun _ _ writes => reads_iff_outcome.1 writes.reads

/-- The fields of a usage record are values, as they are written. -/
theorem values_written (is_plan : WritesString p.planId plan)
    (is_instance : WritesString p.instanceId instance_id) (is_region : WritesString p.region region)
    (are_measures : List.Forall₂ Measurement.Writes p.measured measures)
    (is_measured : WritesList measures measured) : ∀ v ∈
      [plan, instance_id, Json.integer p.start.toInt, Json.integer p.stop.toInt, region, measured],
      IsValue v := by
  simp only [List.forall_mem_cons]
  refine ⟨is_plan.isValue, is_instance.isValue, .number (isNumber_integer _),
    .number (isNumber_integer _), is_region.isValue, .list ?_ is_measured, by rintro _ ⟨⟩⟩
  intro v member
  obtain ⟨m, -, writes⟩ := exists_of_forall₂_right are_measures member
  exact writes.isValue

/-- Each field of a usage record fills its own part of a draft. -/
theorem filling (is_plan : WritesString p.planId plan)
    (is_instance : WritesString p.instanceId instance_id) (is_region : WritesString p.region region)
    (are_measures : List.Forall₂ Measurement.Writes p.measured measures)
    (is_measured : WritesList measures measured) :
    Filling fields {} Draft.finish
      [plan, instance_id, Json.integer p.start.toInt, Json.integer p.stop.toInt, region, measured]
      p p.draftOf where
  blank_eq := rfl
  length_eq := rfl
  starts := fun v member => (values_written is_plan is_instance is_region are_measures is_measured
    v member).startsValue
  fills := by
    show ∀ x ∈ [("plan_id", plan), ("resource_instance_id", instance_id),
      ("start", Json.integer p.start.toInt), ("end", Json.integer p.stop.toInt),
      ("region", region), ("measured_usage", measured)], _
    simp only [List.forall_mem_cons]
    refine ⟨fills_required rfl (text_reads_string is_plan) ?_ ?_,
      fills_required rfl (text_reads_string is_instance) ?_ ?_,
      fills_required rfl (signedWord_reads _) ?_ ?_, fills_required rfl (signedWord_reads _) ?_ ?_,
      fills_required rfl (text_reads_string is_region) ?_ ?_,
      fills_required rfl (measures_read are_measures is_measured) ?_ ?_, by rintro _ ⟨⟩⟩
    all_goals intro seen
    case refine_1 | refine_3 | refine_5 | refine_7 | refine_9 | refine_11 =>
      exact fun fresh => if_neg fresh
    all_goals simp [draftOf]
  finished := by
    intro seen all
    simp [fields, Field.required] at all
    simp [draftOf, all, Draft.finish]

end Filling

/-- A usage record is read from every text that writes it. -/
theorem Writes.reads {p : UsagePayload} {w : List Char} (h : p.Writes w) : Reads reader w p := by
  cases h with
  | record is_plan is_instance is_region are_measures is_measured written =>
    exact (filling is_plan is_instance is_region are_measures is_measured).reads collecting written

/-- The texts that write it are JSON values. -/
theorem Writes.isValue {p : UsagePayload} {w : List Char} (h : p.Writes w) : IsValue w := by
  cases h with
  | record is_plan is_instance is_region are_measures is_measured written =>
    exact written.isValue
      (values_written is_plan is_instance is_region are_measures is_measured)

/-- No reader takes a record with a field that is missing or stands twice. -/
theorem Flawed.rejected {w : List Char} (h : Flawed w) : Outcome reader w none := by
  cases h with
  | field misshapen => exact collecting.rejects_misshapen misshapen
  | @measure measured v measures has are_values is_measured member misshapen =>
    have decides : Decides Measurement.reader :=
      record_decides Measurement.collecting.blind Measurement.collecting.decides
    have unread := listOf_rejects decides are_values is_measured member
      (Measurement.collecting.rejects_misshapen misshapen)
    exact collecting.rejects_field rfl (fun _ => unread.map required_eq) has

/-! ## Whole texts -/

/-- A usage record is decoded from every text that writes it, with blanks around it or not; no text
in which a field of the record or of an amount is missing or stands twice is decoded. -/
theorem decoding_ignores_layout (text : String) {w : List Char} (padded : Padded w text.toList) :
    (∀ p : UsagePayload, p.Writes w → IsValue w ∧ ofJson text = .ok p) ∧
    (Flawed w → ∃ fault, ofJson text = .error fault) := by
  constructor
  · intro p writes
    have decoded := decode_outcome (reads_iff_outcome.1 writes.reads) record_blind text padded
    exact ⟨writes.isValue, toOption_eq_some.1 decoded⟩
  · intro flawed
    have decoded := decode_outcome flawed.rejected record_blind text padded
    cases read : ofJson text with
    | error fault => exact ⟨fault, rfl⟩
    | ok p =>
      rw [ofJson] at read
      rw [read] at decoded
      cases decoded

/-! ## A text with another layout -/

namespace Rearranged

/-- A usage record with one amount. -/
def payload : UsagePayload := ⟨"free", "i-1", 0, 9, "eu", [⟨"INSTANCE", 1⟩]⟩

/-- A list with a number that is not whole, behind a blank. -/
def note : List Char :=
  Json.array ["null".toList, [' ', '-', '1', '.', '5']]

/-- The members of a text that writes it: out of order, with a letter of the region escaped, the
amount as a list, and a note that nobody asked for. -/
def members : List (String × List Char) :=
  [("region", ['"', '\\', 'u', '0', '0', '6', '5', 'u', '"']), ("note", note),
    ("measured_usage", Json.array [Json.array [Json.string "INSTANCE", Json.integer 1]]),
    ("end", Json.integer 9), ("start", Json.integer 0), ("plan_id", Json.string "free"),
    ("resource_instance_id", Json.string "i-1")]

/-- The text of an object with some members, between blanks. -/
def textOf (ms : List (String × List Char)) : String :=
  String.ofList ([' '] ++ Json.object ms ++ ['\n'])

theorem blanks_one {c : Char} (h : isBlank c = true) : Blanks [c] := by
  simpa [Blanks] using h

theorem padded_textOf (ms : List (String × List Char)) :
    Padded (Json.object ms) (textOf ms).toList := by
  refine ⟨[' '], ['\n'], blanks_one rfl, blanks_one rfl, ?_⟩
  rw [textOf, String.toList_ofList]

theorem note_value : IsValue note := by
  have number : IsValue ['-', '1', '.', '5'] := by
    have magnitude : IsMagnitude (['1'] ++ (['.', '5'] ++ [])) :=
      .parts (.positive (by decide) ⟨by decide, List.all_eq_true.mp rfl⟩)
        (.present ⟨by decide, List.all_eq_true.mp rfl⟩) .absent
    exact .number (.negative magnitude)
  have blank : Padded ['-', '1', '.', '5'] [' ', '-', '1', '.', '5'] :=
    ⟨[' '], [], blanks_one rfl, blanks_nil, rfl⟩
  have values : ∀ v ∈ ["null".toList, ['-', '1', '.', '5']], IsValue v := by
    simp only [List.forall_mem_cons]
    exact ⟨.null, number, by rintro _ ⟨⟩⟩
  exact .list values ⟨_, .items (by simp) (.cons (.refl _) (.cons blank .nil)), rfl⟩

theorem region_written : WritesString "eu" ['"', '\\', 'u', '0', '0', '6', '5', 'u', '"'] := by
  have digits : HexDigits 'e'.toNat ['0', '0', '6', '5'] :=
    .four (by decide) (.inl rfl) (.inl rfl) (.inl rfl) (.inl rfl)
  exact ⟨_, .char (.unit digits) (.char (.plain (by decide) (by decide) (by decide)) .done), rfl⟩

theorem measured_value :
    IsValue (Json.array [Json.array [Json.string "INSTANCE", Json.integer 1]]) := by
  refine .list (List.forall_mem_singleton.2 (.list ?_ (writesList_array _))) (writesList_array _)
  simp only [List.forall_mem_cons]
  exact ⟨(writesString_string _).isValue, .number (isNumber_integer _), by rintro _ ⟨⟩⟩

theorem member_values : ∀ m ∈ members, IsValue m.2 := by
  simp only [members, List.forall_mem_cons]
  exact ⟨region_written.isValue, note_value, measured_value, .number (isNumber_integer _),
    .number (isNumber_integer _), (writesString_string _).isValue,
    (writesString_string _).isValue, by rintro _ ⟨⟩⟩

/-- The members write the usage record, with a note between them. -/
theorem writes : payload.Writes (Json.object members) := by
  have rearranged : WritesRecord
      ["plan_id", "resource_instance_id", "start", "end", "region", "measured_usage"]
      (["plan_id", "resource_instance_id", "start", "end", "region", "measured_usage"].map
        fun name => (members.lookup name).getD []) (Json.object members) :=
    @WritesRecord.object _ _ members [("note", note)] _ (by decide) (by decide)
      (by simpa using note_value) (writesObject_object members)
  exact .record (writesString_string _) (writesString_string _) region_written
    (.cons (.record (writesString_string _) (.list (writesList_array _))) .nil)
    (writesList_array _) rearranged

theorem flawed : Flawed (Json.object (members.eraseIdx 4)) :=
  .field (@Misshapen.object _ _ _ "start"
    (fun m member => member_values m (List.mem_of_mem_eraseIdx member))
    (writesObject_object _) (by decide) (by decide))

theorem decoded_until_start_dropped : ofJson (textOf members) = .ok payload ∧
    ∃ fault, ofJson (textOf (members.eraseIdx 4)) = .error fault :=
  ⟨((decoding_ignores_layout _ (padded_textOf _)).1 payload writes).2,
    (decoding_ignores_layout _ (padded_textOf _)).2 flawed⟩

end Rearranged

end UsagePayload

end UsageBilling
