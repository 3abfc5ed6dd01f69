import UsageBilling.Failure
import UsageBilling.Proofs.Calendar.Timestamps
import UsageBilling.Proofs.Json.Records

/-!
# Instances and rows as JSON

A service instance or a row of the queue is read from every text that writes it,
as an object with its members in any order or as a list, and its dates may have
any offset. Nothing is read if a date is past the years of the calendar or the
instant that it denotes cannot be represented. So what is written for an
instance or a row is read back as it was, to the nanosecond.
-/

namespace UsageBilling

open Calendar Json

/-! ## Dates -/

/-- A string is taken exactly if a time stamp is read from its characters. -/
theorem timestampReader_toOption (cs : List Char) : (timestampReader cs).toOption =
    (text cs).toOption.bind fun (s, rest) => (Timestamp.read? s).map (·, rest) := by
  rw [timestampReader, toOption_bind]
  refine congrArg _ (funext ?_)
  rintro ⟨s, rest⟩
  dsimp only
  cases Timestamp.read? s <;> rfl

/-- From a string a date is read as from its characters. -/
theorem timestampReader_outcome {v : List Char} {outcome : Option String}
    (h : Outcome text v outcome) :
    Outcome timestampReader v (outcome.bind Timestamp.read?) := by
  intro rest ends
  rw [timestampReader_toOption, h rest ends]
  cases outcome <;> rfl

/-- From a string in any spelling a date is read. -/
theorem timestampReader_string {date : String} {w : List Char} (h : WritesString date w) :
    Outcome timestampReader w (Timestamp.read? date) :=
  timestampReader_outcome (reads_iff_outcome.1 (text_reads_string h))

theorem timestampReader_blind : Blind timestampReader := by
  intro blanks cs all
  simp only [timestampReader, text_blind _ _ all]

theorem timestampReader_decides : Decides timestampReader := by
  intro v value
  obtain ⟨outcome, taken⟩ := text_decides v value
  exact ⟨_, timestampReader_outcome taken⟩

/-- The text of a record has each of its fields. -/
theorem Json.WritesRecord.hasField {names : List String} {values : List (List Char)}
    {w v : List Char} {name : String} (h : WritesRecord names values w)
    (are_values : ∀ v ∈ values, IsValue v) (place : (name, v) ∈ names.zip values) :
    HasField names name v w := by
  cases h with
  | object members _ others written =>
    refine .object (fun m member => ?_) written (members.mem_iff.2 (List.mem_append_left _ place))
    rcases List.mem_append.1 (members.mem_iff.1 member) with own | other
    · exact are_values m.2 (List.of_mem_zip own).2
    · exact others m other
  | list written => exact .list are_values written place

/-- What is written without blanks around is a record in its own layout. -/
theorem Json.writesRecord_object {names : List String} {values : List (List Char)} :
    WritesRecord names values (object (names.zip values)) :=
  .object (.of_eq (List.append_nil _).symm) (by simp) (by simp) (writesObject_object _)

/-! ## Instances -/

namespace ServiceInstance

/-- The text writes the instance, but with `date` as its creation. -/
inductive Writes (i : ServiceInstance) (date : String) (w : List Char) : Prop where
  | record {instance_id plan region created : List Char}
      (is_instance : WritesString i.instanceId instance_id) (is_plan : WritesString i.planId plan)
      (is_region : WritesString i.region region) (is_date : WritesString date created)
      (written : WritesRecord ["instance_id", "plan_id", "region", "created_utc"]
        [instance_id, plan, region, created] w)

/-- The fields of an instance have names of their own, and each marks its part of a draft. -/
theorem collecting : Collecting fields {} Draft.finish where
  distinct := by decide
  required := by simp [fields, Field.required]
  blind := by
    simp only [fields, List.forall_mem_cons]
    refine ⟨fun _ => required_blind text_blind, fun _ => required_blind text_blind,
      fun _ => required_blind text_blind, fun _ => required_blind timestampReader_blind, ?_⟩
    rintro _ ⟨⟩
  decides := by
    simp only [fields, List.forall_mem_cons]
    refine ⟨fun _ => required_decides text_decides, fun _ => required_decides text_decides,
      fun _ => required_decides text_decides, fun _ => required_decides timestampReader_decides, ?_⟩
    rintro _ ⟨⟩
  unset := by simp [fields, Field.required]
  marks := by
    simp only [fields, List.forall_mem_cons]
    refine ⟨?_, ?_, ?_, ?_, by rintro _ ⟨⟩⟩
    all_goals
      intro draft cs next rest read
      obtain ⟨b, rfl⟩ := required_ok read
      simp [Field.required]
  complete := by
    rintro ⟨instance_id, plan, region, created⟩ i finished
    simp only [Draft.finish, Option.bind_eq_bind, Option.bind_eq_some_iff] at finished
    obtain ⟨_, rfl, _, rfl, _, rfl, _, rfl, -⟩ := finished
    simp [fields, Field.required]

/-- The instance as far as fields of these names have been read. -/
def draftOf (i : ServiceInstance) (seen : List String) : Draft where
  instanceId := if "instance_id" ∈ seen then some i.instanceId else none
  planId := if "plan_id" ∈ seen then some i.planId else none
  region := if "region" ∈ seen then some i.region else none
  created := if "created_utc" ∈ seen then some i.created else none

section Written

variable {i : ServiceInstance} {date : String} {instance_id plan region created w : List Char}

/-- The fields of an instance are values, as they are written. -/
theorem values_written (is_instance : WritesString i.instanceId instance_id)
    (is_plan : WritesString i.planId plan) (is_region : WritesString i.region region)
    (is_date : WritesString date created) :
    ∀ v ∈ [instance_id, plan, region, created], IsValue v := by
  simp only [List.forall_mem_cons]
  exact ⟨is_instance.isValue, is_plan.isValue, is_region.isValue, is_date.isValue, by rintro _ ⟨⟩⟩

/-- Each field of an instance fills its own part of a draft. -/
theorem filling (is_instance : WritesString i.instanceId instance_id)
    (is_plan : WritesString i.planId plan) (is_region : WritesString i.region region)
    (is_date : WritesString date created) (read : Timestamp.read? date = some i.created) :
    Filling fields {} Draft.finish [instance_id, plan, region, created] i i.draftOf where
  blank_eq := rfl
  length_eq := rfl
  starts := fun v member =>
    (values_written is_instance is_plan is_region is_date v member).startsValue
  fills := by
    have dated : Reads timestampReader created i.created :=
      reads_iff_outcome.2 (read ▸ timestampReader_string is_date)
    show ∀ x ∈ [("instance_id", instance_id), ("plan_id", plan), ("region", region),
      ("created_utc", created)], _
    simp only [List.forall_mem_cons]
    refine ⟨fills_required rfl (text_reads_string is_instance) ?_ ?_,
      fills_required rfl (text_reads_string is_plan) ?_ ?_,
      fills_required rfl (text_reads_string is_region) ?_ ?_,
      fills_required rfl dated ?_ ?_, by rintro _ ⟨⟩⟩
    all_goals intro seen
    case refine_1 | refine_3 | refine_5 | refine_7 => exact fun fresh => if_neg fresh
    all_goals simp [draftOf]
  finished := by
    intro seen all
    simp [fields, Field.required] at all
    simp [draftOf, all, Draft.finish]

/-- The instance is read with the instant that the date denotes, if it denotes one. -/
theorem Writes.outcome (h : i.Writes date w) : Outcome (Json.record fields {} Draft.finish) w
    ((Timestamp.read? date).map fun t => { i with created := t }) := by
  obtain @⟨instance_id, plan, region, created, is_instance, is_plan, is_region, is_date,
    written⟩ := h
  cases read : Timestamp.read? date with
  | some t =>
    have filled := filling (i := { i with created := t }) is_instance is_plan is_region is_date read
    exact reads_iff_outcome.1 (filled.reads collecting written)
  | none =>
    have unread := timestampReader_string is_date
    rw [read] at unread
    have has : HasField _ "created_utc" created w :=
      written.hasField (values_written is_instance is_plan is_region is_date) (by simp)
    exact collecting.rejects_field rfl (fun _ => unread.map required_eq) has

end Written

/-- From a text that writes the instance with a date, the instance is decoded with the instant that
this denotes, but nothing if the calendar ends before the date or the instant is out of range. -/
theorem Writes.decoded {i : ServiceInstance} {date text : String} {reading : Reading} {t : Instant}
    {w : List Char} (h : i.Writes date w) (padded : Padded w text.toList)
    (denotes : Timestamp.Denotes date reading t) : (ofJson text).toOption =
      if reading.InCalendar ∧ t.InRange then some { i with created := t } else none := by
  rw [ofJson, decode_outcome h.outcome record_blind text padded, denotes.read?]
  split <;> rfl

/-- The instance in its own layout, but with `date` as its creation. -/
def dated (i : ServiceInstance) (date : String) : String :=
  String.ofList <| Json.object [
    ("instance_id", Json.string i.instanceId),
    ("plan_id", Json.string i.planId),
    ("region", Json.string i.region),
    ("created_utc", Json.string date)]

/-- An instance is written with any text as the time of its creation. -/
theorem writes_dated (i : ServiceInstance) (date : String) :
    i.Writes date (i.dated date).toList := by
  rw [dated, String.toList_ofList]
  exact .record (writesString_string _) (writesString_string _) (writesString_string _)
    (writesString_string _) writesRecord_object

/-- What is written for an instance writes it with its creation as printed. -/
theorem writes_toJson (i : ServiceInstance) :
    i.Writes (Timestamp.render i.created) i.toJson.toList :=
  i.writes_dated _

/-- An instance created in the calendar is read back. -/
theorem ofJson_toJson {i : ServiceInstance} (h : i.created.Representable) :
    ofJson i.toJson = .ok i := by
  have decoded := decode_outcome i.writes_toJson.outcome record_blind i.toJson (.refl _)
  rw [Timestamp.read?_render h] at decoded
  exact toOption_eq_some.1 decoded

end ServiceInstance

/-! ## Rows -/

namespace FailureRecord

/-- The id is one that the database can give. -/
def FitsId (r : FailureRecord) : Prop :=
  Int64.minValue.toInt ≤ r.id ∧ r.id ≤ Int64.maxValue.toInt

instance (r : FailureRecord) : Decidable r.FitsId :=
  inferInstanceAs (Decidable (_ ∧ _))

/-- The text writes the row, but with these dates as its creation and its last update. -/
inductive Writes (r : FailureRecord) (creation update : String) (w : List Char) : Prop where
  | record {payload message created updated : List Char}
      (is_payload : WritesString r.payload payload) (is_message : WritesString r.message message)
      (is_creation : WritesString creation created) (is_update : WritesString update updated)
      (written : WritesRecord ["id", "payload", "message", "created_utc", "updated_utc"]
        [Json.integer r.id, payload, message, created, updated] w)

/-- The fields of a row have names of their own, and each marks its part of a draft. -/
theorem collecting : Collecting fields {} Draft.finish where
  distinct := by decide
  required := by simp [fields, Field.required]
  blind := by
    simp only [fields, List.forall_mem_cons]
    refine ⟨fun _ => required_blind (integerBetween_blind _ _), fun _ => required_blind text_blind,
      fun _ => required_blind text_blind, fun _ => required_blind timestampReader_blind,
      fun _ => required_blind timestampReader_blind, ?_⟩
    rintro _ ⟨⟩
  decides := by
    simp only [fields, List.forall_mem_cons]
    refine ⟨fun _ => required_decides (integerBetween_decides _ _),
      fun _ => required_decides text_decides, fun _ => required_decides text_decides,
      fun _ => required_decides timestampReader_decides,
      fun _ => required_decides timestampReader_decides, ?_⟩
    rintro _ ⟨⟩
  unset := by simp [fields, Field.required]
  marks := by
    simp only [fields, List.forall_mem_cons]
    refine ⟨?_, ?_, ?_, ?_, ?_, by rintro _ ⟨⟩⟩
    all_goals
      intro draft cs next rest read
      obtain ⟨b, rfl⟩ := required_ok read
      simp [Field.required]
  complete := by
    rintro ⟨id, payload, message, created, updated⟩ r finished
    simp only [Draft.finish, Option.bind_eq_bind, Option.bind_eq_some_iff] at finished
    obtain ⟨_, rfl, _, rfl, _, rfl, _, rfl, _, rfl, -⟩ := finished
    simp [fields, Field.required]

/-- The row as far as fields of these names have been read. -/
def draftOf (r : FailureRecord) (seen : List String) : Draft where
  id := if "id" ∈ seen then some r.id else none
  payload := if "payload" ∈ seen then some r.payload else none
  message := if "message" ∈ seen then some r.message else none
  created := if "created_utc" ∈ seen then some r.created else none
  updated := if "updated_utc" ∈ seen then some r.updated else none

section Written

variable {r : FailureRecord} {creation update : String}
  {payload message created updated w : List Char}

/-- An id of 64 bits is read back. -/
theorem id_reads (fits : r.FitsId) :
    Reads (integerBetween Int64.minValue.toInt Int64.maxValue.toInt) (Json.integer r.id) r.id := by
  intro rest ends
  obtain ⟨low, high⟩ := fits
  have low' : (-9223372036854775808 : Int) ≤ r.id := low
  have high' : r.id ≤ (9223372036854775807 : Int) := high
  exact integerBetween_integer low' (by simp [wordLimit]; omega) low high ends

/-- The fields of a row are values, as they are written. -/
theorem values_written (is_payload : WritesString r.payload payload)
    (is_message : WritesString r.message message) (is_creation : WritesString creation created)
    (is_update : WritesString update updated) :
    ∀ v ∈ [Json.integer r.id, payload, message, created, updated], IsValue v := by
  simp only [List.forall_mem_cons]
  exact ⟨.number (isNumber_integer _), is_payload.isValue, is_message.isValue,
    is_creation.isValue, is_update.isValue, by rintro _ ⟨⟩⟩

/-- Each field of a row fills its own part of a draft. -/
theorem filling (fits : r.FitsId) (is_payload : WritesString r.payload payload)
    (is_message : WritesString r.message message) (is_creation : WritesString creation created)
    (is_update : WritesString update updated)
    (read_created : Timestamp.read? creation = some r.created)
    (read_updated : Timestamp.read? update = some r.updated) :
    Filling fields {} Draft.finish [Json.integer r.id, payload, message, created, updated]
      r r.draftOf where
  blank_eq := rfl
  length_eq := rfl
  starts := fun v member =>
    (values_written is_payload is_message is_creation is_update v member).startsValue
  fills := by
    have dated_created : Reads timestampReader created r.created :=
      reads_iff_outcome.2 (read_created ▸ timestampReader_string is_creation)
    have dated_updated : Reads timestampReader updated r.updated :=
      reads_iff_outcome.2 (read_updated ▸ timestampReader_string is_update)
    show ∀ x ∈ [("id", Json.integer r.id), ("payload", payload), ("message", message),
      ("created_utc", created), ("updated_utc", updated)], _
    simp only [List.forall_mem_cons]
    refine ⟨fills_required rfl (id_reads fits) ?_ ?_,
      fills_required rfl (text_reads_string is_payload) ?_ ?_,
      fills_required rfl (text_reads_string is_message) ?_ ?_,
      fills_required rfl dated_created ?_ ?_, fills_required rfl dated_updated ?_ ?_,
      by rintro _ ⟨⟩⟩
    all_goals intro seen
    case refine_1 | refine_3 | refine_5 | refine_7 | refine_9 => exact fun fresh => if_neg fresh
    all_goals simp [draftOf]
  finished := by
    intro seen all
    simp [fields, Field.required] at all
    simp [draftOf, all, Draft.finish]

/-- The row is read with the instants that the dates denote, if both denote one. -/
theorem Writes.outcome (fits : r.FitsId) (h : r.Writes creation update w) :
    Outcome (Json.record fields {} Draft.finish) w
      ((Timestamp.read? creation).bind fun t =>
        (Timestamp.read? update).map fun u => { r with created := t, updated := u }) := by
  obtain @⟨payload, message, created, updated, is_payload, is_message, is_creation, is_update,
    written⟩ := h
  have are_values := values_written (r := r) is_payload is_message is_creation is_update
  cases read_created : Timestamp.read? creation with
  | none =>
    have unread := timestampReader_string is_creation
    rw [read_created] at unread
    have has : HasField _ "created_utc" created w := written.hasField are_values (by simp)
    exact collecting.rejects_field rfl (fun _ => unread.map required_eq) has
  | some t =>
    cases read_updated : Timestamp.read? update with
    | none =>
      have unread := timestampReader_string is_update
      rw [read_updated] at unread
      have has : HasField _ "updated_utc" updated w := written.hasField are_values (by simp)
      exact collecting.rejects_field rfl (fun _ => unread.map required_eq) has
    | some u =>
      have filled := filling (r := { r with created := t, updated := u }) fits is_payload is_message
        is_creation is_update read_created read_updated
      exact reads_iff_outcome.1 (filled.reads collecting written)

end Written

/-- From a text that writes the row with two dates, the row is decoded with the instants that these
denote, but nothing if the calendar ends before one of them or an instant is out of range. -/
theorem Writes.decoded {r : FailureRecord} {creation update text : String}
    {reading reading' : Reading} {t u : Instant} {w : List Char} (fits : r.FitsId)
    (h : r.Writes creation update w) (padded : Padded w text.toList)
    (denotes : Timestamp.Denotes creation reading t)
    (denotes' : Timestamp.Denotes update reading' u) : (ofJson text).toOption =
      if (reading.InCalendar ∧ t.InRange) ∧ reading'.InCalendar ∧ u.InRange then
        some { r with created := t, updated := u }
      else none := by
  rw [ofJson, decode_outcome (h.outcome fits) record_blind text padded, denotes.read?,
    denotes'.read?]
  by_cases first : reading.InCalendar ∧ t.InRange <;>
    by_cases second : reading'.InCalendar ∧ u.InRange <;> simp [first, second]

/-- The row in its own layout, but with these dates as its creation and its last update. -/
def dated (r : FailureRecord) (creation update : String) : String :=
  String.ofList <| Json.object [
    ("id", Json.integer r.id),
    ("payload", Json.string r.payload),
    ("message", Json.string r.message),
    ("created_utc", Json.string creation),
    ("updated_utc", Json.string update)]

/-- A row is written with any texts as its times. -/
theorem writes_dated (r : FailureRecord) (creation update : String) :
    r.Writes creation update (r.dated creation update).toList := by
  rw [dated, String.toList_ofList]
  exact .record (writesString_string _) (writesString_string _) (writesString_string _)
    (writesString_string _) writesRecord_object

/-- What is written for a row writes it with its two instants as printed. -/
theorem writes_toJson (r : FailureRecord) :
    r.Writes (Timestamp.render r.created) (Timestamp.render r.updated)
      r.toJson.toList :=
  r.writes_dated _ _

/-- A row with an id of 64 bits and times in the calendar is read back. -/
theorem ofJson_toJson {r : FailureRecord} (fits : r.FitsId) (created : r.created.Representable)
    (updated : r.updated.Representable) : ofJson r.toJson = .ok r := by
  have decoded := decode_outcome (r.writes_toJson.outcome fits) record_blind r.toJson (.refl _)
  rw [Timestamp.read?_render created, Timestamp.read?_render updated] at decoded
  exact toOption_eq_some.1 decoded

end FailureRecord

/-! ## Instants in any layout and with any offset -/

/-- Instances and rows are decoded as they were encoded, and each of their dates is printed with the
shortest fraction that is exact. In any layout, and with any offset, a date is decoded as the
reading less the offset, where the calendar has the date and the instant is in range. -/
theorem json_keeps_instants :
    (∀ i : ServiceInstance, i.created.Representable →
      ServiceInstance.ofJson i.toJson = .ok i ∧
      ∃ date : String, i.Writes date i.toJson.toList ∧
        Timestamp.Printed i.created date.toList) ∧
    (∀ r : FailureRecord, r.FitsId → r.created.Representable → r.updated.Representable →
      FailureRecord.ofJson r.toJson = .ok r ∧
      ∃ creation update : String, r.Writes creation update r.toJson.toList ∧
        Timestamp.Printed r.created creation.toList ∧
        Timestamp.Printed r.updated update.toList) ∧
    (∀ (i : ServiceInstance) (date text : String) (w : List Char) (reading : Reading) (t : Instant),
      i.Writes date w → Padded w text.toList → Timestamp.Denotes date reading t →
      (ServiceInstance.ofJson text).toOption =
        if reading.InCalendar ∧ t.InRange then some { i with created := t } else none) ∧
    (∀ (r : FailureRecord) (creation update text : String) (w : List Char)
      (reading reading' : Reading) (t u : Instant), r.FitsId →
      r.Writes creation update w → Padded w text.toList →
      Timestamp.Denotes creation reading t → Timestamp.Denotes update reading' u →
      (FailureRecord.ofJson text).toOption =
        if (reading.InCalendar ∧ t.InRange) ∧ reading'.InCalendar ∧ u.InRange then
          some { r with created := t, updated := u }
        else none) := by
  refine ⟨?_, ?_, ?_, ?_⟩
  · intro i created
    exact ⟨ServiceInstance.ofJson_toJson created, _, i.writes_toJson,
      Timestamp.printed_render created⟩
  · intro r fits created updated
    exact ⟨FailureRecord.ofJson_toJson fits created updated, _, _, r.writes_toJson,
      Timestamp.printed_render created, Timestamp.printed_render updated⟩
  · intro i date text w reading t writes padded denotes
    exact writes.decoded padded denotes
  · intro r creation update text w reading reading' t u fits writes padded denotes denotes'
    exact writes.decoded fits padded denotes denotes'

namespace FarDates

open Timestamp

/-- Half past eleven on a leap day, and half a second. -/
def leapDay : Reading :=
  ⟨2024, 2, 29, 23, 30, 0, 500000000⟩

/-- Half past midnight on the first day that is past the calendar. -/
def newYear : Reading :=
  ⟨262143, 1, 1, 0, 30, 0, 0⟩

theorem writes_leapDay : Writes leapDay (-3600) "2024-02-29T23:30:00.5-01:00".toList := by
  have date : WritesDate 2024 2 29 "2024-02-29".toList :=
    writesDate_year 2024 (by decide) (by decide)
  have time : WritesTime 23 30 0 "23:30:00".toList :=
    writesTime_padded (by decide) (by decide) (by decide)
  have fraction : WritesFraction 500000000 ".5".toList :=
    @WritesFraction.digits 5 ['5'] (by decide)
  have shift : WritesShift 3600 "01:00".toList :=
    @writesShift_padded 1 0 (by decide) (by decide)
  exact @Writes.parts leapDay _ _ _ _ _ [] 'T' date (by decide) time fraction
    (.refl (.behind (.inl rfl) shift)) Text.blanks_nil

theorem writes_newYear : Writes newYear 3600 "+262143-01-01T00:30:00+01:00".toList := by
  have date : WritesDate 262143 1 1 "+262143-01-01".toList :=
    writesDate_year 262143 (by decide) (by decide)
  have time : WritesTime 0 30 0 "00:30:00".toList :=
    writesTime_padded (by decide) (by decide) (by decide)
  have shift : WritesShift 3600 "01:00".toList :=
    @writesShift_padded 1 0 (by decide) (by decide)
  exact @Writes.parts newYear _ _ _ _ _ [] 'T' date (by decide) time .none
    (.refl (.ahead shift)) Text.blanks_nil

/-- The leap day has ended by then, in Greenwich. -/
theorem denotes_leapDay :
    Denotes "2024-02-29T23:30:00.5-01:00" leapDay ⟨1709253000, 500000000⟩ := by
  have exist : leapDay.Exists :=
    ⟨by decide, by decide, by decide, by decide, by decide, by decide⟩
  have shown : leapDay.ShownAt ⟨1709249400, 500000000⟩ :=
    ⟨19754, Month.begins_iff.2 (by decide), by decide⟩
  exact .less writes_leapDay exist shown

/-- The year that the calendar does not have begins an hour later in Greenwich. -/
theorem denotes_newYear :
    Denotes "+262143-01-01T00:30:00+01:00" newYear ⟨8210266875000, 0⟩ := by
  have exist : newYear.Exists :=
    ⟨by decide, by decide, by decide, by decide, by decide, by decide⟩
  have shown : newYear.ShownAt ⟨8210266878600, 0⟩ :=
    ⟨95026237, Month.begins_iff.2 (by decide), by decide⟩
  exact .less writes_newYear exist shown

/-- An instance that was created in the first second that can be represented. -/
def earliest : ServiceInstance :=
  ⟨"i-1", "free", "eu", ⟨Instant.firstSecond, 1⟩⟩

/-- A row with the least id, created in the first second and updated in the last. -/
def lowest : FailureRecord :=
  ⟨Int64.minValue.toInt, "\"", "down\n", earliest.created, ⟨Instant.lastSecond, 999999000⟩⟩

theorem first_and_last_second_kept :
    ServiceInstance.ofJson earliest.toJson = .ok earliest ∧
    FailureRecord.ofJson lowest.toJson = .ok lowest ∧
    (ServiceInstance.ofJson (earliest.dated "2024-02-29T23:30:00.5-01:00")).toOption =
      some { earliest with created := ⟨1709253000, 500000000⟩ } ∧
    (FailureRecord.ofJson (lowest.dated "2024-02-29T23:30:00.5-01:00"
      "+262143-01-01T00:30:00+01:00")).toOption = none := by
  obtain ⟨instances, rows, dated_instances, dated_rows⟩ := json_keeps_instants
  refine ⟨(instances earliest (by decide)).1,
    (rows lowest (by decide) (by decide) (by decide)).1, ?_, ?_⟩
  · rw [dated_instances _ _ _ _ _ _ (earliest.writes_dated _) (.refl _) denotes_leapDay]
    exact if_pos (by decide)
  · rw [dated_rows _ _ _ _ _ _ _ _ _ (by decide) (lowest.writes_dated _ _) (.refl _)
      denotes_leapDay denotes_newYear]
    exact if_neg (by decide)

/-- A date past the calendar is not decoded, though an hour less is in range. -/
theorem new_year_not_decoded :
    earliest.Writes "+262143-01-01T00:30:00+01:00"
      (earliest.dated "+262143-01-01T00:30:00+01:00").toList ∧
    Timestamp.Denotes "+262143-01-01T00:30:00+01:00" newYear ⟨8210266875000, 0⟩ ∧
    Instant.Representable ⟨8210266875000, 0⟩ ∧
    (ServiceInstance.ofJson (earliest.dated "+262143-01-01T00:30:00+01:00")).toOption ≠
      some { earliest with created := ⟨8210266875000, 0⟩ } := by
  have written := earliest.writes_dated "+262143-01-01T00:30:00+01:00"
  refine ⟨written, denotes_newYear, by decide, ?_⟩
  rw [written.decoded (.refl _) denotes_newYear, if_neg (by decide)]
  exact nofun

end FarDates

end UsageBilling
