import UsageBilling.Proofs.Courses.Pass
import UsageBilling.Proofs.Json.Cuts
import UsageBilling.Proofs.Payload

/-!
# Damaged rows

A stored usage record that breaks off, or that something else has been written
behind, is no usage record. So a damaged row is set aside with its page, and
nothing is submitted for it.
-/

namespace UsageBilling

open Json

/-! ## Usage records that break off -/

theorem Measurement.members_await (m : Measurement) : AllAwait fields m.members := by
  simp only [AllAwait, members, List.forall_mem_cons]
  refine ⟨?_, ?_, by rintro _ ⟨⟩⟩
  · rintro field ⟨⟩ draft
    exact required_awaits (text_starves (writesString_string _)).awaits
  · rintro field ⟨⟩ draft
    exact required_awaits (word_awaits _)

/-- An amount that breaks off is not read. -/
theorem Measurement.render_starves (m : Measurement) : Starves reader m.render :=
  record_starves m.members_collect m.members_await

namespace UsagePayload

theorem measured_starves (p : UsagePayload) :
    Starves (listOf Measurement.reader) (array (p.measured.map Measurement.render)) := by
  apply listOf_starves
  rw [List.forall₂_map_right_iff, List.forall₂_same]
  exact fun m _ => ⟨m.render_reads, m.render_starves.awaits, m.render_startsValue⟩

/-- Each field of a usage record awaits its value. -/
theorem members_await (p : UsagePayload) : AllAwait fields p.members := by
  simp only [AllAwait, members, List.forall_mem_cons]
  refine ⟨?_, ?_, ?_, ?_, ?_, ?_, by rintro _ ⟨⟩⟩
  all_goals rintro field ⟨⟩ draft
  · exact required_awaits (text_starves (writesString_string _)).awaits
  · exact required_awaits (text_starves (writesString_string _)).awaits
  · exact required_awaits (signedWord_awaits _)
  · exact required_awaits (signedWord_awaits _)
  · exact required_awaits (text_starves (writesString_string _)).awaits
  · exact required_awaits p.measured_starves.awaits

/-- A usage record that breaks off is not read. -/
theorem render_starves (p : UsagePayload) : Starves reader p.render :=
  record_starves p.members_collect p.members_await

/-- The text of a usage record breaks off, or goes on with something else than blanks. -/
inductive Damaged (p : UsagePayload) (raw : String) : Prop where
  | cut (beginning : raw.toList <+: p.toJson.toList) (proper : raw ≠ p.toJson)
  | overlong {extra : String} (longer : raw = p.toJson ++ extra)
      (more : ∃ c ∈ extra.toList, isBlank c = false)

/-- The text of a usage record that breaks off is too short. -/
theorem ofJson_of_cut {p : UsagePayload} {raw : String}
    (beginning : raw.toList <+: p.toJson.toList) (proper : raw ≠ p.toJson) :
    ofJson raw = .error .truncated := by
  refine decode_starves p.render_starves raw ?_
  rw [← String.toList_ofList (l := p.render)]
  exact ⟨beginning, fun same => proper (String.toList_inj.1 same)⟩

/-- Behind a usage record nothing but blanks may stand. -/
theorem ofJson_of_overlong (p : UsagePayload) {extra : String}
    (more : ∃ c ∈ extra.toList, isBlank c = false) :
    ofJson (p.toJson ++ extra) = .error .malformed := by
  have read := p.render_reads_append extra.toList
  rw [← String.toList_ofList (l := p.render), ← toJson, ← String.toList_append] at read
  exact decode_overlong read more

/-- A damaged text is not read. -/
theorem Damaged.unread {p : UsagePayload} {raw : String} (damaged : p.Damaged raw) :
    ∃ fault, ofJson raw = .error fault := by
  cases damaged with
  | cut beginning proper => exact ⟨_, ofJson_of_cut beginning proper⟩
  | overlong longer more => exact ⟨_, longer ▸ p.ofJson_of_overlong more⟩

end UsagePayload

/-! ## Pages with damaged rows -/

namespace Billing

/-- Rows are read one by one, so a page is divided part by part. -/
theorem decodePage_append (before after : List FailureRecord) :
    decodePage (before ++ after) = ((decodePage before).1 ++ (decodePage after).1,
      (decodePage before).2 ++ (decodePage after).2) := by
  simp only [decodePage_eq, payloadsOf, undecodableOf, List.filterMap_append, List.filter_append]

theorem decodePage_unread {r : FailureRecord} {fault : Fault} (unread : r.usagePayload = .error fault)
    (after : List FailureRecord) :
    decodePage (r :: after) = ((decodePage after).1, r :: (decodePage after).2) := by
  rw [decodePage, unread]

end Billing

/-- A usage record whose text breaks off anywhere has an incomplete text, and one with more than
blanks behind its text a malformed one. So a row with such a text is set aside where it stands in its
page, and what is submitted are the records of the other rows. -/
theorem UsagePayload.damaged_set_aside (p : UsagePayload) :
    (∀ cut : String, cut.toList <+: p.toJson.toList → cut ≠ p.toJson →
      ofJson cut = .error .truncated) ∧
    (∀ extra : String, (∃ c ∈ extra.toList, isBlank c = false) →
      ofJson (p.toJson ++ extra) = .error .malformed) ∧
    (∀ (r : FailureRecord) (before after : List FailureRecord), p.Damaged r.payload →
      Billing.decodePage (before ++ r :: after) =
        ((Billing.decodePage before).1 ++ (Billing.decodePage after).1,
          (Billing.decodePage before).2 ++ r :: (Billing.decodePage after).2)) := by
  refine ⟨fun cut => ofJson_of_cut, fun extra => p.ofJson_of_overlong, ?_⟩
  intro r before after damaged
  obtain ⟨fault, unread⟩ := damaged.unread
  rw [Billing.decodePage_append, Billing.decodePage_unread unread]

/-! ## A number that breaks off -/

namespace TornNumber

/-- A usage record with an amount of two digits. -/
def payload : UsagePayload := ⟨"free", "i-1", 0, 9, "eu", [⟨"INSTANCE", 12⟩]⟩

/-- Its text up to the first digit of the amount. -/
def torn : String :=
  String.ofList (payload.render.take 131)

example : torn = "\x7b\"plan_id\":\"free\",\"resource_instance_id\":\"i-1\",\"start\":0,\"end\":9," ++
    "\"region\":\"eu\",\"measured_usage\":[\x7b\"measure\":\"INSTANCE\",\"quantity\":1" := by
  decide +kernel

/-- A row with the torn text. -/
def row : FailureRecord := ⟨1, torn, "", default, default⟩

theorem torn_beginning : torn.toList <+: payload.toJson.toList := by
  rw [torn, UsagePayload.toJson, String.toList_ofList, String.toList_ofList]
  exact List.take_prefix _ _

theorem torn_proper : torn ≠ payload.toJson := by
  intro same
  have length := congrArg (·.toList.length) same
  simp only [torn, UsagePayload.toJson, String.toList_ofList] at length
  revert length
  decide +kernel

theorem torn_set_aside : UsagePayload.ofJson torn = .error .truncated ∧
    UsagePayload.ofJson (payload.toJson ++ "3") = .error .malformed ∧
    Billing.decodePage ([] ++ [row]) = ([], [row]) := by
  obtain ⟨cut, overlong, page⟩ := payload.damaged_set_aside
  exact ⟨cut torn torn_beginning torn_proper, overlong "3" ⟨'3', by decide, rfl⟩,
    page row [] [] (.cut torn_beginning torn_proper)⟩

end TornNumber

end UsageBilling
