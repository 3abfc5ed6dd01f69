import Mathlib.Data.List.Sort
import UsageBilling.Metering.Response
import UsageBilling.Proofs.Json.Values

/-!
# Failures by position

A response says for every position of a batch whether it leaves the record
there outstanding, and why. The failures are the records left outstanding, in
the order of the batch, each under its reason and under no other one, and each
stamped with what the clock shows when its turn comes. Of the policies, keeping
duplicates only takes from the failures of the other one those whose result is a
duplicate; where no results line up with the batch, there is nothing to tell its
records apart, and the policies agree.
-/

namespace UsageBilling.Metering

open Calendar (Readings)

/-! ## Items with their positions -/

section Located

variable {α β : Type}

/-- What is taken from the items of a list, with the position of its item. -/
def located (take : α → Option β) (items : List α) : List (Nat × β) :=
  items.zipIdx.filterMap fun (a, i) => (take a).map (i, ·)

theorem map_snd_located (take : α → Option β) (items : List α) :
    (located take items).map (·.2) = items.filterMap take := by
  have values : items.filterMap take = (items.zipIdx.map Prod.fst).filterMap take := by
    rw [List.zipIdx_map_fst]
  rw [values, located, List.map_filterMap, List.filterMap_map]
  refine List.filterMap_congr fun (a, i) _ => ?_
  cases taken : take a <;> simp [taken]

/-- What is taken at a position is taken from the item there. -/
theorem mem_located {take : α → Option β} {items : List α} {i : Nat} {b : β} :
    (i, b) ∈ located take items ↔ ∃ a, items[i]? = some a ∧ take a = some b := by
  simp only [located, List.mem_filterMap, Prod.exists, List.mem_zipIdx_iff_getElem?,
    Option.map_eq_some_iff, Prod.mk.injEq]
  constructor
  · rintro ⟨a, _, found, _, taken, rfl, rfl⟩
    exact ⟨a, found, taken⟩
  · rintro ⟨a, found, taken⟩
    exact ⟨a, i, found, b, taken, rfl, rfl⟩

/-- The positions ascend. -/
def Ascending (located : List (Nat × β)) : Prop :=
  located.Pairwise (·.1 < ·.1)

/-- What is taken from a list is taken in the order of positions. -/
theorem located_ascending (take : α → Option β) (items : List α) :
    Ascending (located take items) := by
  have positions : items.zipIdx.Pairwise (·.2 < ·.2) := by
    rw [← List.pairwise_map, List.zipIdx_map_snd]
    exact List.pairwise_lt_range'
  refine positions.filterMap _ ?_
  rintro ⟨a, i⟩ ⟨b, j⟩ before x found y found'
  obtain ⟨_, -, rfl⟩ := Option.map_eq_some_iff.1 found
  obtain ⟨_, -, rfl⟩ := Option.map_eq_some_iff.1 found'
  exact before

/-- Ascending positions leave no choice of the order. -/
theorem Ascending.ext {xs ys : List (Nat × β)} (hx : Ascending xs) (hy : Ascending ys)
    (same : ∀ x, x ∈ xs ↔ x ∈ ys) : xs = ys := by
  have irrefl : Std.Irrefl fun x y : Nat × β => x.1 < y.1 := ⟨fun x => Nat.lt_irrefl x.1⟩
  have antisymm : Std.Antisymm fun x y : Nat × β => x.1 < y.1 :=
    ⟨fun _ _ before after => absurd before (Nat.lt_asymm after)⟩
  exact List.Pairwise.eq_of_mem_iff hx hy same

end Located

/-! ## What a response leaves outstanding -/

/-- The body has a result for every record of the batch. -/
structure LinesUp (body : String) (batch : List UsagePayload) (results : List ItemResult) :
    Prop where
  read : batchResults body = .ok results
  aligned : results.length = batch.length

/-- The result is no acceptance, and it is a duplicate where only duplicates are kept. -/
structure Keeps (policy : RejectionPolicy) (item : ItemResult) : Prop where
  rejected : ¬ (200 ≤ item.status ∧ item.status ≤ 299)
  kept : item.status = 409 ∨ policy = .allRejected

/-- Why a response leaves the record `p` at the position `i` of the batch outstanding. A response
with status 201 leaves none. -/
inductive Leaves (policy : RejectionPolicy) (status : Nat) (body : String)
    (batch : List UsagePayload) (i : Nat) (p : UsagePayload) : String → Prop where
  /-- The result at the position keeps the record, and has a message. -/
  | told {results : List ItemResult} {item : ItemResult} {message : String}
      (multi : status = 202) (lines_up : LinesUp body batch results)
      (result : results[i]? = some item) (keeps : Keeps policy item)
      (told : item.message = some message) : Leaves policy status body batch i p message
  /-- The result at the position keeps the record, and has no message. -/
  | untold {results : List ItemResult} {item : ItemResult}
      (multi : status = 202) (lines_up : LinesUp body batch results)
      (result : results[i]? = some item) (keeps : Keeps policy item)
      (untold : item.message = none) :
      Leaves policy status body batch i p
        ("Usage record for " ++ p.instanceId ++ " rejected with status: " ++ toString item.status)
  /-- The results cannot be read, or are not as many as the records. -/
  | malformed (multi : status = 202) (astray : ∀ results, ¬ LinesUp body batch results) :
      Leaves policy status body batch i p "Malformed multi-status response from metering API"
  /-- The batch was accepted in a way that says nothing of its records. -/
  | unusual (success : 200 ≤ status ∧ status ≤ 299) (other : status ≠ 201 ∧ status ≠ 202) :
      Leaves policy status body batch i p
        ("Billing request failed with status: " ++ toString status)
  | refused (failure : ¬ (200 ≤ status ∧ status ≤ 299)) :
      Leaves policy status body batch i p
        "Billing request failed unexpectedly. Check logs for information."

/-- Records of a batch, each with its position and the reason why it is outstanding. -/
abbrev Placed := List (Nat × UsagePayload × String)

/-- The failures that placed records become, each stamped with the next reading of the clock. -/
def Placed.failures (placed : Placed) (clock : Readings) : List UsageFailure :=
  placed.mapIdx fun k (_, p, reason) => .stamped p reason (clock k)

/-- The stamp of each failure is the reading of the clock that has its place. -/
theorem stampAll_map {α : Type} (rejection : α → UsagePayload × String) (items : List α)
    (clock : Readings) : UsageFailure.stampAll clock (items.map rejection) =
      items.mapIdx fun k a => .stamped (rejection a).1 (rejection a).2 (clock k) := by
  induction items generalizing clock with
  | nil => rfl
  | cons a items ih =>
    rw [List.mapIdx_cons, List.map_cons, UsageFailure.stampAll, ih]
    rfl

/-- Placed records are stamped one after another. -/
theorem stampAll_map_snd (placed : Placed) (clock : Readings) :
    UsageFailure.stampAll clock (placed.map (·.2)) = placed.failures clock :=
  stampAll_map (·.2) placed clock

/-- The failures are the records of the batch for which there is a reason, in order, each
unchanged, with its reason and with the next reading of the clock. -/
def Outstanding (batch : List UsagePayload) (clock : Readings)
    (leaves : Nat → UsagePayload → String → Prop) (failures : List UsageFailure) : Prop :=
  ∃ placed : Placed, placed.failures clock = failures ∧ Ascending placed ∧
    ∀ i p reason, (i, p, reason) ∈ placed ↔ batch[i]? = some p ∧ leaves i p reason

section Outstanding

variable {batch : List UsagePayload} {clock : Readings}
  {leaves : Nat → UsagePayload → String → Prop}

/-- There is only one list of such failures. -/
theorem Outstanding.unique {failures others : List UsageFailure}
    (h : Outstanding batch clock leaves failures) (h' : Outstanding batch clock leaves others) :
    failures = others := by
  obtain ⟨placed, rfl, ascending, mem_iff⟩ := h
  obtain ⟨placed', rfl, ascending', mem_iff'⟩ := h'
  have same : placed = placed' :=
    ascending.ext ascending' fun (i, p, reason) =>
      (mem_iff i p reason).trans (mem_iff' i p reason).symm
  rw [same]

/-- What is taken from some items, one for each record, is outstanding if it is the record with its
reason. -/
theorem outstanding_filterMap {α : Type} {items : List α}
    {take : α → Option (UsagePayload × String)}
    (taken : ∀ i p reason, (∃ a, items[i]? = some a ∧ take a = some (p, reason)) ↔
      batch[i]? = some p ∧ leaves i p reason) :
    Outstanding batch clock leaves (UsageFailure.stampAll clock (items.filterMap take)) := by
  refine ⟨located take items, ?_, located_ascending take items,
    fun i p reason => mem_located.trans (taken i p reason)⟩
  rw [← stampAll_map_snd, map_snd_located]

/-- One reason for all records leaves the whole batch outstanding. -/
theorem outstanding_failAll {reason : String}
    (common : ∀ i p given, leaves i p given ↔ given = reason) :
    Outstanding batch clock leaves (failAll batch reason clock) := by
  rw [failAll, ← List.filterMap_eq_map']
  refine outstanding_filterMap fun i p given => ?_
  simp only [common, Option.some.injEq, Prod.mk.injEq]
  constructor
  · rintro ⟨q, found, rfl, rfl⟩
    exact ⟨found, rfl⟩
  · rintro ⟨found, rfl⟩
    exact ⟨p, found, rfl, rfl⟩

end Outstanding

section Classify

variable {policy : RejectionPolicy} {status : Nat} {body : String} {batch : List UsagePayload}
  {results : List ItemResult} {clock : Readings}

/-- A result keeps its record exactly if it is no acceptance, and a duplicate where only these are
kept. -/
theorem isKept_iff_keeps {item : ItemResult} : item.isKept policy = true ↔ Keeps policy item := by
  have fields : Keeps policy item ↔ ¬ (200 ≤ item.status ∧ item.status ≤ 299) ∧
      (item.status = 409 ∨ policy = .allRejected) :=
    ⟨fun keeps => ⟨keeps.rejected, keeps.kept⟩, fun both => ⟨both.1, both.2⟩⟩
  rw [fields]
  simp only [ItemResult.isKept, ItemResult.isAccepted, Bool.and_eq_true, Bool.not_eq_true',
    Bool.and_eq_false_iff, decide_eq_false_iff_not, Bool.or_eq_true, beq_iff_eq]
  exact and_congr_left fun _ => by omega

/-- Results that line up keep a record for the reason that its result gives. -/
theorem leaves_iff_of_linesUp {i : Nat} {p : UsagePayload} {reason : String} (multi : status = 202)
    (lines_up : LinesUp body batch results) : Leaves policy status body batch i p reason ↔
      ∃ item, results[i]? = some item ∧ Keeps policy item ∧ reason = item.reason p := by
  subst multi
  constructor
  · intro h
    cases h with
    | told _ lines_up' result keeps told =>
      obtain rfl := Except.ok.inj (lines_up'.read.symm.trans lines_up.read)
      exact ⟨_, result, keeps, by rw [ItemResult.reason, told]; rfl⟩
    | untold _ lines_up' result keeps untold =>
      obtain rfl := Except.ok.inj (lines_up'.read.symm.trans lines_up.read)
      exact ⟨_, result, keeps, by rw [ItemResult.reason, untold]; rfl⟩
    | malformed _ astray => exact absurd lines_up (astray results)
    | unusual _ other => exact absurd rfl other.2
    | refused failure => exact absurd (by decide) failure
  · rintro ⟨item, result, keeps, rfl⟩
    cases message : item.message with
    | some m =>
      have same : item.reason p = m := by rw [ItemResult.reason, message]; rfl
      exact same ▸ .told rfl lines_up result keeps message
    | none =>
      rw [ItemResult.reason, message]
      exact .untold rfl lines_up result keeps message

/-- The record with its reason, if its result keeps it. -/
def keptItem (policy : RejectionPolicy) (x : ItemResult × UsagePayload) :
    Option (UsagePayload × String) :=
  if x.1.isKept policy then some (x.2, x.1.reason x.2) else none

/-- Results that line up leave outstanding the records that they keep. -/
theorem classify_of_linesUp (multi : status = 202) (lines_up : LinesUp body batch results) :
    classify status body batch policy clock =
      UsageFailure.stampAll clock ((results.zip batch).filterMap (keptItem policy)) := by
  subst multi
  show classifyItems body batch policy clock = _
  rw [classifyItems, lines_up.read]
  exact if_pos lines_up.aligned

/-- A record that is kept has the reason of its result. -/
theorem keptItem_eq_some_iff {item : ItemResult} {p q : UsagePayload} {reason : String} :
    keptItem policy (item, p) = some (q, reason) ↔
      Keeps policy item ∧ p = q ∧ item.reason p = reason := by
  rw [keptItem, Option.ite_none_right_eq_some, isKept_iff_keeps, Option.some.injEq,
    Prod.mk.injEq]

/-- Where the results line up with the batch, the failures are the records that these keep. -/
theorem outstanding_of_linesUp (multi : status = 202) (lines_up : LinesUp body batch results) :
    Outstanding batch clock (Leaves policy status body batch)
      (UsageFailure.stampAll clock ((results.zip batch).filterMap (keptItem policy))) := by
  refine outstanding_filterMap fun i p reason => ?_
  simp only [leaves_iff_of_linesUp multi lines_up, Prod.exists, List.getElem?_zip_eq_some,
    keptItem_eq_some_iff]
  constructor
  · rintro ⟨item, _, ⟨result, found⟩, keeps, rfl, rfl⟩
    exact ⟨found, item, result, keeps, rfl⟩
  · rintro ⟨found, item, result, keeps, rfl⟩
    exact ⟨item, p, ⟨result, found⟩, keeps, rfl, rfl⟩

/-- The response leaves the whole batch outstanding, and for this reason. -/
structure LeavesAll (status : Nat) (body : String) (batch : List UsagePayload)
    (reason : String) : Prop where
  classified : ∀ policy clock, classify status body batch policy clock = failAll batch reason clock
  common : ∀ policy i p given, Leaves policy status body batch i p given ↔ given = reason

/-- Results that do not line up leave every record outstanding. -/
theorem leavesAll_malformed (multi : status = 202)
    (astray : ∀ results, ¬ LinesUp body batch results) :
    LeavesAll status body batch malformedResponse := by
  refine ⟨fun policy clock => ?_, fun policy i p given => ⟨fun leaves => ?_, ?_⟩⟩
  · subst multi
    show classifyItems body batch policy clock = _
    unfold classifyItems
    split
    · rfl
    next results read => exact if_neg fun aligned => astray results ⟨read, aligned⟩
  · cases leaves with
    | told _ lines_up | untold _ lines_up => exact absurd lines_up (astray _)
    | malformed => rfl
    | unusual _ other => exact absurd multi other.2
    | refused failure => exact absurd (by omega) failure
  · rintro rfl
    exact .malformed multi astray

/-- An acceptance that says nothing of its records leaves all of them outstanding. -/
theorem leavesAll_unusual (success : 200 ≤ status ∧ status ≤ 299)
    (other : status ≠ 201 ∧ status ≠ 202) : LeavesAll status body batch
      ("Billing request failed with status: " ++ toString status) := by
  refine ⟨fun policy clock => ?_, fun policy i p given => ⟨fun leaves => ?_, ?_⟩⟩
  · rw [classify, if_neg other.1, if_neg other.2, if_pos (by omega)]
    rfl
  · cases leaves with
    | told multi | untold multi | malformed multi => exact absurd multi other.2
    | unusual => rfl
    | refused failure => exact absurd success failure
  · rintro rfl
    exact .unusual success other

theorem leavesAll_refused (failure : ¬ (200 ≤ status ∧ status ≤ 299)) :
    LeavesAll status body batch unexpectedFailure := by
  refine ⟨fun policy clock => ?_, fun policy i p given => ⟨fun leaves => ?_, ?_⟩⟩
  · rw [classify, if_neg (by omega), if_neg (by omega), if_neg (by omega)]
  · cases leaves with
    | told multi | untold multi | malformed multi => exact absurd (by omega) failure
    | unusual success => exact absurd success failure
    | refused => rfl
  · rintro rfl
    exact .refused failure

/-- A response that accepts nothing and does not tell the records apart leaves all of them
outstanding. -/
theorem exists_leavesAll (status : Nat) (body : String) (batch : List UsagePayload)
    (other : status ≠ 201) (whole : status = 202 → ∀ results, ¬ LinesUp body batch results) :
    ∃ reason, LeavesAll status body batch reason := by
  by_cases multi : status = 202
  · exact ⟨_, leavesAll_malformed multi (whole multi)⟩
  by_cases success : 200 ≤ status ∧ status ≤ 299
  · exact ⟨_, leavesAll_unusual success ⟨other, multi⟩⟩
  · exact ⟨_, leavesAll_refused success⟩

/-- A response leaves outstanding what it gives a reason for. -/
theorem outstanding_classify (policy : RejectionPolicy) (status : Nat) (body : String)
    (batch : List UsagePayload) (clock : Readings) :
    Outstanding batch clock (Leaves policy status body batch)
      (classify status body batch policy clock) := by
  by_cases accepted : status = 201
  · subst accepted
    refine ⟨[], rfl, .nil, fun i p reason => iff_of_false List.not_mem_nil ?_⟩
    rintro ⟨-, leaves⟩
    cases leaves with
    | told multi | untold multi | malformed multi => cases multi
    | unusual _ other => exact other.1 rfl
    | refused failure => exact failure (by decide)
  by_cases apart : status = 202 ∧ ∃ results, LinesUp body batch results
  · obtain ⟨multi, results, lines_up⟩ := apart
    rw [classify_of_linesUp multi lines_up]
    exact outstanding_of_linesUp multi lines_up
  · obtain ⟨reason, all⟩ := exists_leavesAll status body batch accepted
      fun multi results lines_up => apart ⟨multi, results, lines_up⟩
    rw [all.classified]
    exact outstanding_failAll (all.common policy)

/-! ## The two policies -/

/-- Keeping duplicates only keeps those of the records kept at all whose result is a duplicate. -/
theorem located_keptItem_duplicateOnly (results : List ItemResult) (batch : List UsagePayload) :
    located (keptItem .duplicateOnly) (results.zip batch) =
      (located (keptItem .allRejected) (results.zip batch)).filter
        fun x => results[x.1]?.map (·.status) = some 409 := by
  -- both sides ascend, so it is enough to compare what is in them
  refine (located_ascending _ _).ext ((located_ascending _ _).filter _) fun (i, p, reason) => ?_
  simp only [List.mem_filter, mem_located, Prod.exists, List.getElem?_zip_eq_some,
    keptItem_eq_some_iff, decide_eq_true_eq, Option.map_eq_some_iff]
  constructor
  · rintro ⟨item, p, ⟨result, found⟩, keeps, same⟩
    have duplicate : item.status = 409 := keeps.kept.resolve_right (by decide)
    exact ⟨⟨item, p, ⟨result, found⟩, ⟨keeps.rejected, .inr rfl⟩, same⟩, item, result, duplicate⟩
  · rintro ⟨⟨item, p, ⟨result, found⟩, keeps, same⟩, item', result', duplicate⟩
    obtain rfl := Option.some.inj (result.symm.trans result')
    exact ⟨item, p, ⟨result, found⟩, ⟨keeps.rejected, .inl duplicate⟩, same⟩

end Classify

/-! ## Written results -/

/-- A result as the metering API writes it; the message may be missing, or `null`. -/
structure WrittenResult where
  status : UInt16
  message : Option (Option String)

namespace WrittenResult

/-- The message as it is written. -/
def messageMember : Option (Option String) → List (String × List Char)
  | none => []
  | some none => [("message", "null".toList)]
  | some (some s) => [("message", Json.string s)]

/-- The result as JSON. -/
def render (r : WrittenResult) : List Char :=
  Json.object (("status", Json.integer r.status.toNat) :: messageMember r.message)

/-- The result that is meant. -/
def result (r : WrittenResult) : ItemResult :=
  ⟨r.status.toNat, r.message.join⟩

end WrittenResult

/-- A body with some results. -/
def writtenBody (results : List WrittenResult) : String :=
  String.ofList (Json.object [("resources", Json.array (results.map (·.render)))])

namespace WrittenResult

open Json

theorem status_reads (n : UInt16) : Reads (integerBetween 0 65535) (integer n.toNat) n.toNat := by
  intro rest ends
  have bound := n.toNat_lt
  exact integerBetween_integer (by omega) (by simp [wordLimit]; omega) (by omega) (by omega) ends

theorem fields_blind : ∀ field ∈ ItemResult.fields, ∀ draft, Blind (field.read draft) := by
  simp only [ItemResult.fields, List.forall_mem_cons]
  refine ⟨fun _ => required_blind (integerBetween_blind _ _), fun _ => nullable_blind, ?_⟩
  rintro _ ⟨⟩

/-- A written result is read back; a message that is missing or `null` is none. -/
theorem render_reads (r : WrittenResult) : Reads ItemResult.reader r.render r.result := by
  obtain ⟨status, message⟩ := r
  refine record_reads ⟨some status.toNat, message⟩ ?_ fields_blind rfl
  refine .member rfl rfl (required_reads (status_reads status)) ?_
  match message with
  | none => exact .done _
  | some none => exact .member rfl rfl (nullable_reads orNull_reads_null) (.done _)
  | some (some s) =>
    exact .member rfl rfl (nullable_reads (orNull_reads (text_reads s) rfl (by decide))) (.done _)

end WrittenResult

/-- A written body is read back. -/
theorem batchResults_writtenBody (results : List WrittenResult) :
    batchResults (writtenBody results) = .ok (results.map (·.result)) := by
  have items : Json.Reads (Json.listOf ItemResult.reader)
      (Json.array (results.map (·.render))) (results.map (·.result)) := by
    apply Json.listOf_reads
    rw [List.forall₂_map_right_iff, List.forall₂_map_left_iff, List.forall₂_same]
    exact fun r _ => ⟨r.render_reads, _, _, rfl, rfl, by decide⟩
  have collected : Json.Collects
      [Json.Field.required "resources" BatchDraft.resources (fun _ r => ⟨some r⟩)
        (Json.listOf ItemResult.reader)] {}
      [("resources", Json.array (results.map (·.render)))] ⟨some (results.map (·.result))⟩ :=
    .member rfl rfl (Json.required_reads items) (.done _)
  have finished : BatchDraft.resources ⟨some (results.map (·.result))⟩ =
      some (results.map (·.result)) := rfl
  have blind : ∀ field ∈ [Json.Field.required "resources" BatchDraft.resources (fun _ r => ⟨some r⟩)
      (Json.listOf ItemResult.reader)], ∀ draft, Json.Blind (field.read draft) := by
    simp only [List.mem_singleton, forall_eq]
    exact fun _ => Json.required_blind (Json.listOf_blind _)
  have read := Json.record_reads _ collected blind finished [] Json.endsNumber_nil
  rw [List.append_nil] at read
  rw [batchResults, Json.decode, writtenBody, String.toList_ofList, read]
  rfl

/-- A response leaves outstanding the records of the batch for which it gives a reason, in order,
and nothing else: none with status 201, all for one reason where it does not tell them apart, and
those that their results keep where the results line up with the batch. Then the policy that keeps
duplicates only keeps the duplicates among those that the other one keeps. The results that a body
may write line up with a batch of as many records. All of this is so whatever the clock shows at
the readings that stamp the failures, one after another. -/
theorem classify_by_position (status : Nat) (body : String) (batch : List UsagePayload) :
    (∀ policy clock failures, classify status body batch policy clock = failures ↔
      Outstanding batch clock (Leaves policy status body batch) failures) ∧
    (status = 201 → ∀ policy clock, classify status body batch policy clock = []) ∧
    (status ≠ 201 → (status = 202 → ∀ results, ¬ LinesUp body batch results) →
      ∃ reason, ∀ policy clock, classify status body batch policy clock =
        batch.mapIdx fun k p => .stamped p reason (clock k)) ∧
    (status = 202 → ∀ results, LinesUp body batch results →
      ∃ placed : Placed, Ascending placed ∧
        (∀ i p reason, (i, p, reason) ∈ placed → batch[i]? = some p) ∧
        ∀ clock, placed.failures clock = classify status body batch .allRejected clock ∧
          Placed.failures (placed.filter fun x => results[x.1]?.map (·.status) = some 409) clock =
            classify status body batch .duplicateOnly clock) ∧
    (∀ written, body = writtenBody written → written.length = batch.length →
      LinesUp body batch (written.map (·.result))) := by
  refine ⟨fun policy clock failures => ?_, ?_, ?_, ?_, ?_⟩
  · have listed := outstanding_classify policy status body batch clock
    constructor
    · rintro rfl
      exact listed
    · exact listed.unique
  · rintro rfl policy clock
    rfl
  · intro other whole
    obtain ⟨reason, all⟩ := exists_leavesAll status body batch other whole
    exact ⟨reason, fun policy clock => (all.classified policy clock).trans (stampAll_map ..)⟩
  · intro multi results lines_up
    refine ⟨located (keptItem .allRejected) (results.zip batch), located_ascending _ _,
      ?_, fun clock => ⟨?_, ?_⟩⟩
    · intro i p reason member
      obtain ⟨⟨item, q⟩, at_position, kept⟩ := mem_located.1 member
      obtain ⟨-, rfl, -⟩ := keptItem_eq_some_iff.1 kept
      exact (List.getElem?_zip_eq_some.1 at_position).2
    · rw [← stampAll_map_snd, map_snd_located, classify_of_linesUp multi lines_up]
    · rw [← located_keptItem_duplicateOnly, ← stampAll_map_snd, map_snd_located,
        classify_of_linesUp multi lines_up]
  · rintro written rfl aligned
    exact ⟨batchResults_writtenBody written, by rw [List.length_map, aligned]⟩

end UsageBilling.Metering
