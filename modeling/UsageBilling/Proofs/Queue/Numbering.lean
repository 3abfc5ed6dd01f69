import Mathlib.Data.List.Forall2
import UsageBilling.Proofs.Payload

/-!
# Numbered rows

Whatever is done to a queue, its rows stand in ascending order of their ids and
the last id that was given bounds them. A seeding that succeeds stores exactly
the failures it was given, each readable, under ids above all that were given
before; it is refused only for the character U+0000 in a message.
-/

namespace UsageBilling

open Calendar (Instant)

/-- The row stores the failure: its usage record, its reason and both time stamps. -/
structure FailureRecord.Stores (r : FailureRecord) (f : UsageFailure) : Prop where
  raw : r.payload = f.payload.toJson
  payload : r.usagePayload = .ok f.payload
  message : r.message = f.message
  created : r.created = f.created
  updated : r.updated = f.updated

theorem FailureRecord.ofFailure_stores (id : Int) (f : UsageFailure) : (ofFailure id f).Stores f :=
  ⟨rfl, usagePayload_ofFailure id f, rfl, rfl, rfl⟩

namespace FailureQueue

/-- The queue holds exactly these failures, in order. -/
def Holds (q : FailureQueue) (failures : List UsageFailure) : Prop :=
  List.Forall₂ FailureRecord.Stores q.rows failures

/-- The ids of the rows are positive, ascending and given already. -/
structure Numbered (q : FailureQueue) : Prop where
  started : 0 ≤ q.lastId
  ascending : q.rows.Pairwise (·.id < ·.id)
  given : ∀ r ∈ q.rows, 0 < r.id ∧ r.id ≤ q.lastId

/-- The queues that seeding, appending and clearing lead to. -/
inductive Reachable : FailureQueue → Prop where
  | empty : Reachable {}
  | seed {q q' : FailureQueue} {failures : List UsageFailure} (before : Reachable q)
      (stored : q.seed failures = .ok q') : Reachable q'
  | push {q : FailureQueue} (before : Reachable q) (payload message : String) (now : Instant) :
      Reachable (q.push payload message now)
  | clear {q : FailureQueue} (before : Reachable q) : Reachable q.clear

/-- Each row stores one of the failures. -/
theorem Holds.exists_stores {q : FailureQueue} {failures : List UsageFailure}
    (h : q.Holds failures) {r : FailureRecord} (member : r ∈ q.rows) : ∃ f ∈ failures, r.Stores f := by
  unfold Holds at h
  generalize q.rows = rows at h member
  induction h with
  | nil => cases member
  | cons stores _ ih =>
    rcases List.mem_cons.1 member with rfl | member
    · exact ⟨_, List.mem_cons_self, stores⟩
    · obtain ⟨f, inside, stores⟩ := ih member
      exact ⟨f, List.mem_cons_of_mem _ inside, stores⟩

/-! ## Seeding -/

/-- Every message can be stored. -/
def Storable (failures : List UsageFailure) : Prop :=
  ∀ f ∈ failures, isStorable f.message = true

/-- The rows of a new generation, if none is refused. -/
def numberFrom : Int → List UsageFailure → List FailureRecord
  | _, [] => []
  | lastId, f :: failures => .ofFailure (lastId + 1) f :: numberFrom (lastId + 1) failures

/-- Failures that can be stored are numbered one after another. -/
theorem stage_of_storable {failures : List UsageFailure} (h : Storable failures) (lastId : Int) :
    stage lastId failures = .ok (numberFrom lastId failures) := by
  induction failures generalizing lastId with
  | nil => rfl
  | cons f failures ih =>
    have message := h f (by simp)
    have others : Storable failures := fun g member => h g (by simp [member])
    rw [stage, f.payload.toJson_storable, message, ih others]
    rfl

/-- Failures that were staged can be stored. -/
theorem storable_of_stage {failures : List UsageFailure} {lastId : Int}
    {rows : List FailureRecord} (h : stage lastId failures = .ok rows) : Storable failures := by
  induction failures generalizing lastId rows with
  | nil => rintro _ ⟨⟩
  | cons f failures ih =>
    rw [stage] at h
    split at h
    next storable =>
      simp only [Bool.and_eq_true] at storable
      cases others : stage (lastId + 1) failures with
      | error e => rw [others] at h; cases h
      | ok rows =>
        intro g member
        rcases List.mem_cons.1 member with rfl | member
        · exact storable.2
        · exact ih others g member
    next => cases h

/-- A seeding succeeds exactly if every message can be stored. -/
theorem seed_eq_ok_iff {q q' : FailureQueue} {failures : List UsageFailure} :
    q.seed failures = .ok q' ↔
      Storable failures ∧ q' = ⟨q.lastId + failures.length, numberFrom q.lastId failures⟩ := by
  constructor
  · intro h
    cases staged : stage q.lastId failures with
    | error e => rw [seed, staged] at h; cases h
    | ok rows =>
      have storable := storable_of_stage staged
      rw [stage_of_storable storable] at staged
      obtain rfl := Except.ok.inj staged
      rw [seed, stage_of_storable storable] at h
      exact ⟨storable, (Except.ok.inj h).symm⟩
  · rintro ⟨storable, rfl⟩
    rw [seed, stage_of_storable storable]
    rfl

/-- Each row of a generation stores its failure. -/
theorem numberFrom_stores (lastId : Int) (failures : List UsageFailure) :
    List.Forall₂ FailureRecord.Stores (numberFrom lastId failures) failures := by
  induction failures generalizing lastId with
  | nil => exact .nil
  | cons f failures ih => exact .cons (FailureRecord.ofFailure_stores _ f) (ih _)

/-- The ids of a generation are above the last one that was given, and take up one each. -/
theorem numberFrom_given (lastId : Int) (failures : List UsageFailure) :
    ∀ r ∈ numberFrom lastId failures, lastId < r.id ∧ r.id ≤ lastId + failures.length := by
  induction failures generalizing lastId with
  | nil => rintro _ ⟨⟩
  | cons f failures ih =>
    intro r member
    simp only [List.length_cons]
    rcases List.mem_cons.1 member with rfl | member
    · simp only [FailureRecord.ofFailure]
      omega
    · have := ih _ r member
      omega

/-- The ids of a generation ascend. -/
theorem numberFrom_ascending (lastId : Int) (failures : List UsageFailure) :
    (numberFrom lastId failures).Pairwise (·.id < ·.id) := by
  induction failures generalizing lastId with
  | nil => exact .nil
  | cons f failures ih =>
    refine .cons (fun r member => ?_) (ih _)
    exact (numberFrom_given _ _ r member).1

/-- A new generation is what was asked for, and it is numbered above the old one. -/
theorem holds_of_seed {q q' : FailureQueue} {failures : List UsageFailure}
    (h : q.seed failures = .ok q') : q'.Holds failures := by
  obtain ⟨-, rfl⟩ := seed_eq_ok_iff.1 h
  exact numberFrom_stores _ _

theorem holds_nil_iff {q : FailureQueue} : q.Holds [] ↔ q.rows = [] :=
  List.forall₂_nil_right_iff

theorem Holds.rows_ne_nil {q : FailureQueue} {failures : List UsageFailure} (h : q.Holds failures)
    (some_left : failures ≠ []) : q.rows ≠ [] := by
  intro empty
  rw [Holds, empty, List.forall₂_nil_left_iff] at h
  exact some_left h

/-! ## Numbers -/

theorem numbered_empty : Numbered {} :=
  ⟨Int.le_refl _, .nil, by rintro _ ⟨⟩⟩

/-- The rows of a seeding are numbered on from the last id. -/
theorem Numbered.seed {q q' : FailureQueue} {failures : List UsageFailure} (h : q.Numbered)
    (stored : q.seed failures = .ok q') : q'.Numbered := by
  obtain ⟨-, rfl⟩ := seed_eq_ok_iff.1 stored
  have started := h.started
  refine ⟨?_, numberFrom_ascending _ _, fun r member => ?_⟩
  · show 0 ≤ q.lastId + failures.length
    omega
  · have := numberFrom_given _ _ r member
    show 0 < r.id ∧ r.id ≤ q.lastId + failures.length
    omega

theorem Numbered.clear {q : FailureQueue} (h : q.Numbered) : q.clear.Numbered :=
  ⟨h.started, .nil, by rintro _ ⟨⟩⟩

theorem Numbered.push {q : FailureQueue} (h : q.Numbered) (payload message : String)
    (now : Instant) : (q.push payload message now).Numbered := by
  have started := h.started
  refine ⟨?_, ?_, fun r member => ?_⟩
  · show 0 ≤ q.lastId + 1
    omega
  · refine List.pairwise_append.2 ⟨h.ascending, List.pairwise_singleton _ _, fun r member s last => ?_⟩
    obtain rfl := List.mem_singleton.1 last
    have := (h.given r member).2
    show r.id < q.lastId + 1
    omega
  · show 0 < r.id ∧ r.id ≤ q.lastId + 1
    rcases List.mem_append.1 member with member | last
    · have := h.given r member
      omega
    · obtain rfl := List.mem_singleton.1 last
      show 0 < q.lastId + 1 ∧ q.lastId + 1 ≤ q.lastId + 1
      omega

/-- However a queue was written, its rows are numbered. -/
theorem Reachable.numbered {q : FailureQueue} (h : q.Reachable) : q.Numbered := by
  induction h with
  | empty => exact numbered_empty
  | seed _ stored ih => exact ih.seed stored
  | push _ payload message now ih => exact ih.push payload message now
  | clear _ ih => exact ih.clear

/-- There are no more rows than ids. -/
theorem Numbered.length_le {q : FailureQueue} (h : q.Numbered) : (q.rows.length : Int) ≤ q.lastId := by
  have bound : ∀ (rows : List FailureRecord) (low : Int), rows.Pairwise (·.id < ·.id) →
      (∀ r ∈ rows, low < r.id ∧ r.id ≤ q.lastId) → low ≤ q.lastId →
      low + rows.length ≤ q.lastId := by
    intro rows
    induction rows with
    | nil => intro low _ _ top; simpa using top
    | cons r rows ih =>
      intro low ascending given _
      have first := given r (by simp)
      have others := ih r.id (List.pairwise_cons.1 ascending).2 (fun s member =>
        ⟨(List.pairwise_cons.1 ascending).1 s member, (given s (by simp [member])).2⟩) first.2
      simp only [List.length_cons]
      omega
  have := bound q.rows 0 h.ascending h.given h.started
  omega

end FailureQueue

end UsageBilling
