import UsageBilling.Proofs.Queue.Numbering
import UsageBilling.Rehearsal.QueueStep

/-!
# Histories of a queue

A queue is seeded, cleared, appended to and read, in any order. A seeding
replaces all rows or none: it is refused exactly for the character U+0000 in a
message, and then nothing has changed. The rows that are ever written into a
queue that was empty at first are numbered from 1 on, in the order in which they
were written, whatever has become of those before them. So an id is given once
and stands for one row for good.
-/

namespace UsageBilling

open Calendar (Instant)
open Rehearsal

/-! ## Seeding -/

/-- The text has the character U+0000. -/
def HasNul (s : String) : Prop :=
  Char.ofNat 0 ∈ s.toList

theorem isStorable_iff {s : String} : isStorable s = true ↔ ¬ HasNul s := by
  rw [isStorable, Bool.not_eq_true', List.contains_eq_mem, decide_eq_false_iff_not, HasNul]

namespace FailureQueue

/-- Failures can be stored if none of their messages has this character. -/
theorem storable_iff {failures : List UsageFailure} :
    Storable failures ↔ ¬ ∃ f ∈ failures, HasNul f.message := by
  simp only [Storable, isStorable_iff, not_exists, not_and]

/-- A message that cannot be stored refuses the whole generation. -/
theorem stage_of_not_storable {failures : List UsageFailure} (h : ¬ Storable failures)
    (lastId : Int) : stage lastId failures = .error .unstorable := by
  induction failures generalizing lastId with
  | nil => exact absurd (List.forall_mem_nil _) h
  | cons f failures ih =>
    rw [stage]
    split
    next storable =>
      have first : isStorable f.message = true := (Bool.and_eq_true_iff.1 storable).2
      have others : ¬ Storable failures := fun others => h (List.forall_mem_cons.2 ⟨first, others⟩)
      rw [ih others]
      rfl
    next => rfl

/-- A seeding that is refused stores nothing. -/
theorem seed_of_not_storable {failures : List UsageFailure} (h : ¬ Storable failures)
    (q : FailureQueue) : q.seed failures = .error .unstorable := by
  rw [seed, stage_of_not_storable h]
  rfl

/-- The rows of a new generation have greater ids than those of the old one. -/
theorem Numbered.lt_of_seed {q q' : FailureQueue} {failures : List UsageFailure} (h : q.Numbered)
    (stored : q.seed failures = .ok q') : ∀ r ∈ q.rows, ∀ r' ∈ q'.rows, r.id < r'.id := by
  intro r old r' new
  obtain ⟨-, rfl⟩ := seed_eq_ok_iff.1 stored
  have below := (h.given r old).2
  have above := (numberFrom_given _ _ r' new).1
  omega

end FailureQueue

/-- A seeding is refused exactly if a message has the character U+0000; the JSON of a usage record
never has it. The error is one of the database, and nothing has changed. Otherwise the rows are the
failures in order, and in a queue that seeding, appending and clearing have led to no row is left
of those before. -/
theorem seed_all_or_nothing (now : Instant) (s : QueueSession) (failures : List UsageFailure) :
    ∃ result s', (QueueStep.seed failures).perform now s = (.unit result, s') ∧
      ((∃ e, result = .error e) ↔ ∃ f ∈ failures, HasNul f.message) ∧
      (∀ p : UsagePayload, ¬ HasNul p.toJson) ∧
      (∀ e, result = .error e → e.kind = .database ∧ s' = s) ∧
      (result = .ok () → List.Forall₂ FailureRecord.Stores s'.queue.rows failures ∧
        (s.queue.Reachable → ∀ r ∈ s.queue.rows, ∀ r' ∈ s'.queue.rows, r.id < r'.id)) := by
  have payloads (p : UsagePayload) : ¬ HasNul p.toJson := isStorable_iff.1 p.toJson_storable
  by_cases storable : FailureQueue.Storable failures
  · obtain ⟨q, stored⟩ : ∃ q, s.queue.seed failures = .ok q :=
      ⟨_, FailureQueue.seed_eq_ok_iff.2 ⟨storable, rfl⟩⟩
    refine ⟨.ok (), { s with queue := q }, ?_, ?_, payloads, nofun,
      fun _ => ⟨?_, fun reached => ?_⟩⟩
    · rw [QueueStep.perform, stored]
    · exact iff_of_false nofun (FailureQueue.storable_iff.1 storable)
    · exact FailureQueue.holds_of_seed stored
    · exact reached.numbered.lt_of_seed stored
  · refine ⟨.error .unstorable, s, ?_, ?_, payloads, ?_, nofun⟩
    · rw [QueueStep.perform, FailureQueue.seed_of_not_storable storable]
    · exact iff_of_true ⟨_, rfl⟩ (not_not.1 (mt FailureQueue.storable_iff.2 storable))
    · rintro e ⟨⟩
      exact ⟨rfl, rfl⟩

/-! ## Rows that are written -/

namespace Rehearsal

/-- The rows that a step writes: all of those in the queue after a seeding that is not refused, and
the last one after an appending. -/
def QueueStep.written (now : Instant) (s : QueueSession) : QueueStep → List FailureRecord
  | .seed failures => ((s.queue.seed failures).toOption.map (·.rows)).getD []
  | .push payload message => (s.queue.push payload message now).rows.getLast?.toList
  | _ => []

/-- The session after some steps, each at its own time. -/
def QueueSession.after (s : QueueSession) : List (Instant × QueueStep) → QueueSession
  | [] => s
  | (now, step) :: steps => (step.perform now s).2.after steps

/-- All rows that are written by some steps, in order. -/
def QueueSession.issued (s : QueueSession) : List (Instant × QueueStep) → List FailureRecord
  | [] => []
  | (now, step) :: steps => step.written now s ++ (step.perform now s).2.issued steps

end Rehearsal

namespace FailureQueue

/-- What a step that writes these rows makes of a queue: they are numbered after the last id, and
they are in the queue afterwards, with some or all of the rows from before. -/
structure Writes (q : FailureQueue) (written : List FailureRecord) (q' : FailureQueue) : Prop where
  numbers : ∀ (k : Nat) r, written[k]? = some r → r.id = q.lastId + k + 1
  last : q'.lastId = q.lastId + written.length
  stored : written ⊆ q'.rows
  left : q'.rows.Sublist (q.rows ++ written)

/-- These rows were written into the queue, one after another: they are numbered from 1 on up to
the last id, and what is in the queue now is what is left of them. -/
structure HasIssued (q : FailureQueue) (issued : List FailureRecord) : Prop where
  numbers : ∀ (k : Nat) r, issued[k]? = some r → r.id = k + 1
  last : q.lastId = issued.length
  left : q.rows.Sublist issued

section HasIssued

variable {q q' : FailureQueue} {issued written : List FailureRecord}

theorem hasIssued_empty : HasIssued {} [] :=
  ⟨nofun, rfl, .slnil⟩

/-- What is written next is issued next. -/
theorem HasIssued.extend (h : q.HasIssued issued) (w : q.Writes written q') :
    q'.HasIssued (issued ++ written) := by
  have last := h.last
  refine ⟨fun k r found => ?_, ?_, w.left.trans (h.left.append_right written)⟩
  · by_cases earlier : k < issued.length
    · rw [List.getElem?_append_left earlier] at found
      exact h.numbers k r found
    · rw [List.getElem?_append_right (by omega)] at found
      have := w.numbers _ r found
      omega
  · rw [w.last, List.length_append]
    omega

/-- Rows are issued in ascending order of their ids. -/
theorem HasIssued.ascending (h : q.HasIssued issued) : issued.Pairwise (·.id < ·.id) := by
  rw [List.pairwise_iff_getElem]
  intro i j left right before
  have first := h.numbers i _ (List.getElem?_eq_getElem left)
  have second := h.numbers j _ (List.getElem?_eq_getElem right)
  omega

/-- An id stands for one of the rows ever written. -/
theorem HasIssued.eq_of_id (h : q.HasIssued issued) {r r' : FailureRecord} (member : r ∈ issued)
    (member' : r' ∈ issued) (same : r.id = r'.id) : r = r' := by
  obtain ⟨k, found⟩ := List.mem_iff_getElem?.1 member
  obtain ⟨k', found'⟩ := List.mem_iff_getElem?.1 member'
  have number := h.numbers k r found
  have number' := h.numbers k' r' found'
  obtain rfl : k = k' := by omega
  exact Option.some.inj (found.symm.trans found')

/-- No row is issued above the last id. -/
theorem HasIssued.given (h : q.HasIssued issued) : ∀ r ∈ issued, 0 < r.id ∧ r.id ≤ q.lastId := by
  intro r member
  obtain ⟨k, found⟩ := List.mem_iff_getElem?.1 member
  obtain ⟨inside, -⟩ := List.getElem?_eq_some_iff.1 found
  have number := h.numbers k r found
  have last := h.last
  omega

theorem HasIssued.numbered (h : q.HasIssued issued) : q.Numbered := by
  have last := h.last
  exact ⟨by omega, h.ascending.sublist h.left, fun r member => h.given r (h.left.subset member)⟩

/-- The rows that a step writes have ids that were not given before. -/
theorem Writes.lt_id (w : q.Writes written q') : ∀ r ∈ written, q.lastId < r.id := by
  intro r member
  obtain ⟨k, found⟩ := List.mem_iff_getElem?.1 member
  have number := w.numbers k r found
  omega

end HasIssued

theorem getElem?_numberFrom {lastId : Int} {failures : List UsageFailure} {k : Nat}
    {r : FailureRecord} (found : (numberFrom lastId failures)[k]? = some r) :
    r.id = lastId + k + 1 := by
  induction failures generalizing lastId k with
  | nil => cases found
  | cons f failures ih =>
    cases k with
    | zero =>
      cases found
      simp [FailureRecord.ofFailure]
    | succ k =>
      have number := ih found
      omega

theorem length_numberFrom (lastId : Int) (failures : List UsageFailure) :
    (numberFrom lastId failures).length = failures.length := by
  induction failures generalizing lastId with
  | nil => rfl
  | cons f failures ih => rw [numberFrom, List.length_cons, List.length_cons, ih]

/-- A row is found under its own id. -/
theorem Numbered.page_id {q : FailureQueue} (h : q.Numbered) {r : FailureRecord}
    (member : r ∈ q.rows) : (q.page (some (r.id - 1)) 1).records = [r] := by
  obtain ⟨front, rest, split⟩ := List.append_of_mem member
  have ascending := h.ascending
  rw [split, List.pairwise_append] at ascending
  have earlier : ∀ r' ∈ front, ¬ r.id - 1 < r'.id := by
    intro r' inside
    have before := ascending.2.2 r' inside r List.mem_cons_self
    omega
  have itself : r.id - 1 < r.id := by omega
  show (q.rows.filter fun r' => r.id - 1 < r'.id).take 1 = [r]
  rw [split, List.filter_append, List.filter_eq_nil_iff.2 (by simpa using earlier),
    List.filter_cons_of_pos (by exact decide_eq_true itself)]
  rfl

end FailureQueue

namespace Rehearsal

variable {s : QueueSession} {issued : List FailureRecord}

/-- What one step makes of the queue. -/
theorem QueueStep.writes_perform (now : Instant) (s : QueueSession) (step : QueueStep) :
    s.queue.Writes (step.written now s) (step.perform now s).2.queue := by
  have unchanged : s.queue.Writes [] s.queue :=
    ⟨nofun, (Int.add_zero _).symm, List.nil_subset _, by rw [List.append_nil]⟩
  cases step with
  | seed failures =>
    cases stored : s.queue.seed failures with
    | error e =>
      simp only [perform, written, stored]
      exact unchanged
    | ok q =>
      obtain ⟨-, rfl⟩ := FailureQueue.seed_eq_ok_iff.1 stored
      simp only [perform, written, stored]
      refine ⟨fun k r => FailureQueue.getElem?_numberFrom, ?_, List.Subset.refl _,
        List.sublist_append_right _ _⟩
      show s.queue.lastId + failures.length =
        s.queue.lastId + (FailureQueue.numberFrom s.queue.lastId failures).length
      rw [FailureQueue.length_numberFrom]
  | push payload message =>
    have last : (s.queue.push payload message now).rows.getLast?.toList =
        [⟨s.queue.lastId + 1, payload, message, now, now⟩] := by simp [FailureQueue.push]
    rw [written, last]
    refine ⟨fun k r found => ?_, rfl, List.subset_append_right _ _, List.Sublist.refl _⟩
    cases k with
    | zero =>
      cases found
      show s.queue.lastId + 1 = s.queue.lastId + 0 + 1
      omega
    | succ k => cases found
  | clear => exact ⟨nofun, (Int.add_zero _).symm, List.nil_subset _, List.nil_sublist _⟩
  | next name =>
    rw [perform]
    split <;> exact unchanged
  | _ => exact unchanged

/-- What steps make of a queue into which some rows were written before them. -/
theorem QueueSession.hasIssued_after (h : s.queue.HasIssued issued)
    (steps : List (Instant × QueueStep)) :
    (s.after steps).queue.HasIssued (issued ++ s.issued steps) := by
  -- a step adds to what was issued before, so the rows of the past vary along with the session
  induction steps generalizing s issued with
  | nil => rwa [QueueSession.issued, List.append_nil]
  | cons timed steps ih =>
    obtain ⟨now, step⟩ := timed
    rw [QueueSession.issued, ← List.append_assoc]
    exact ih (h.extend (step.writes_perform now s))

/-- The last step is made in the state that those before it have left. -/
theorem QueueSession.after_snoc (s : QueueSession) (past : List (Instant × QueueStep))
    (now : Instant) (step : QueueStep) :
    s.after (past ++ [(now, step)]) = (step.perform now (s.after past)).2 := by
  induction past generalizing s with
  | nil => rfl
  | cons timed past ih => exact ih (timed.2.perform timed.1 s).2

end Rehearsal

/-- The rows of a queue and all those that were ever written into it are told apart by their ids,
and there are as many of the latter as the last id says. -/
structure FailureQueue.ToldApart (q : FailureQueue) (issued : List FailureRecord) : Prop where
  numbered : q.Numbered
  /-- A row is stored under its own id. -/
  own : ∀ r ∈ q.rows, (q.page (some (r.id - 1)) 1).records = [r]
  count : q.lastId = issued.length
  left : ∀ r ∈ q.rows, r ∈ issued
  single : ∀ r ∈ issued, ∀ r' ∈ issued, r.id = r'.id → r = r'

/-- A step writes these rows, and gives them ids that were never given before. -/
structure FailureQueue.GivesNewIds (q : FailureQueue) (issued written : List FailureRecord)
    (q' : FailureQueue) : Prop where
  last_le : q.lastId ≤ q'.lastId
  stored : ∀ r ∈ written, r ∈ q'.rows
  others : ∀ r ∈ q'.rows, r ∈ q.rows ∨ r ∈ written
  later : ∀ r ∈ issued, ∀ r' ∈ written, r.id < r'.id

/-- Whatever was done to a queue that was empty at first, its rows have ids of their own, also
among all rows that were ever written into it, and whatever is done next gives new ones. -/
theorem ids_never_reused (past : List (Instant × QueueStep)) (now : Instant) (step : QueueStep) :
    (QueueSession.after {} past).queue.ToldApart (QueueSession.issued {} past) ∧
      (QueueSession.after {} past).queue.GivesNewIds (QueueSession.issued {} past)
        (step.written now (QueueSession.after {} past))
        (QueueSession.after {} (past ++ [(now, step)])).queue := by
  have start : (QueueSession.queue {}).HasIssued [] := FailureQueue.hasIssued_empty
  have history := QueueSession.hasIssued_after start past
  rw [List.nil_append] at history
  rw [QueueSession.after_snoc]
  -- the past matters from here on only through the queue it left and the rows it issued
  generalize QueueSession.after {} past = s at *
  generalize QueueSession.issued {} past = issued at *
  have numbered := history.numbered
  have writes := step.writes_perform now s
  constructor
  · exact ⟨numbered, fun r => numbered.page_id, history.last, fun r => (history.left.subset ·),
      fun r member r' member' => history.eq_of_id member member'⟩
  · refine ⟨?_, fun r => (writes.stored ·), fun r member => ?_, fun r old r' new => ?_⟩
    · have last := writes.last
      omega
    · exact List.mem_append.1 (writes.left.subset member)
    · have below := (history.given r old).2
      have above := writes.lt_id r' new
      omega

end UsageBilling
