import UsageBilling.Reconciliation

/-!
# Time stamps

The queue and a run pass time stamps on and never look at them: whatever function
is applied to all stamps of a failure, a row or a whole queue, it commutes with
what the queue and a run do. So which rows there are, under which ids, in which
pages, which of them can be read and what a human is told about them does not
depend on any stamp. The function stands for what is seen of a stamp: all of it,
or nothing.
-/

namespace UsageBilling

open Calendar (Instant Readings)

variable (see : Instant → Instant)

/-- What is seen of the readings of a clock. -/
def Calendar.Readings.seen (clock : Readings) : Readings :=
  fun k => see (clock k)

/-- The failure with what is seen of its time stamps. -/
def UsageFailure.seen (f : UsageFailure) : UsageFailure :=
  ⟨f.payload, f.message, see f.created, see f.updated⟩

/-- The row with what is seen of its time stamps. -/
def FailureRecord.seen (r : FailureRecord) : FailureRecord :=
  ⟨r.id, r.payload, r.message, see r.created, see r.updated⟩

/-- The failures with what is seen of their time stamps. -/
def seenFailures (failures : List UsageFailure) : List UsageFailure :=
  failures.map (·.seen see)

/-- The rows with what is seen of their time stamps. -/
def seenRows (rows : List FailureRecord) : List FailureRecord :=
  rows.map (·.seen see)

/-- The page with what is seen of its time stamps. -/
def FailurePage.seen (p : FailurePage) : FailurePage :=
  ⟨seenRows see p.records, p.next⟩

/-- The queue with what is seen of its time stamps. -/
def FailureQueue.seen (q : FailureQueue) : FailureQueue :=
  ⟨q.lastId, seenRows see q.rows⟩

/-! ## The queue -/

namespace FailureQueue

/-- Rows are staged under the same ids, whatever their stamps. -/
theorem stage_seen (lastId : Int) (failures : List UsageFailure) :
    stage lastId (seenFailures see failures) = (stage lastId failures).map (seenRows see) := by
  induction failures generalizing lastId with
  | nil => rfl
  | cons f failures ih =>
    show stage lastId (f.seen see :: seenFailures see failures) = _
    rw [stage, stage, ih]
    show (if isStorable f.payload.toJson && isStorable f.message then _ else _) = _
    split
    · cases stage (lastId + 1) failures <;> rfl
    · rfl

/-- The queue is filled or not, whatever the stamps. -/
theorem seed_seen (q : FailureQueue) (failures : List UsageFailure) :
    (q.seen see).seed (seenFailures see failures) = (q.seed failures).map (seen see) := by
  rw [seed, seed, seen, stage_seen]
  cases stage q.lastId failures with
  | error e => rfl
  | ok rows =>
    rw [seenFailures, List.length_map]
    rfl

theorem seed_accepts_seen (q : FailureQueue) (failures : List UsageFailure) :
    ((q.seen see).seed (seenFailures see failures)).map (fun _ => ()) =
      (q.seed failures).map fun _ => () := by
  rw [seed_seen]
  cases q.seed failures <;> rfl

/-- A row is appended, whatever its stamp. -/
theorem push_seen (q : FailureQueue) (payload message : String) (now : Instant) :
    (q.seen see).push payload message (see now) = (q.push payload message now).seen see := by
  simp [push, seen, seenRows, FailureRecord.seen]

theorem pageOf_seen (rows : List FailureRecord) (limit : Nat) :
    pageOf (seenRows see rows) limit = (pageOf rows limit).seen see := by
  simp [pageOf, FailurePage.seen, seenRows, List.getLast?_map, Function.comp_def,
    FailureRecord.seen]

/-- A page of the queue holds the same rows, whatever their stamps. -/
theorem page_seen (q : FailureQueue) (cursor : Option Int) (limit : Nat) :
    (q.seen see).page cursor limit = (q.page cursor limit).seen see := by
  rw [page, page, ← pageOf_seen]
  simp [seen, seenRows, List.filter_map, List.map_take, Function.comp_def,
    FailureRecord.seen]

end FailureQueue

/-- A walk goes on from page to page without looking at stamps. -/
theorem Scan.advance_seen (s : Scan) (page : FailurePage) :
    s.advance (page.seen see) = ((s.advance page).1, (s.advance page).2.map (seenRows see)) := by
  obtain ⟨records, next⟩ := page
  cases records <;> rfl

/-! ## Runs -/

namespace Billing

/-- Which rows can be read does not depend on their stamps. -/
theorem decodePage_seen (records : List FailureRecord) :
    decodePage (seenRows see records) =
      ((decodePage records).1, seenRows see (decodePage records).2) := by
  induction records with
  | nil => rfl
  | cons r records ih =>
    show decodePage (r.seen see :: seenRows see records) = _
    rw [decodePage, decodePage, ih]
    have same : (r.seen see).usagePayload = r.usagePayload := rfl
    rw [same]
    cases r.usagePayload <;> rfl

theorem toFailure_seen (now : Instant) (r : FailureRecord) :
    (r.seen see).toFailure (see now) = (r.toFailure now).map (UsageFailure.seen see) := by
  rw [FailureRecord.toFailure, FailureRecord.toFailure]
  show ((do return ⟨← r.usagePayload, _, _, _⟩ : Except Json.Fault UsageFailure)) = _
  cases r.usagePayload <;> rfl

/-- What is outstanding is found whatever the stamps of the rows and of the clock. -/
theorem outstanding_seen (clock : Readings) (records : List FailureRecord) :
    outstanding (clock.seen see) (seenRows see records) =
      (seenFailures see (outstanding clock records).1,
        seenRows see (outstanding clock records).2) := by
  induction records generalizing clock with
  | nil => rfl
  | cons r records ih =>
    show outstanding (clock.seen see) (r.seen see :: seenRows see records) = _
    have read : (r.seen see).toFailure (clock.seen see).first =
        (r.toFailure clock.first).map (UsageFailure.seen see) := toFailure_seen see clock.first r
    have others : outstanding (clock.seen see).later (seenRows see records) = _ := ih clock.later
    rw [outstanding, outstanding, read, ih, others]
    cases r.toFailure clock.first <;> rfl

/-- Billing windows are taken from the time of the run, not from the clock that stamps failures. -/
theorem scheduledFailures_seen (now : Instant) (clock : Readings)
    (instances : List ServiceInstance) :
    scheduledFailures now (clock.seen see) instances =
      (scheduledFailures now clock instances).map (seenFailures see) := by
  induction instances generalizing clock with
  | nil => rfl
  | cons i instances ih =>
    have others : scheduledFailures now (clock.seen see).later instances = _ := ih clock.later
    rw [scheduledFailures, scheduledFailures, others]
    cases usagePayload i .scheduled now with
    | error reason => rfl
    | ok payload => cases scheduledFailures now clock.later instances <;> rfl

end Billing

/-! ## Summaries -/

namespace Summary

theorem ofFailures_seen (product : String) (failures : List UsageFailure) :
    ofFailures product (seenFailures see failures) = ofFailures product failures := by
  simp [ofFailures, seenFailures, Function.comp_def, UsageFailure.seen]

theorem ofUndecodable_seen (product : String) (records : List FailureRecord) :
    ofUndecodable product (seenRows see records) = ofUndecodable product records := by
  rw [ofUndecodable, ofUndecodable, seenRows, List.map_map, List.length_map]
  rfl

end Summary

end UsageBilling
