import UsageBilling.Queue

/-!
# Steps on a queue

What a rehearsal does to a failure queue directly: writing, reading, and walks
that are kept under a name while the queue is written.
-/

namespace UsageBilling.Rehearsal

open Calendar (Instant)

/-- One step on a queue. -/
inductive QueueStep where
  | seed (failures : List UsageFailure)
  | push (payload message : String)
  | clear
  | count
  | list
  | page (cursor : Option Int) (limit : Nat)
  | pages (limit : Nat)
  /-- Every row as an outstanding failure, as far as it can be read. -/
  | asFailures
  /-- Begin a walk under a name. -/
  | begin (name : String) (limit : Nat)
  /-- The next page of the walk with this name. -/
  | next (name : String)
  deriving Repr

/-- What a step on a queue returns. -/
inductive QueueValue where
  | unit (result : Except ServiceError Unit)
  | id (id : Int)
  | count (n : Nat)
  | rows (rows : List FailureRecord)
  | page (page : FailurePage)
  | pages (ids : List (List Int))
  | failures (results : List (Except Json.Fault UsageFailure))
  | begun
  | next (ids : Option (List Int))

/-- A queue with the walks that were begun on it. -/
structure QueueSession where
  queue : FailureQueue := {}
  walks : List (String × Scan) := []

/-- Do a step at the time `now` of the wall clock. -/
def QueueStep.perform (now : Instant) (s : QueueSession) : QueueStep → QueueValue × QueueSession
  | .seed failures =>
    match s.queue.seed failures with
    | .ok q => (.unit (.ok ()), { s with queue := q })
    | .error e => (.unit (.error e), s)
  | .push payload message =>
    let q := s.queue.push payload message now
    (.id q.lastId, { s with queue := q })
  | .clear => (.unit (.ok ()), { s with queue := s.queue.clear })
  | .count => (.count s.queue.count, s)
  | .list => (.rows s.queue.rows, s)
  | .page cursor limit => (.page (s.queue.page cursor limit), s)
  | .pages limit => (.pages ((s.queue.pages limit).map fun records => records.map (·.id)), s)
  | .asFailures => (.failures (s.queue.rows.map (·.toFailure now)), s)
  | .begin name limit => (.begun, { s with walks := (name, .start limit) :: s.walks })
  | .next name =>
    match s.walks.find? fun walk => walk.1 = name with
    | none => (.next none, s)
    | some (_, scan) =>
      let (scan, found) := scan.next s.queue
      (.next (found.map fun records => records.map (·.id)),
        { s with walks := (name, scan) :: s.walks })

/-- Do some steps one after another; each result with the ids in the queue after it. -/
def QueueStep.performAll (now : Instant) : QueueSession → List QueueStep →
    List (QueueValue × List Int)
  | _, [] => []
  | s, step :: steps =>
    let (value, s) := step.perform now s
    (value, s.queue.rows.map (·.id)) :: performAll now s steps

end UsageBilling.Rehearsal
