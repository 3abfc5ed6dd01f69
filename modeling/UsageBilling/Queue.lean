import UsageBilling.Error
import UsageBilling.Failure

/-!
# The failure queue

The queue holds one generation of outstanding records: seeding replaces the
whole contents, in one step or not at all. Rows are numbered in the order in
which they are stored and a number is never given twice, also across seedings
and clearings. Reading goes by pages after a cursor, and a `Scan` walks the
pages to the end.
-/

namespace UsageBilling

open Calendar (Instant)

/-- The rows of the queue, ascending by id, and the last id that was given. -/
structure FailureQueue where
  lastId : Int := 0
  rows : List FailureRecord := []
  deriving DecidableEq, Repr, Inhabited

/-- One page of the queue. -/
structure FailurePage where
  records : List FailureRecord
  /-- Where the next page starts; none at the end of the queue. -/
  next : Option Int
  deriving DecidableEq, Repr

/-- The queue cannot hold the character U+0000. -/
def ServiceError.unstorable : ServiceError :=
  ErrorKind.database.because "invalid byte sequence for encoding \"UTF8\": 0x00"

/-- The text can be stored. -/
def isStorable (s : String) : Bool :=
  !s.toList.contains (Char.ofNat 0)

namespace FailureQueue

/-- The rows of a new generation, numbered after `lastId`. -/
def stage : Int → List UsageFailure → Except ServiceError (List FailureRecord)
  | _, [] => .ok []
  | lastId, f :: failures =>
    if isStorable f.payload.toJson && isStorable f.message then do
      let rows ← stage (lastId + 1) failures
      return .ofFailure (lastId + 1) f :: rows
    else .error .unstorable

/-- Replace the contents by new failures, in order. -/
def seed (q : FailureQueue) (failures : List UsageFailure) : Except ServiceError FailureQueue := do
  let rows ← stage q.lastId failures
  return ⟨q.lastId + failures.length, rows⟩

/-- Remove every row. -/
def clear (q : FailureQueue) : FailureQueue :=
  { q with rows := [] }

/-- Append a row as it is, whether its payload can be read or not. -/
def push (q : FailureQueue) (payload message : String) (now : Instant) : FailureQueue :=
  let id := q.lastId + 1
  ⟨id, q.rows ++ [⟨id, payload, message, now, now⟩]⟩

/-- A page of at most `limit` rows; a full page may have a successor. -/
def pageOf (records : List FailureRecord) (limit : Nat) : FailurePage where
  records := records
  next := if limit ≤ records.length then records.getLast?.map (·.id) else none

/-- At most `limit` rows after the cursor, at least one allowed. -/
def page (q : FailureQueue) (cursor : Option Int) (limit : Nat) : FailurePage :=
  let limit := max limit 1
  pageOf ((q.rows.filter fun r => cursor.getD 0 < r.id).take limit) limit

/-- The number of rows. -/
def count (q : FailureQueue) : Nat :=
  q.rows.length

end FailureQueue

/-- A walk over the queue in pages of at most `limit` rows. -/
structure Scan where
  limit : Nat
  cursor : Option Int := none
  finished : Bool := false
  deriving DecidableEq, Repr

namespace Scan

/-- A walk from the first row on. -/
def start (limit : Nat) : Scan where
  limit := max limit 1

/-- The walk after a page was fetched, and the rows to hand out; none at the end. -/
def advance (s : Scan) (page : FailurePage) : Scan × Option (List FailureRecord) :=
  let s := match page.next with
    | some id => { s with cursor := some id }
    | none => { s with finished := true }
  if page.records.isEmpty then ({ s with finished := true }, none) else (s, some page.records)

/-- The next page of a walk over a queue; none once the walk has ended. -/
def next (s : Scan) (q : FailureQueue) : Scan × Option (List FailureRecord) :=
  if s.finished then (s, none) else s.advance (q.page s.cursor s.limit)

/-- The pages of a queue that nobody writes, at most `fuel` of them. -/
def drain (q : FailureQueue) : Nat → Scan → List (List FailureRecord)
  | 0, _ => []
  | fuel + 1, s =>
    match s.next q with
    | (_, none) => []
    | (s, some records) => records :: drain q fuel s

end Scan

/-- All pages of a queue that nobody writes; each has a row of its own. -/
def FailureQueue.pages (q : FailureQueue) (limit : Nat) : List (List FailureRecord) :=
  (Scan.start limit).drain q (q.rows.length + 1)

end UsageBilling
