import UsageBilling.Proofs.Queue.Paging

/-!
# Walks over a queue that is written

A walk fetches one page at a time, and between two fetches the queue may be
written in any way. Ids ascend and are never given twice, so the cursor splits
the rows of every state of the queue: what was handed out has an id up to the
cursor, what is still ahead has one above it. A walk therefore hands out no row
twice, and a row that stays in the queue from its first fetch to its last one
is not left out.
-/

namespace UsageBilling

open Calendar (Instant)

/-! ## A walk and the writes between its fetches -/

/-- A write to the queue. -/
inductive QueueWrite where
  | seed (failures : List UsageFailure)
  | clear
  | push (payload message : String) (now : Instant)
  deriving DecidableEq, Repr

/-- The queue after a write; one that is refused leaves it as it was. -/
def FailureQueue.write (q : FailureQueue) : QueueWrite → FailureQueue
  | .seed failures => (q.seed failures).toOption.getD q
  | .clear => q.clear
  | .push payload message now => q.push payload message now

/-- What happens next to a queue and a walk over it. -/
inductive WalkStep where
  /-- The walk is asked for its next page. -/
  | next
  | write (write : QueueWrite)
  deriving DecidableEq, Repr

/-- A walk was asked for its next page. -/
structure Turn where
  queue : FailureQueue
  /-- The walk had not ended before, so that it fetched a page of the queue. -/
  fetched : Bool
  handed : Option (List FailureRecord)
  deriving DecidableEq, Repr

/-- The turns of a walk while the queue is written. -/
def Scan.turns (s : Scan) (q : FailureQueue) : List WalkStep → List Turn
  | [] => []
  | .next :: steps => ⟨q, !s.finished, (s.next q).2⟩ :: (s.next q).1.turns q steps
  | .write w :: steps => s.turns (q.write w) steps

/-- All rows that are handed out, in order. -/
def handedOut (turns : List Turn) : List FailureRecord :=
  turns.flatMap fun turn => turn.handed.getD []

/-- The last id behind a walk. -/
def Scan.position (s : Scan) : Int :=
  s.cursor.getD 0

/-- What a walk in pages of at most `limit` rows hands out, the queue being written in between. -/
structure WalksInOrder (limit : Nat) (turns : List Turn) : Prop where
  ascending : (handedOut turns).Pairwise (·.id < ·.id)
  /-- Every page has a row, is not too long, and holds rows that are in the queue. -/
  pages : ∀ turn ∈ turns, ∀ page, turn.handed = some page →
    page ≠ [] ∧ page.length ≤ max limit 1 ∧ ∀ r ∈ page, r ∈ turn.queue.rows
  /-- A walk that has come to its end leaves out no row that was there at each fetch. -/
  complete : (∃ turn ∈ turns, turn.handed = none) → ∀ r,
    (∀ turn ∈ turns, turn.fetched = true → r ∈ turn.queue.rows) → (handedOut turns).count r = 1
  /-- A walk that has come to its end stays there. -/
  ended : turns.Pairwise fun turn later => turn.handed = none → later.handed = none

/-- Rows stay numbered through every write. -/
theorem FailureQueue.Numbered.write {q : FailureQueue} (h : q.Numbered) (w : QueueWrite) :
    (q.write w).Numbered := by
  cases w with
  | seed failures =>
    show ((q.seed failures).toOption.getD q).Numbered
    cases stored : q.seed failures with
    | error e => exact h
    | ok q' => exact h.seed stored
  | clear => exact h.clear
  | push payload message now => exact h.push payload message now

/-! ## One fetch -/

/-- A page that a walk may hand out from these rows: some of those ahead of it. -/
structure Scan.Hands (s : Scan) (rows page : List FailureRecord) : Prop where
  some_left : page ≠ []
  size : page.length ≤ s.limit
  part : page.Sublist rows
  ahead : ∀ r ∈ page, s.position < r.id

/-- What an unfinished walk makes of the rows of a queue: the walk after it, and the page. -/
inductive Scan.Fetches (s : Scan) (rows : List FailureRecord) :
    Scan × Option (List FailureRecord) → Prop where
  /-- No row is ahead. -/
  | nothing (behind : ∀ r ∈ rows, r.id ≤ s.position) :
      s.Fetches rows ({ s with finished := true }, none)
  /-- The page holds all rows ahead, and it is not full. -/
  | last {page : List FailureRecord} (hands : s.Hands rows page)
      (all : ∀ r ∈ rows, s.position < r.id → r ∈ page) :
      s.Fetches rows ({ s with finished := true }, some page)
  /-- The page is full, and the walk goes on behind it. -/
  | further {page : List FailureRecord} {id : Int} (hands : s.Hands rows page)
      (behind : ∀ r ∈ page, r.id ≤ id)
      (ahead : ∀ r ∈ rows, s.position < r.id → r ∈ page ∨ id < r.id) :
      s.Fetches rows ({ s with cursor := some id }, some page)

/-- Rows in the order of their ids end with the greatest one. -/
theorem id_le_of_getLast? {page : List FailureRecord} {last : FailureRecord}
    (ascending : page.Pairwise (·.id < ·.id)) (ends : page.getLast? = some last) :
    ∀ r ∈ page, r.id ≤ last.id := by
  obtain ⟨front, rfl⟩ := List.getLast?_eq_some_iff.1 ends
  intro r member
  rcases List.mem_append.1 member with earlier | same
  · exact Int.le_of_lt ((List.pairwise_append.1 ascending).2.2 r earlier last (by simp))
  · exact Int.le_of_eq (congrArg (·.id) (List.mem_singleton.1 same))

/-- The rows behind a batch have greater ids than the last row of the batch. -/
theorem id_lt_of_getLast? {rows : List FailureRecord} {limit : Nat} {last r : FailureRecord}
    (ascending : rows.Pairwise (·.id < ·.id)) (ends : (rows.take limit).getLast? = some last)
    (member : r ∈ rows) : r ∈ rows.take limit ∨ last.id < r.id := by
  rw [← List.take_append_drop limit rows] at ascending member
  rcases List.mem_append.1 member with inside | later
  · exact .inl inside
  · exact .inr ((List.pairwise_append.1 ascending).2.2 last (List.mem_of_getLast? ends) r later)

/-- A walk ends where no row is ahead. -/
theorem Scan.advance_nothing {s : Scan} {limit : Nat} (positive : 0 < limit) :
    s.advance (FailureQueue.pageOf [] limit) = ({ s with finished := true }, none) := by
  have short : ¬ limit ≤ 0 := by omega
  simp [advance, FailureQueue.pageOf, short]

/-- An unfinished walk fetches the next rows ahead of it, or ends. -/
theorem FailureQueue.Numbered.fetches {q : FailureQueue} {s : Scan} (numbered : q.Numbered)
    (positive : 0 < s.limit) (unfinished : s.finished = false) : s.Fetches q.rows (s.next q) := by
  let rest := q.rows.filter fun r => s.position < r.id
  have mem_rest (r : FailureRecord) : r ∈ rest ↔ r ∈ q.rows ∧ s.position < r.id := by
    simp [rest, List.mem_filter]
  have ascending : rest.Pairwise (·.id < ·.id) := numbered.ascending.filter _
  have fetched : s.next q = s.advance (pageOf (rest.take s.limit) s.limit) := by
    rw [Scan.next, unfinished, if_neg (by decide), page, Nat.max_eq_left positive]
    rfl
  rw [fetched]
  by_cases left : rest = []
  · rw [left, List.take_nil, Scan.advance_nothing positive]
    refine .nothing fun r member => ?_
    by_contra above
    have inside : r ∈ rest := (mem_rest r).2 ⟨member, by omega⟩
    rw [left] at inside
    cases inside
  have some_left : rest.take s.limit ≠ [] := by
    rw [ne_eq, List.take_eq_nil_iff, not_or]
    exact ⟨by omega, left⟩
  have hands : s.Hands q.rows (rest.take s.limit) :=
    { some_left
      size := List.length_take_le _ _
      part := (List.take_sublist _ _).trans List.filter_sublist
      ahead := fun r member => ((mem_rest r).1 (List.mem_of_mem_take member)).2 }
  by_cases full : s.limit ≤ rest.length
  · obtain ⟨last, ends⟩ := List.getLast?_isSome.2 some_left |> Option.isSome_iff_exists.1
    have next : (pageOf (rest.take s.limit) s.limit).next = some last.id := by
      rw [pageOf, if_pos (Nat.le_of_eq (List.length_take_of_le full).symm), ends]
      rfl
    rw [Scan.advance_of_full some_left next]
    refine .further hands (id_le_of_getLast? (ascending.sublist (List.take_sublist _ _)) ends) ?_
    exact fun r member above => id_lt_of_getLast? ascending ends ((mem_rest r).2 ⟨member, above⟩)
  · have short : rest.length < s.limit := by omega
    rw [Scan.advance_of_last some_left (pageOf_next_short short)]
    refine .last hands fun r member above => ?_
    show r ∈ rest.take s.limit
    rw [List.take_of_length_le (by omega)]
    exact (mem_rest r).2 ⟨member, above⟩

/-! ## All turns -/

section Turns

variable {s s' : Scan} {q : FailureQueue} {turn : Turn} {rest : List Turn} {steps : List WalkStep}

theorem handedOut_cons : handedOut (turn :: rest) = turn.handed.getD [] ++ handedOut rest :=
  List.flatMap_cons

theorem handedOut_of_none (nothing : ∀ turn ∈ rest, turn.handed = none) : handedOut rest = [] :=
  List.flatMap_eq_nil_iff.2 fun turn member => by rw [nothing turn member, Option.getD_none]

/-- A walk that has ended hands out nothing, whatever is written. -/
theorem Scan.turns_of_finished (finished : s.finished = true) :
    ∀ turn ∈ s.turns q steps, turn.handed = none := by
  induction steps generalizing q with
  | nil => exact List.forall_mem_nil _
  | cons step steps ih =>
    cases step with
    | next =>
      have stays : s.next q = (s, none) := by rw [Scan.next, finished, if_pos rfl]
      rw [Scan.turns, stays]
      exact List.forall_mem_cons.2 ⟨rfl, ih⟩
    | write w => exact ih

/-- At every turn of a walk the rows are numbered. -/
theorem FailureQueue.Numbered.of_turn (numbered : q.Numbered) :
    ∀ turn ∈ s.turns q steps, turn.queue.Numbered := by
  induction steps generalizing s q with
  | nil => exact List.forall_mem_nil _
  | cons step steps ih =>
    cases step with
    | next => exact List.forall_mem_cons.2 ⟨numbered, ih numbered⟩
    | write w => exact ih (numbered.write w)

/-- The first turn of a walk that has not ended fetches a page. -/
theorem Scan.exists_fetched (unfinished : s.finished = false) (some_turn : s.turns q steps ≠ []) :
    ∃ turn ∈ s.turns q steps, turn.fetched = true := by
  induction steps generalizing q with
  | nil => exact absurd rfl some_turn
  | cons step steps ih =>
    cases step with
    | next => exact ⟨_, List.mem_cons_self, by simp [unfinished]⟩
    | write w => exact ih some_turn

/-- Rows in the order of their ids are all different. -/
theorem count_of_ascending {rows : List FailureRecord} {r : FailureRecord}
    (ascending : rows.Pairwise (·.id < ·.id)) (member : r ∈ rows) : rows.count r = 1 := by
  have distinct : rows.Nodup := ascending.imp fun {a b} below same => by
    rw [same] at below
    omega
  rw [distinct.count, if_pos member]

/-- What a walk hands out from here on, the queue being written in between. -/
structure Scan.GoesOn (s : Scan) (rest : List Turn) : Prop where
  ascending : (handedOut rest).Pairwise (·.id < ·.id)
  ahead : ∀ r ∈ handedOut rest, s.position < r.id
  pages : ∀ turn ∈ rest, ∀ page, turn.handed = some page →
    page ≠ [] ∧ page.length ≤ s.limit ∧ ∀ r ∈ page, r ∈ turn.queue.rows
  complete : s.finished = false → (∃ turn ∈ rest, turn.handed = none) → ∀ r, s.position < r.id →
    (∀ turn ∈ rest, turn.fetched = true → r ∈ turn.queue.rows) → (handedOut rest).count r = 1
  ended : rest.Pairwise fun turn later => turn.handed = none → later.handed = none

/-- A walk that is over hands out nothing more. -/
theorem Scan.GoesOn.of_none (nothing : ∀ turn ∈ rest, turn.handed = none)
    (at_end : s.finished = false → rest ≠ [] → ∃ turn ∈ rest, turn.fetched = true ∧
      ∀ r ∈ turn.queue.rows, r.id ≤ s.position) : s.GoesOn rest where
  ascending := by
    rw [handedOut_of_none nothing]
    exact .nil
  ahead := by
    rw [handedOut_of_none nothing]
    exact List.forall_mem_nil _
  pages turn member page handed := by
    rw [nothing turn member] at handed
    cases handed
  complete unfinished some_end r above present := by
    obtain ⟨last, inside, -⟩ := some_end
    obtain ⟨turn, member, fetched, behind⟩ := at_end unfinished (List.ne_nil_of_mem inside)
    have here := behind r (present turn member fetched)
    omega
  ended := List.pairwise_iff_forall_sublist.2 fun {_ later} both _ =>
    nothing later (both.subset (by simp))

/-- A walk hands out a page and goes on from `s'`, which has the other rows ahead. -/
theorem Scan.GoesOn.page {page : List FailureRecord} (numbered : q.Numbered)
    (hands : s.Hands q.rows page) (goes_on : s'.GoesOn rest) (limit : s'.limit = s.limit)
    (apart : ∀ r ∈ page, ∀ r' ∈ handedOut rest, r.id < r'.id)
    (others : ∀ r ∈ q.rows, s.position < r.id → r ∈ page ∨ s'.finished = false ∧ s'.position < r.id) :
    s.GoesOn (⟨q, true, some page⟩ :: rest) := by
  have handed : handedOut (⟨q, true, some page⟩ :: rest) = page ++ handedOut rest := handedOut_cons
  have ascending : (page ++ handedOut rest).Pairwise (·.id < ·.id) :=
    List.pairwise_append.2 ⟨numbered.ascending.sublist hands.part, goes_on.ascending, apart⟩
  refine ⟨handed ▸ ascending, ?_, ?_, ?_, List.pairwise_cons.2 ⟨fun _ _ => nofun, goes_on.ended⟩⟩
  · rw [handed]
    refine List.forall_mem_append.2 ⟨hands.ahead, fun r later => ?_⟩
    obtain ⟨first, inside⟩ := List.exists_mem_of_ne_nil page hands.some_left
    exact Int.lt_trans (hands.ahead first inside) (apart first inside r later)
  · refine List.forall_mem_cons.2 ⟨?_, limit ▸ goes_on.pages⟩
    rintro _ ⟨⟩
    exact ⟨hands.some_left, hands.size, fun r member => hands.part.subset member⟩
  · rintro - ⟨turn, member, ended⟩ r above present
    obtain ⟨here, later⟩ := List.forall_mem_cons.1 present
    rw [handed]
    by_cases inside : r ∈ page
    · exact count_of_ascending ascending (List.mem_append_left _ inside)
    · obtain ⟨unfinished, above'⟩ := (others r (here rfl) above).resolve_left inside
      have at_end : turn ∈ rest := by
        rcases List.mem_cons.1 member with rfl | at_end
        · cases ended
        · exact at_end
      rw [List.count_append, List.count_eq_zero_of_not_mem inside, Nat.zero_add]
      exact goes_on.complete unfinished ⟨turn, at_end, ended⟩ r above' later

theorem Scan.Fetches.limit_eq {found : Scan × Option (List FailureRecord)} {rows : List FailureRecord}
    (fetches : s.Fetches rows found) : found.1.limit = s.limit := by
  cases fetches <;> rfl

/-- A walk that has not ended goes on as one fetch leaves it. -/
theorem Scan.Fetches.goesOn {handed : Option (List FailureRecord)} (numbered : q.Numbered)
    (unfinished : s.finished = false) (fetches : s.Fetches q.rows (s', handed))
    (goes_on : s'.GoesOn rest) (at_end : s'.finished = true → ∀ turn ∈ rest, turn.handed = none) :
    s.GoesOn (⟨q, true, handed⟩ :: rest) := by
  cases fetches with
  | nothing behind =>
    refine .of_none (List.forall_mem_cons.2 ⟨rfl, at_end rfl⟩) fun _ _ => ?_
    exact ⟨_, List.mem_cons_self, rfl, behind⟩
  | last hands all =>
    refine .page numbered hands goes_on rfl ?_ fun r member above => .inl (all r member above)
    rw [handedOut_of_none (at_end rfl)]
    exact fun _ _ => List.forall_mem_nil _
  | further hands behind ahead =>
    refine .page numbered hands goes_on rfl ?_ fun r member above => ?_
    · intro r inside r' later
      exact Int.lt_of_le_of_lt (behind r inside) (goes_on.ahead r' later)
    · exact (ahead r member above).imp_right fun above' => ⟨unfinished, above'⟩

/-- The cursor carries a walk through all writes: rows behind it are not handed out again, and
rows ahead of it are not passed over. -/
theorem Scan.goesOn (numbered : q.Numbered) (positive : 0 < s.limit) :
    s.GoesOn (s.turns q steps) := by
  induction steps generalizing s q with
  | nil => exact .of_none (List.forall_mem_nil _) fun _ some_turn => absurd rfl some_turn
  | cons step steps ih =>
    cases step with
    | write w => exact ih (numbered.write w) positive
    | next =>
      cases finished : s.finished with
      | true =>
        refine .of_none (Scan.turns_of_finished finished) fun unfinished => ?_
        rw [finished] at unfinished
        cases unfinished
      | false =>
        have fetches := numbered.fetches positive finished
        have limit := fetches.limit_eq
        rw [Scan.turns, finished]
        exact fetches.goesOn numbered finished
          (ih numbered (Nat.lt_of_lt_of_eq positive limit.symm)) Scan.turns_of_finished

/-- A walk over a queue that nobody writes hands out the batches of the rows ahead of it, one at a
time, and then nothing more. -/
theorem Scan.Stands.turns {limit : Nat} {fetched ahead : List FailureRecord}
    (stands : s.Stands limit fetched ahead) (numbered : q.Numbered)
    (split : q.rows = fetched ++ ahead) (positive : 0 < limit) (n : Nat) :
    (s.turns q (List.replicate n .next)).map (·.handed) =
      (List.range n).map fun i => (inBatches limit ahead)[i]? := by
  induction n generalizing s fetched ahead with
  | zero => rfl
  | succ n ih =>
    rw [List.replicate_succ, Scan.turns, List.map_cons, List.range_succ_eq_map, List.map_cons,
      List.map_map]
    cases finished : s.finished with
    | true =>
      have stays : s.next q = (s, none) := by rw [Scan.next, finished, if_pos rfl]
      have at_end := stands.finished finished
      have later := ih stands split
      rw [at_end, inBatches_nil] at later ⊢
      rw [stays, later]
      rfl
    | false =>
      have fetched_page : s.next q = s.advance (FailureQueue.pageOf (ahead.take limit) limit) := by
        rw [Scan.next, finished, if_neg (by decide), stands.cursor finished, stands.limit,
          numbered.page_cursorAfter split, Nat.max_eq_left positive]
      by_cases left : ahead = []
      · have later := ih (s := { s with finished := true }) ⟨stands.limit, nofun, fun _ => left⟩ split
        rw [fetched_page, left, List.take_nil, Scan.advance_nothing positive, later, left, inBatches_nil]
        rfl
      · obtain ⟨s', advanced, stands'⟩ := stands.advance positive finished left
        have later := ih stands' (by rw [split, List.append_assoc, List.take_append_drop])
        rw [fetched_page, advanced, later, inBatches_of_ne_nil left, Nat.max_eq_left positive]
        rfl

end Turns

/-! ## Nothing is lost, nothing repeated -/

/-- However a queue is written between the fetches of a walk, the walk goes through it in order;
where it is not written, the walk ends and has handed out the rows in batches. -/
theorem walk_loses_and_repeats_nothing {q : FailureQueue} (reachable : q.Reachable) (limit : Nat) :
    (∀ steps, WalksInOrder limit ((Scan.start limit).turns q steps)) ∧
      ∀ n, ((Scan.start limit).turns q (List.replicate n .next)).map (·.handed) =
        (List.range n).map fun i => (inBatches (max limit 1) q.rows)[i]? := by
  have numbered := reachable.numbered
  have positive : 0 < max limit 1 := by omega
  refine ⟨fun steps => ?_, fun n => ?_⟩
  · have goes_on : (Scan.start limit).GoesOn ((Scan.start limit).turns q steps) :=
      Scan.goesOn numbered positive
    refine ⟨goes_on.ascending, goes_on.pages, fun some_end r present => ?_, goes_on.ended⟩
    have ⟨_, inside, _⟩ := some_end
    obtain ⟨turn, member, fetched⟩ := Scan.exists_fetched rfl (List.ne_nil_of_mem inside)
    have given := (numbered.of_turn turn member).given r (present turn member fetched)
    exact goes_on.complete rfl some_end r given.1 present
  · exact (Scan.start_stands limit q.rows).turns numbered rfl positive n

/-! ## A walk over two generations -/

namespace Overtaken

/-- A queue with two rows. -/
def queue : FailureQueue :=
  (({} : FailureQueue).push "a" "" ⟨0, 0⟩).push "b" "" ⟨0, 0⟩

/-- After the first page, the queue is cleared and two rows are appended. -/
def steps : List WalkStep :=
  [.next, .write .clear, .write (.push "c" "" ⟨0, 0⟩), .write (.push "d" "" ⟨0, 0⟩), .next, .next, .next]

/-- The second row is gone before its page is fetched; the two later ones come in time. -/
theorem overtaken_in_order :
    queue.Reachable ∧ WalksInOrder 0 ((Scan.start 0).turns queue steps) ∧
      (handedOut ((Scan.start 0).turns queue steps)).map (·.id) = [1, 3, 4] ∧
      ((Scan.start 0).turns queue [.next, .next, .next]).map (·.handed) =
        (List.range 3).map fun i => (inBatches 1 queue.rows)[i]? := by
  have reachable : queue.Reachable := (FailureQueue.Reachable.empty.push _ _ _).push _ _ _
  obtain ⟨in_order, batches⟩ := walk_loses_and_repeats_nothing reachable 0
  exact ⟨reachable, in_order steps, by decide, batches 3⟩

end Overtaken

end UsageBilling
