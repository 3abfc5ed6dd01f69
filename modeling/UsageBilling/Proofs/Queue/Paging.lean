import UsageBilling.Proofs.Queue.Numbering

/-!
# Paging

A walk that has handed out the first rows of a queue fetches the rows that
follow them: ids ascend, so the rows after the cursor are the rows not yet
handed out. The pages of a whole walk are the rows cut into batches.
-/

namespace UsageBilling

/-! ## Batches -/

/-- A list cut into consecutive pieces of `limit` items, the last one possibly shorter; a limit
of 0 counts as 1. -/
def inBatches {α : Type} (limit : Nat) : List α → List (List α)
  | [] => []
  | x :: xs => (x :: xs.take (limit - 1)) :: inBatches limit (xs.drop (limit - 1))
termination_by xs => xs.length

section Batches

variable {α β : Type} {limit : Nat} {xs : List α}

@[simp] theorem inBatches_nil : inBatches limit ([] : List α) = [] := by
  rw [inBatches]

/-- The first batch is cut off, and the rest is divided in turn. -/
theorem inBatches_of_ne_nil (h : xs ≠ []) :
    inBatches limit xs = xs.take (max limit 1) :: inBatches limit (xs.drop (max limit 1)) := by
  obtain ⟨x, xs, rfl⟩ := List.exists_cons_of_ne_nil h
  have size : max limit 1 = limit - 1 + 1 := by omega
  rw [inBatches, size, List.take_succ_cons, List.drop_succ_cons]

/-- Cutting off one batch after another, as a principle of induction. -/
theorem batchInduction {P : List α → Prop} (limit : Nat) (nil : P [])
    (batch : ∀ xs, xs ≠ [] → P (xs.drop (max limit 1)) → P xs) (xs : List α) : P xs := by
  by_cases h : xs = []
  · exact h ▸ nil
  · exact batch xs h (batchInduction limit nil batch _)
termination_by xs.length
decreasing_by
  have := List.length_pos_iff.2 h
  rw [List.length_drop]
  omega

/-- The batches are the whole list. -/
theorem flatten_inBatches (limit : Nat) (xs : List α) : (inBatches limit xs).flatten = xs := by
  induction xs using batchInduction limit with
  | nil => simp
  | batch xs h ih => rw [inBatches_of_ne_nil h, List.flatten_cons, ih, List.take_append_drop]

theorem inBatches_map (limit : Nat) (f : α → β) (xs : List α) :
    inBatches limit (xs.map f) = (inBatches limit xs).map (List.map f) := by
  induction xs using batchInduction limit with
  | nil => simp
  | batch xs h ih =>
    rw [inBatches_of_ne_nil h, inBatches_of_ne_nil (by simpa using h), ← List.map_drop, ih,
      List.map_cons, List.map_take]

theorem inBatches_max_one (limit : Nat) (xs : List α) :
    inBatches (max limit 1) xs = inBatches limit xs := by
  induction xs using batchInduction limit with
  | nil => simp
  | batch xs h ih => rw [inBatches_of_ne_nil h, inBatches_of_ne_nil h, ← ih, Nat.max_eq_left (by omega)]

/-- No batch is empty. -/
theorem ne_nil_of_mem_inBatches {batch : List α} (member : batch ∈ inBatches limit xs) :
    batch ≠ [] := by
  induction xs using batchInduction limit with
  | nil => simp at member
  | batch xs h ih =>
    rw [inBatches_of_ne_nil h] at member
    rcases List.mem_cons.1 member with rfl | member
    · simp only [ne_eq, List.take_eq_nil_iff, h, or_false]
      omega
    · exact ih member

end Batches

/-! ## Pages -/

/-- The cursor of a walk that has handed out these rows. -/
def cursorAfter (fetched : List FailureRecord) : Option Int :=
  fetched.getLast?.map (·.id)

namespace FailureQueue

variable {q : FailureQueue} {fetched rest : List FailureRecord}

/-- The rows after the cursor are those not yet handed out. -/
theorem Numbered.filter_cursorAfter (h : q.Numbered) (split : q.rows = fetched ++ rest) :
    q.rows.filter (fun r => (cursorAfter fetched).getD 0 < r.id) = rest := by
  have ascending := h.ascending
  rw [split, List.pairwise_append] at ascending
  obtain ⟨-, -, apart⟩ := ascending
  have later : ∀ r ∈ rest, (cursorAfter fetched).getD 0 < r.id := by
    intro r member
    cases last : fetched.getLast? with
    | none =>
      have positive := (h.given r (split ▸ List.mem_append_right _ member)).1
      simpa [cursorAfter, last] using positive
    | some l =>
      have := apart l (List.mem_of_getLast? last) r member
      simpa [cursorAfter, last] using this
  have earlier : ∀ r ∈ fetched, ¬ (cursorAfter fetched).getD 0 < r.id := by
    intro r member
    obtain ⟨front, l, rfl⟩ := List.eq_nil_or_concat fetched |>.resolve_left (by rintro rfl; cases member)
    have bound : r.id ≤ l.id := by
      have ascending := h.ascending
      rw [split, List.pairwise_append, List.concat_eq_append, List.pairwise_append] at ascending
      rcases List.mem_append.1 (List.concat_eq_append ▸ member) with member | member
      · exact Int.le_of_lt (ascending.1.2.2 r member l (by simp))
      · obtain rfl := List.mem_singleton.1 member
        exact Int.le_refl _
    simp only [cursorAfter, List.concat_eq_append, List.getLast?_concat, Option.map_some,
      Option.getD_some]
    omega
  rw [split, List.filter_append, List.filter_eq_nil_iff.2 (by simpa using earlier),
    List.filter_eq_self.2 (by simpa using later), List.nil_append]

/-- The page after some rows is the next batch. -/
theorem Numbered.page_cursorAfter (h : q.Numbered) (split : q.rows = fetched ++ rest)
    (limit : Nat) :
    q.page (cursorAfter fetched) limit = pageOf (rest.take (max limit 1)) (max limit 1) := by
  rw [page, h.filter_cursorAfter split]

/-- A full page leads on to the rows behind it. -/
theorem pageOf_next_full (fetched : List FailureRecord) {limit : Nat} (positive : 0 < limit)
    (full : limit ≤ rest.length) :
    (pageOf (rest.take limit) limit).next = cursorAfter (fetched ++ rest.take limit) := by
  have size : (rest.take limit).length = limit := List.length_take_of_le full
  have some_left : rest.take limit ≠ [] := by
    rw [← List.length_pos_iff, size]
    exact positive
  rw [pageOf, if_pos (Nat.le_of_eq size.symm), cursorAfter, List.getLast?_append_of_ne_nil _ some_left]

/-- A page that is not full is the last one. -/
theorem pageOf_next_short {limit : Nat} (short : rest.length < limit) :
    (pageOf (rest.take limit) limit).next = none := by
  have size : (rest.take limit).length < limit := by
    rw [List.length_take]
    omega
  rw [pageOf, if_neg (by omega)]

end FailureQueue

/-! ## Walks -/

/-- A walk with this page size that has handed out the first of these rows, and has the second
ones ahead. -/
structure Scan.Stands (s : Scan) (limit : Nat) (fetched rest : List FailureRecord) : Prop where
  limit : s.limit = limit
  cursor : s.finished = false → s.cursor = cursorAfter fetched
  finished : s.finished = true → rest = []

theorem Scan.start_stands (limit : Nat) (rows : List FailureRecord) :
    (start limit).Stands (max limit 1) [] rows :=
  ⟨rfl, fun _ => rfl, nofun⟩

namespace Scan

variable {s : Scan} {page : FailurePage} {limit : Nat} {fetched rest : List FailureRecord}

/-- A scan hands out no empty page. -/
theorem advance_of_empty (h : page.records = []) : (s.advance page).2 = none := by
  simp [advance, h]

/-- Behind a full page the scan goes on. -/
theorem advance_of_full {id : Int} (some_left : page.records ≠ []) (next : page.next = some id) :
    s.advance page = ({ s with cursor := some id }, some page.records) := by
  simp [advance, some_left, next]

/-- Behind a page that is not full the scan is over. -/
theorem advance_of_last (some_left : page.records ≠ []) (next : page.next = none) :
    s.advance page = ({ s with finished := true }, some page.records) := by
  simp [advance, some_left, next]

/-- A walk hands out the next batch and goes on behind it. -/
theorem Stands.advance (h : s.Stands limit fetched rest) (positive : 0 < limit)
    (unfinished : s.finished = false) (some_left : rest ≠ []) :
    ∃ s', s.advance (FailureQueue.pageOf (rest.take limit) limit) = (s', some (rest.take limit)) ∧
      s'.Stands limit (fetched ++ rest.take limit) (rest.drop limit) := by
  have records : (FailureQueue.pageOf (rest.take limit) limit).records ≠ [] := by
    show rest.take limit ≠ []
    rw [ne_eq, List.take_eq_nil_iff, not_or]
    exact ⟨by omega, some_left⟩
  by_cases full : limit ≤ rest.length
  · have next := FailureQueue.pageOf_next_full fetched positive full
    cases cursor : cursorAfter (fetched ++ rest.take limit) with
    | none =>
      rw [cursorAfter, Option.map_eq_none_iff, List.getLast?_eq_none_iff, List.append_eq_nil_iff]
        at cursor
      exact absurd cursor.2 records
    | some id =>
      rw [cursor] at next
      refine ⟨_, advance_of_full records next, h.limit, fun _ => cursor.symm, fun finished => ?_⟩
      rw [show s.finished = true from finished] at unfinished
      cases unfinished
  · have next := FailureQueue.pageOf_next_short (by omega : rest.length < limit)
    exact ⟨_, advance_of_last records next, h.limit, nofun, fun _ => List.drop_of_length_le (by omega)⟩

end Scan

end UsageBilling
