import UsageBilling.Proofs.Chronicle
import UsageBilling.Proofs.Queue.Paging

/-!
# The course of a pass

A pass goes over the rows of the queue batch by batch. The usage records of a
batch that can be read are submitted together; rows that cannot be read are
counted and collected. It ends behind the last row, or with the first error.
-/

namespace UsageBilling

open Calendar (Readings)

/-! ## Reading rows -/

/-- The usage records of the rows that can be read, in order. -/
def payloadsOf (rows : List FailureRecord) : List UsagePayload :=
  rows.filterMap (·.usagePayload.toOption)

/-- The rows that cannot be read, in order. -/
def undecodableOf (rows : List FailureRecord) : List FailureRecord :=
  rows.filter fun r => r.usagePayload.toOption.isNone

/-- The rows that can be read, as failures to store anew; the clock is read for each of them. -/
def outstandingOf (clock : Readings) : List FailureRecord → List UsageFailure
  | [] => []
  | r :: rows =>
    match r.usagePayload with
    | .ok p => ⟨p, r.message, r.created, clock.first⟩ :: outstandingOf clock.later rows
    | .error _ => outstandingOf clock rows

namespace Billing

/-- A page is divided into the usage records that can be read and the rows that cannot. -/
theorem decodePage_eq (rows : List FailureRecord) :
    decodePage rows = (payloadsOf rows, undecodableOf rows) := by
  induction rows with
  | nil => rfl
  | cons r rows ih =>
    unfold decodePage
    rw [ih]
    cases read : r.usagePayload <;> simp [payloadsOf, undecodableOf, read, Except.toOption]

/-- The rows are divided into failures to store anew and those that cannot be read. -/
theorem outstanding_eq (clock : Readings) (rows : List FailureRecord) :
    outstanding clock rows = (outstandingOf clock rows, undecodableOf rows) := by
  induction rows generalizing clock with
  | nil => rfl
  | cons r rows ih =>
    unfold outstanding
    rw [ih, ih]
    cases read : r.usagePayload <;>
      simp [FailureRecord.toFailure, outstandingOf, undecodableOf, read, Except.toOption, bind,
        Except.bind, pure, Except.pure]

end Billing

section Reading

variable {rows : List FailureRecord}

theorem mem_payloadsOf {p : UsagePayload} : p ∈ payloadsOf rows ↔ ∃ r ∈ rows, r.usagePayload = .ok p := by
  rw [payloadsOf, List.mem_filterMap]
  refine exists_congr fun r => and_congr_right fun _ => ?_
  cases r.usagePayload <;> simp [Except.toOption]

theorem mem_undecodableOf {r : FailureRecord} :
    r ∈ undecodableOf rows ↔ r ∈ rows ∧ ∃ fault, r.usagePayload = .error fault := by
  rw [undecodableOf, List.mem_filter]
  refine and_congr_right fun _ => ?_
  cases r.usagePayload <;> simp [Except.toOption]

/-- A row that cannot be read is passed over, and the clock is not read for it. -/
theorem outstandingOf_cons_error {r : FailureRecord} {fault : Json.Fault} (clock : Readings)
    (unread : r.usagePayload = .error fault) (rows : List FailureRecord) :
    outstandingOf clock (r :: rows) = outstandingOf clock rows := by
  rw [outstandingOf, unread]

/-- A row that can be read keeps its message and the time of its creation. -/
theorem outstandingOf_cons_ok {r : FailureRecord} {p : UsagePayload} (clock : Readings)
    (read : r.usagePayload = .ok p) (rows : List FailureRecord) : outstandingOf clock (r :: rows) =
      ⟨p, r.message, r.created, clock.first⟩ :: outstandingOf clock.later rows := by
  rw [outstandingOf, read]

/-- A row that can be read is outstanding, updated at one of the readings. -/
theorem exists_mem_outstandingOf {r : FailureRecord} {p : UsagePayload} (clock : Readings)
    (member : r ∈ rows) (read : r.usagePayload = .ok p) :
    ∃ stamp, ⟨p, r.message, r.created, stamp⟩ ∈ outstandingOf clock rows := by
  induction rows generalizing clock with
  | nil => cases member
  | cons s rows ih =>
    rcases List.mem_cons.1 member with rfl | member
    · rw [outstandingOf_cons_ok clock read]
      exact ⟨clock.first, List.mem_cons_self⟩
    cases other : s.usagePayload with
    | error fault =>
      rw [outstandingOf_cons_error clock other]
      exact ih clock member
    | ok q =>
      obtain ⟨stamp, inside⟩ := ih clock.later member
      rw [outstandingOf_cons_ok clock other]
      exact ⟨stamp, List.mem_cons_of_mem _ inside⟩

/-- Where every row can be read, so can the rows of every batch. -/
theorem payloadsOf_inBatches (limit : Nat) (readable : undecodableOf rows = []) :
    (inBatches limit rows).map payloadsOf = inBatches limit (payloadsOf rows) := by
  let payload (r : FailureRecord) := r.usagePayload.toOption.getD default
  have all : ∀ batch : List FailureRecord, (∀ r ∈ batch, r ∈ rows) →
      payloadsOf batch = batch.map payload := by
    intro batch within
    rw [payloadsOf, ← List.filterMap_eq_map]
    refine List.filterMap_congr fun r member => ?_
    cases read : r.usagePayload with
    | ok p => simp [payload, read, Except.toOption]
    | error fault =>
      have unreadable := mem_undecodableOf.2 ⟨within r member, fault, read⟩
      rw [readable] at unreadable
      cases unreadable
  rw [all rows fun _ member => member, inBatches_map]
  refine List.map_congr_left fun batch member => all batch fun r inside => ?_
  rw [← flatten_inBatches limit rows]
  exact List.mem_flatten_of_mem member inside

/-- Batches leave nothing out that can be read. -/
theorem flatten_payloadsOf_inBatches (limit : Nat) (rows : List FailureRecord) :
    (((inBatches limit rows).map payloadsOf).filter (· ≠ [])).flatten = payloadsOf rows := by
  have all : ((inBatches limit rows).map payloadsOf).flatten =
      payloadsOf (inBatches limit rows).flatten :=
    List.filterMap_flatten.symm
  rw [List.flatten_filter_ne_nil, all, flatten_inBatches]

/-- What was stored is read back: the usage records of the failures, in order. -/
theorem FailureQueue.Holds.payloadsOf {q : FailureQueue} {failures : List UsageFailure}
    (h : q.Holds failures) : payloadsOf q.rows = failures.map (·.payload) := by
  unfold Holds at h
  generalize q.rows = rows at h
  induction h with
  | nil => rfl
  | cons stores _ ih =>
    simpa [UsageBilling.payloadsOf, stores.payload, Except.toOption] using ih

/-- Every row of a stored failure can be read. -/
theorem FailureQueue.Holds.undecodableOf {q : FailureQueue} {failures : List UsageFailure}
    (h : q.Holds failures) : undecodableOf q.rows = [] := by
  unfold Holds at h
  generalize q.rows = rows at h
  induction h with
  | nil => rfl
  | cons stores _ ih =>
    simpa [UsageBilling.undecodableOf, stores.payload, Except.toOption] using ih

end Reading

/-- Two findings, one after the other. -/
def Billing.Pass.plus (pass found : Pass) : Pass :=
  ⟨pass.failures ++ found.failures, pass.undecodable ++ found.undecodable⟩

/-! ## Courses -/

/-- The happening is a page that is fetched or an error that is counted. -/
def Happening.IsAside : Happening → Prop
  | .exchange (.page _ _) (.ok _) => True
  | .exchange (.observe (.error _)) _ => True
  | _ => False

/-- Asides only. -/
def Asides (course : List Happening) : Prop :=
  ∀ h ∈ course, h.IsAside

/-- The submission of a batch; an empty one is not sent. -/
inductive Submits (token : String) :
    List UsagePayload → List Happening → Except ServiceError (List UsageFailure) → Prop where
  | nothing : Submits token [] [] (.ok [])
  | batch {payloads : List UsagePayload} (some_left : payloads ≠ [])
      (answer : Except ServiceError (List UsageFailure)) :
      Submits token payloads [.exchange (.submit token payloads) answer] answer

/-- A pass over these rows in batches of `limit`. -/
inductive Passes (token : String) (limit : Nat) :
    List FailureRecord → List Happening → Except ServiceError Billing.Pass → Prop where
  | finished {asides : List Happening} (quiet : Asides asides) :
      Passes token limit [] asides (.ok {})
  | unread {rows : List FailureRecord} (cursor : Option Int) (size : Nat) (e : ServiceError) :
      Passes token limit rows [.exchange (.page cursor size) (.error e)] (.error e)
  | refused {rows : List FailureRecord} {asides sent : List Happening} {e : ServiceError}
      (some_left : rows ≠ []) (quiet : Asides asides)
      (submits : Submits token (payloadsOf (rows.take limit)) sent (.error e)) :
      Passes token limit rows (asides ++ sent) (.error e)
  | page {rows : List FailureRecord} {asides sent rest : List Happening}
      {failures : List UsageFailure} {result : Except ServiceError Billing.Pass}
      (some_left : rows ≠ []) (quiet : Asides asides)
      (submits : Submits token (payloadsOf (rows.take limit)) sent (.ok failures))
      (passes : Passes token limit (rows.drop limit) rest result) :
      Passes token limit rows (asides ++ (sent ++ rest))
        (result.map (Billing.Pass.plus ⟨failures, undecodableOf (rows.take limit)⟩))

theorem Asides.append {first second : List Happening} (h : Asides first) (h' : Asides second) :
    Asides (first ++ second) := by
  intro happening member
  rcases List.mem_append.1 member with member | member
  · exact h happening member
  · exact h' happening member

theorem Asides.page (cursor : Option Int) (limit : Nat) (page : FailurePage) :
    Asides [.exchange (.page cursor limit) (.ok page)] := by
  simp [Asides, Happening.IsAside]

theorem FailureQueue.after_aside {q : FailureQueue} {h : Happening} (aside : h.IsAside) :
    q.after h = q := by
  unfold Happening.IsAside at aside
  split at aside
  · rfl
  · rfl
  · cases aside

/-- Asides leave the queue as it is. -/
theorem FailureQueue.afterAll_asides {q : FailureQueue} {course : List Happening}
    (quiet : Asides course) : q.afterAll course = q := by
  induction course with
  | nil => rfl
  | cons h course ih =>
    rw [afterAll_cons, after_aside (quiet h (by simp))]
    exact ih fun g member => quiet g (by simp [member])

theorem Submits.afterAll {token : String} {payloads : List UsagePayload} {course : List Happening}
    {result : Except ServiceError (List UsageFailure)} (h : Submits token payloads course result)
    (q : FailureQueue) : q.afterAll course = q := by
  cases h <;> rfl

/-- A pass does not change the queue. -/
theorem Passes.afterAll {token : String} {limit : Nat} {rows : List FailureRecord}
    {course : List Happening} {result : Except ServiceError Billing.Pass}
    (h : Passes token limit rows course result) (q : FailureQueue) : q.afterAll course = q := by
  induction h with
  | finished quiet => exact FailureQueue.afterAll_asides quiet
  | unread => rfl
  | refused _ quiet submits =>
    rw [FailureQueue.afterAll_append, FailureQueue.afterAll_asides quiet, submits.afterAll]
  | page _ quiet submits _ ih =>
    rw [FailureQueue.afterAll_append, FailureQueue.afterAll_asides quiet,
      FailureQueue.afterAll_append, submits.afterAll, ih]

/-! ## Every pass takes such a course -/

namespace Collaborators

open Billing

variable {c : Collaborators} {past : Chronicle} {course : List Happening}

/-- Rows that cannot be read are counted, each as an error. -/
theorem Does.reportUndecodable {rows : List FailureRecord} {result : Except Crash Unit}
    (h : c.Does (reportUndecodable rows) past result course) : result = .ok () ∧ Asides course := by
  induction rows generalizing past course with
  | nil =>
    obtain ⟨rfl, rfl⟩ := does_done.1 h
    exact ⟨rfl, nofun⟩
  | cons r rows ih =>
    rcases h.bind with ⟨reason, rfl, broken⟩ | ⟨_, first, second, rfl, counted, others⟩
    · cases broken.observe.1
    · obtain ⟨-, rfl⟩ := counted.observe
      obtain ⟨rfl, quiet⟩ := ih others
      refine ⟨rfl, .append ?_ quiet⟩
      simp [Asides, Happening.IsAside]

/-- The records of a page that can be read are submitted, and what comes back is added. -/
theorem Does.submitPage {token : String} {rows : List FailureRecord} {pass : Pass}
    {result : Except Crash (Except ServiceError Pass)}
    (h : c.Does (submitPage token rows pass).run past result course) :
    ∃ asides sent answer, course = asides ++ sent ∧ Asides asides ∧
      Submits token (payloadsOf rows) sent answer ∧
      result = .ok (answer.map fun failures => pass.plus ⟨failures, undecodableOf rows⟩) := by
  simp only [Billing.submitPage, decodePage_eq] at h
  rcases h.alwaysThen with ⟨_, -, broken⟩ | ⟨_, asides, sent, rfl, reported, h⟩
  · cases broken.reportUndecodable.1
  have quiet := reported.reportUndecodable.2
  refine ⟨asides, sent, ?_⟩
  split at h
  next empty =>
    obtain ⟨rfl, rfl⟩ := h.pure
    rw [List.isEmpty_iff.1 empty]
    exact ⟨.ok [], rfl, quiet, .nothing, by simp [Except.map, Pass.plus]⟩
  next nonempty =>
    have some_left : payloadsOf rows ≠ [] := by simpa using nonempty
    rcases h.then with ⟨_, -, broken⟩ | ⟨e, rfl, refused⟩ | ⟨failures, first, _, rfl, answered, h⟩
    · exact broken.not_broken.elim
    · obtain ⟨_, -, answer, rfl⟩ := refused.request
      cases answer
      exact ⟨.error e, rfl, quiet, .batch some_left _, rfl⟩
    · obtain ⟨_, -, answer, rfl⟩ := answered.request
      cases answer
      obtain ⟨rfl, rfl⟩ := h.pure
      exact ⟨.ok failures, by simp, quiet, .batch some_left _, rfl⟩

/-- The page that an unfinished walk fetches is the next batch of the rows it has not handed out. -/
theorem Does.fetch {limit : Nat} {scan : Scan} {fetched rest : List FailureRecord}
    {result : Except Crash (Except ServiceError FailurePage)}
    (h : c.Does (Billing.page scan.cursor scan.limit).run past result course)
    (numbered : (c.queueAt past).Numbered) (split : (c.queueAt past).rows = fetched ++ rest)
    (positive : 0 < limit) (stands : scan.Stands limit fetched rest)
    (unfinished : scan.finished = false) :
    ∃ answer, result = .ok answer ∧ course = [.exchange (.page scan.cursor scan.limit) answer] ∧
      ∀ page, answer = .ok page → page = FailureQueue.pageOf (rest.take limit) limit := by
  obtain ⟨answer, genuine, rfl, rfl⟩ := Does.settled (r := .page scan.cursor scan.limit) rfl h
  refine ⟨answer, rfl, rfl, ?_⟩
  rintro page rfl
  rw [reply_page genuine, stands.limit, stands.cursor unfinished,
    numbered.page_cursorAfter split, Nat.max_eq_left positive]

/-- A pass hands out all rows of the queue, whatever is answered. -/
theorem Does.passOver {token : String} {fuel limit : Nat} {scan : Scan} {pass : Pass}
    {fetched rest : List FailureRecord} {result : Except Crash (Except ServiceError Pass)}
    (h : c.Does (passOver token fuel scan pass).run past result course)
    (numbered : (c.queueAt past).Numbered) (split : (c.queueAt past).rows = fetched ++ rest)
    (positive : 0 < limit) (stands : scan.Stands limit fetched rest) (enough : rest.length < fuel) :
    ∃ found, result = .ok (found.map pass.plus) ∧ Passes token limit rest course found := by
  -- each page moves its rows from `rest` to `fetched`, so that the fuel outlasts `rest`
  induction fuel generalizing scan pass fetched rest past course with
  | zero => omega
  | succ fuel ih =>
    rw [Billing.passOver] at h
    cases unfinished : scan.finished with
    | true =>
      rw [unfinished, if_pos rfl] at h
      obtain ⟨rfl, rfl⟩ := h.pure
      rw [stands.finished unfinished]
      exact ⟨.ok {}, by simp [Except.map, Pass.plus], .finished nofun⟩
    | false =>
      rw [unfinished, if_neg (by decide)] at h
      rcases h.then with ⟨_, -, broken⟩ | ⟨e, rfl, unread⟩ | ⟨page, fetch, _, rfl, answered, h⟩
      · exact broken.not_broken.elim
      · obtain ⟨_, same, rfl, -⟩ := unread.fetch numbered split positive stands unfinished
        cases same
        exact ⟨.error e, rfl, .unread _ _ e⟩
      obtain ⟨_, same, rfl, next_batch⟩ := answered.fetch numbered split positive stands unfinished
      cases same
      have batch := next_batch page rfl
      by_cases left : rest = []
      · have nothing : (scan.advance page).2 = none := 
          Scan.advance_of_empty (by simp [batch, left, FailureQueue.pageOf])
        rw [← Prod.eta (scan.advance page), nothing] at h
        obtain ⟨rfl, rfl⟩ := h.pure
        rw [left]
        exact ⟨.ok {}, by simp [Except.map, Pass.plus], .finished (.page _ _ _)⟩
      obtain ⟨scan', advanced, stands'⟩ := stands.advance positive unfinished left
      rw [← batch] at advanced
      rw [advanced] at h
      rcases h.then with
        ⟨_, -, broken⟩ | ⟨e, rfl, refused⟩ | ⟨pass', submission, others, rfl, submitted, h⟩
      · obtain ⟨_, _, _, -, -, -, ended⟩ := broken.submitPage
        cases ended
      · obtain ⟨asides, sent, answer, rfl, quiet, submits, ended⟩ := refused.submitPage
        cases answer with
        | ok failures => cases ended
        | error e' =>
          cases ended
          refine ⟨.error e, rfl, ?_⟩
          rw [← List.append_assoc]
          exact .refused left ((Asides.page _ _ _).append quiet) submits
      · obtain ⟨asides, sent, answer, rfl, quiet, submits, ended⟩ := submitted.submitPage
        cases answer with
        | error e => cases ended
        | ok failures =>
          cases ended
          have unchanged : c.queueAt (past ++ [.exchange (.page scan.cursor scan.limit) (.ok page)] ++
              (asides ++ sent)) = c.queueAt past := by
            simp [FailureQueue.afterAll_asides quiet, submits.afterAll, FailureQueue.after]
          have fewer := List.length_pos_iff.2 left
          obtain ⟨found, rfl, passes⟩ := ih h (unchanged ▸ numbered)
            (by rw [unchanged, split, List.append_assoc, List.take_append_drop]) stands'
            (by rw [List.length_drop]; omega)
          refine ⟨found.map (Pass.plus ⟨failures, undecodableOf (rest.take limit)⟩), ?_, ?_⟩
          · cases found <;> simp [Except.map, Pass.plus]
          · simpa using Passes.page left ((Asides.page _ _ page).append quiet) submits passes

end Collaborators

end UsageBilling
