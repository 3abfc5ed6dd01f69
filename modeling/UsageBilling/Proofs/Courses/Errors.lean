import UsageBilling.Proofs.Courses.Submissions

/-!
# Where a course breaks off

An error ends a run where it is met. Nothing has failed before, no failure has
been told to anyone, and what follows the error only counts it and gives back
the run guard.
-/

namespace UsageBilling

open Billing

/-- The error with which a run fails here. The rows that a manual call lists before and after its run
are not part of the run. -/
def Happening.error? : Happening → Option ServiceError
  | .exchange .activeInstances (.error e) => some e
  | .exchange .token (.error e) => some e
  | .exchange (.submit _ _) (.error e) => some e
  | .exchange (.page _ _) (.error e) => some e
  | .exchange (.seed _) (.error e) => some e
  | .exchange .clear (.error e) => some e
  | _ => none

/-- The summary that is dispatched in this happening. -/
def Happening.summary? : Happening → Option Summary
  | .exchange (.notify .main summary) _ => some summary
  | _ => none

/-- Nothing fails and no summary of failures is dispatched. -/
def Happening.IsPlain (product : String) (h : Happening) : Prop :=
  h.error? = none ∧ ∀ failures, h.summary? ≠ some (.ofFailures product failures)

/-- Plain happenings only. -/
def Plain (product : String) (course : List Happening) : Prop :=
  ∀ h ∈ course, h.IsPlain product

/-- Something is counted, or the run guard is given back. -/
def Happening.IsClosing : Happening → Prop
  | .exchange (.observe _) _ => True
  | .exchange .releaseGuard _ => True
  | _ => False

/-- Closing happenings only. -/
def Closing (course : List Happening) : Prop :=
  ∀ h ∈ course, h.IsClosing

/-- The course breaks off with an error. -/
def Breaks (product : String) (e : ServiceError) (course : List Happening) : Prop :=
  ∃ since h later, course = since ++ h :: later ∧ Plain product since ∧ h.error? = some e ∧
    Closing later

/-- The course is plain to its end, or breaks off with the error that is its result. -/
def Ends {α : Type} (product : String) (course : List Happening)
    (result : Except Crash (Except ServiceError α)) : Prop :=
  Plain product course ∨ ∃ e, result = .ok (.error e) ∧ Breaks product e course

section Parts

variable {α β : Type} {product : String} {e : ServiceError} {first second course later : List Happening}
  {result : Except Crash (Except ServiceError α)}

theorem Plain.nil : Plain product [] :=
  List.forall_mem_nil _

theorem Plain.cons {h : Happening} (plain : h.IsPlain product) (rest : Plain product course) :
    Plain product (h :: course) :=
  List.forall_mem_cons.2 ⟨plain, rest⟩

theorem Plain.append (h : Plain product first) (h' : Plain product second) :
    Plain product (first ++ second) :=
  List.forall_mem_append.2 ⟨h, h'⟩

theorem Closing.nil : Closing [] :=
  List.forall_mem_nil _

theorem Closing.cons {h : Happening} (closing : h.IsClosing) (rest : Closing course) :
    Closing (h :: course) :=
  List.forall_mem_cons.2 ⟨closing, rest⟩

theorem Closing.append (h : Closing first) (h' : Closing second) : Closing (first ++ second) :=
  List.forall_mem_append.2 ⟨h, h'⟩

/-- Nothing fails while a run is closed, and no summary is handed over. -/
theorem Closing.plain (h : Closing course) : Plain product course := by
  intro happening member
  have closing := h happening member
  unfold Happening.IsClosing at closing
  split at closing
  · exact ⟨rfl, nofun⟩
  · exact ⟨rfl, nofun⟩
  · cases closing

/-- A run is closed without a token, a submission or a write. -/
theorem Closing.passive (h : Closing course) : Passive course := by
  intro happening member
  have closing := h happening member
  unfold Happening.IsClosing at closing
  split at closing
  · exact ⟨rfl, rfl, nofun⟩
  · exact ⟨rfl, rfl, nofun⟩
  · cases closing

/-- An error that only closing happenings follow. -/
theorem Breaks.here {h : Happening} (failed : h.error? = some e) (quiet : Closing later) :
    Breaks product e (h :: later) :=
  ⟨[], h, later, rfl, .nil, failed, quiet⟩

/-- A plain beginning does not change where a course breaks off. -/
theorem Plain.breaks (plain : Plain product first) (h : Breaks product e second) :
    Breaks product e (first ++ second) := by
  obtain ⟨since, happening, later, rfl, plain', failed, quiet⟩ := h
  exact ⟨first ++ since, happening, later, by simp, plain.append plain', failed, quiet⟩

theorem Breaks.closing (h : Breaks product e first) (quiet : Closing second) :
    Breaks product e (first ++ second) := by
  obtain ⟨since, happening, later, rfl, plain, failed, quiet'⟩ := h
  exact ⟨since, happening, later ++ second, by simp, plain, failed, quiet'.append quiet⟩

theorem Plain.ends (plain : Plain product first) (h : Ends product second result) :
    Ends product (first ++ second) result := by
  rcases h with plain' | ⟨e, rfl, breaks⟩
  · exact .inl (plain.append plain')
  · exact .inr ⟨e, rfl, plain.breaks breaks⟩

/-- A course that comes to an outcome is plain. -/
theorem Ends.plain {a : α} (h : Ends product course (.ok (.ok a))) : Plain product course := by
  rcases h with plain | ⟨_, ended, -⟩
  · exact plain
  · cases ended

/-- What a part fails with, the whole fails with. -/
theorem Ends.failing (h : Ends product course (.ok (.error e : Except ServiceError α))) :
    Ends product course (.ok (.error e : Except ServiceError β)) := by
  rcases h with plain | ⟨_, same, breaks⟩
  · exact .inl plain
  · cases same
    exact .inr ⟨e, rfl, breaks⟩

/-- There is one place at which a course breaks off. -/
theorem Breaks.at (h : Breaks product e course) {since : List Happening} {g : Happening}
    {f : ServiceError} (here : course = since ++ g :: later) (failed : g.error? = some f) :
    f = e ∧ Plain product since ∧ Closing later := by
  obtain ⟨since', h', later', rfl, plain, failed', quiet⟩ := h
  rcases List.append_eq_append_iff.1 here with ⟨between, rfl, rest⟩ | ⟨between, rfl, rest⟩
  · cases between with
    | nil =>
      obtain ⟨rfl, rfl⟩ := List.cons.inj rest
      exact ⟨Option.some.inj (failed.symm.trans failed'), by simpa using plain, quiet⟩
    | cons k between =>
      -- a second failure among the closing happenings
      obtain ⟨rfl, rfl⟩ := List.cons.inj rest
      have closing : Plain product (between ++ g :: later) := quiet.plain
      rw [(closing g (by simp)).1] at failed
      cases failed
  · cases between with
    | nil =>
      obtain ⟨rfl, rfl⟩ := List.cons.inj rest
      exact ⟨Option.some.inj (failed.symm.trans failed'), by simpa using plain, quiet⟩
    | cons k between =>
      -- a failure among the plain happenings
      obtain ⟨rfl, rfl⟩ := List.cons.inj rest
      have before := plain g (by simp)
      rw [before.1] at failed
      cases failed

theorem Breaks.not_plain (h : Breaks product e course) : ¬ Plain product course := by
  obtain ⟨since, happening, later, rfl, -, failed, -⟩ := h
  intro plain
  rw [(plain happening (by simp)).1] at failed
  cases failed

/-- Two splits of a course at its first error are the same. -/
theorem eq_of_first_error {since since' later' : List Happening} {h h' : Happening}
    {f : ServiceError} (same : since ++ h :: later = since' ++ h' :: later')
    (plain : Plain product since) (plain' : Plain product since') (failed : h.error? = some e)
    (failed' : h'.error? = some f) : since = since' ∧ h = h' ∧ later = later' := by
  induction since generalizing since' with
  | nil =>
    cases since' with
    | nil => exact ⟨rfl, List.cons.inj same⟩
    | cons k since' =>
      rw [List.nil_append, List.cons_append] at same
      obtain ⟨rfl, -⟩ := List.cons.inj same
      rw [(plain' h List.mem_cons_self).1] at failed
      cases failed
  | cons k since ih =>
    cases since' with
    | nil =>
      rw [List.nil_append, List.cons_append] at same
      obtain ⟨rfl, -⟩ := List.cons.inj same
      rw [(plain k List.mem_cons_self).1] at failed'
      cases failed'
    | cons k' since' =>
      rw [List.cons_append, List.cons_append] at same
      obtain ⟨rfl, rest⟩ := List.cons.inj same
      obtain ⟨rfl, ended⟩ := ih rest (List.forall_mem_cons.1 plain).2 (List.forall_mem_cons.1 plain').2
      exact ⟨rfl, ended⟩

end Parts

/-! ## Plain courses -/

section Courses

variable {plan : BillingPlan} {q : FailureQueue} {course : List Happening}

theorem Asides.plain {product : String} (h : Asides course) : Plain product course := by
  intro happening member
  have aside := h happening member
  unfold Happening.IsAside at aside
  split at aside
  · exact ⟨rfl, nofun⟩
  · exact ⟨rfl, nofun⟩
  · cases aside

theorem Arrivals.plain {product : String} (h : Arrivals course) : Plain product course := by
  intro happening member
  obtain ⟨_, _, _, rfl⟩ := h happening member
  exact ⟨rfl, nofun⟩

/-- A summary of rows that cannot be read is not one of failures: their subjects differ. -/
theorem Summary.ofUndecodable_ne_ofFailures (product : String) (records : List FailureRecord)
    (failures : List UsageFailure) : ofUndecodable product records ≠ ofFailures product failures := by
  intro same
  have subjects : "[Service Broker " ++ product ++ "] " ++ countText records.length ++
      " billing records could not be decoded" =
      "[Service Broker " ++ product ++ "] Billing for " ++ countText failures.length ++
      " instances failed" := congrArg Summary.subject same
  have ends := congrArg (fun s : String => s.toList.reverse.take 3) subjects
  simp only [String.toList_append, List.reverse_append] at ends
  rw [List.take_append_of_le_length (by decide), List.take_append_of_le_length (by decide)] at ends
  exact absurd ends (by decide)

/-- The report of rows that cannot be read is plain: its summary is not one of failures. -/
theorem Reports.plain {rows : List FailureRecord} (h : Reports plan rows course) :
    Plain plan.product course := by
  cases h with
  | nothing => exact .nil
  | told _ dispatches =>
    have untold (answer : Except ServiceError Unit) : Happening.IsPlain plan.product
        (.exchange (.notify .main (.ofUndecodable plan.product rows)) answer) :=
      ⟨rfl, fun failures same =>
        Summary.ofUndecodable_ne_ofFailures _ _ failures (Option.some.inj same)⟩
    cases dispatches <;> exact .cons (untold _) (.cons ⟨rfl, nofun⟩ .nil)

/-! ## Courses with an error -/

/-- A submission fails with the answer of the metering API. -/
theorem Submits.ends {product token : String} {payloads : List UsagePayload}
    {result : Except ServiceError (List UsageFailure)} (h : Submits token payloads course result) :
    Ends product course (.ok result) := by
  cases h with
  | nothing => exact .inl .nil
  | batch =>
    cases result with
    | ok failures => exact .inl (.cons ⟨rfl, nofun⟩ .nil)
    | error e => exact .inr ⟨e, rfl, .here rfl .nil⟩

/-- A pass is plain until a page or a submission fails. -/
theorem Passes.ends {product token : String} {limit : Nat} {rows : List FailureRecord}
    {result : Except ServiceError Pass} (h : Passes token limit rows course result) :
    Ends product course (.ok result) := by
  induction h with
  | finished quiet => exact .inl quiet.plain
  | unread cursor size e => exact .inr ⟨e, rfl, .here rfl .nil⟩
  | refused _ quiet submits => exact quiet.plain.ends submits.ends.failing
  | @page _ _ _ _ _ result _ quiet submits _ ih =>
    refine quiet.plain.ends (submits.ends.plain.ends ?_)
    cases result with
    | ok found => exact .inl ih.plain
    | error e => exact ih

/-- To refill the queue is plain unless the write is refused. -/
theorem Refills.ends {product : String} {failures : List UsageFailure}
    {answer : Except ServiceError (Attempt (List UsageFailure))} (h : Refills failures course answer) :
    Ends product course (.ok answer) := by
  cases h with
  | cleared => exact .inl (.cons ⟨rfl, nofun⟩ (.cons ⟨rfl, nofun⟩ .nil))
  | refilled => exact .inl (.cons ⟨rfl, nofun⟩ (.cons ⟨rfl, nofun⟩ .nil))
  | uncleared e => exact .inr ⟨e, rfl, .here rfl .nil⟩
  | unfilled _ e => exact .inr ⟨e, rfl, .here rfl .nil⟩

/-- An attempt fails with its token, its pass or its write. -/
theorem Tries.ends {answer : Except ServiceError (Attempt (List UsageFailure))}
    (h : Tries plan q course answer) : Ends plan.product course (.ok answer) := by
  cases h with
  | tokenless arrivals e =>
    exact arrivals.plain.ends (.inr ⟨e, rfl, .here rfl (.cons trivial .nil)⟩)
  | @broken others pass token e arrivals passes =>
    have given : Plain plan.product [.exchange .token (.ok token)] := .cons ⟨rfl, nofun⟩ .nil
    exact arrivals.plain.ends (given.ends passes.ends.failing)
  | @passed others pass report refill token found _ arrivals passes reports refills =>
    have given : Plain plan.product [.exchange .token (.ok token)] := .cons ⟨rfl, nofun⟩ .nil
    exact arrivals.plain.ends (given.ends (passes.ends.plain.ends (reports.plain.ends refills.ends)))

/-- The attempts fail where the first of them fails. -/
theorem Retries.ends {more number : Nat}
    {result : Except ServiceError (RetryOutcome (List UsageFailure))}
    (h : Retries plan more number q course result) : Ends plan.product course (.ok result) := by
  induction h with
  | failed tries => exact tries.ends.failing
  | succeeded tries => exact .inl tries.ends.plain
  | exhausted tries => exact .inl tries.ends.plain
  | again tries _ ih =>
    have waited : Plain plan.product [.exchange (.wait plan.retry.backoff) ()] :=
      .cons ⟨rfl, nofun⟩ .nil
    exact tries.ends.plain.ends (waited.ends ih)

/-- To seed the queue fails with the list of instances or with the write. -/
theorem Seeds.ends {product : String} {result : Except Crash (Except ServiceError Nat)}
    (h : Seeds course result) : Ends product course result := by
  have plain {r : Request} {answer : r.Answer} {rest : List Happening}
      (here : Happening.IsPlain product (.exchange r answer)) (ends : Ends product rest result) :
      Ends product (.exchange r answer :: rest) result :=
    Plain.ends (.cons here .nil) ends
  cases h with
  | unlisted e => exact .inr ⟨e, rfl, .here rfl .nil⟩
  | unclocked => exact plain ⟨rfl, nofun⟩ (plain ⟨rfl, nofun⟩ (.inl .nil))
  | overflown =>
    exact plain ⟨rfl, nofun⟩ (plain ⟨rfl, nofun⟩ (plain ⟨rfl, nofun⟩ (.inl .nil)))
  | unstored _ e =>
    exact plain ⟨rfl, nofun⟩ (plain ⟨rfl, nofun⟩ (plain ⟨rfl, nofun⟩
      (.inr ⟨e, rfl, .here rfl .nil⟩)))
  | seeded =>
    exact plain ⟨rfl, nofun⟩ (plain ⟨rfl, nofun⟩ (plain ⟨rfl, nofun⟩ (plain ⟨rfl, nofun⟩
      (plain ⟨rfl, nofun⟩ (.inl .nil)))))

/-- To store the rows anew fails with the write; the list before it is not part of the run. -/
theorem Reseeds.ends {result : Except ServiceError Nat} (h : Reseeds plan q course result) :
    Ends plan.product course (.ok result) := by
  cases h with
  | unlisted e => exact .inl (.cons ⟨rfl, nofun⟩ .nil)
  | @unstored clock asides report quiet reports e =>
    have listed : Plain plan.product
        [.exchange .listAll (.ok q.rows), .exchange .wallClock clock] :=
      .cons ⟨rfl, nofun⟩ (.cons ⟨rfl, nofun⟩ .nil)
    exact listed.ends (quiet.plain.ends (reports.plain.ends (.inr ⟨e, rfl, .here rfl .nil⟩)))
  | @reseeded clock asides report quiet reports _ =>
    have listed : Plain plan.product
        [.exchange .listAll (.ok q.rows), .exchange .wallClock clock] :=
      .cons ⟨rfl, nofun⟩ (.cons ⟨rfl, nofun⟩ .nil)
    exact listed.ends (quiet.plain.ends (reports.plain.ends
      (.inl (.cons ⟨rfl, nofun⟩ (.cons ⟨rfl, nofun⟩ .nil)))))

end Courses

end UsageBilling
