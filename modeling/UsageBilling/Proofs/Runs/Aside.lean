import UsageBilling.Proofs.Runs.Delivery
import UsageBilling.Proofs.Runs.Progress

/-!
# Single instances beside the queue

A call that bills one instance may go on between any two steps of other calls, a
run included. It asks for the instance, the time, a token and one submission, and
for nothing else: queue, run guard, counts and notifications are at every point
what they would be without it. So the other calls, given the same answers, do the
same with it and without it.
-/

namespace UsageBilling

open Billing
open Calendar (Instant)

/-! ## How far a call for one instance has come -/

/-- What billing an instance has come to after these answers. -/
inductive BillingReaches (i : ServiceInstance) (ctx : BillingContext) :
    List Happening → Action (Except ServiceError Unit) → Prop where
  | begun {rest : Action (Except ServiceError Unit)} (asks : ¬ rest.HasEnded) :
      BillingReaches i ctx [] rest
  | unclocked : BillingReaches i ctx [.exchange .now none] (.crash .clock)
  | overflown {now : Instant} {reason : Crash} (billed : usagePayload i ctx now = .error reason) :
      BillingReaches i ctx [.exchange .now (some now)] (.crash reason)
  | priced (now : Instant) {rest : Action (Except ServiceError Unit)} (asks : ¬ rest.HasEnded) :
      BillingReaches i ctx [.exchange .now (some now)] rest
  | tokenless (now : Instant) (e : ServiceError) :
      BillingReaches i ctx [.exchange .now (some now), .exchange .token (.error e)]
        (.done (.error e))
  | admitted (now : Instant) (token : String) {rest : Action (Except ServiceError Unit)}
      (asks : ¬ rest.HasEnded) :
      BillingReaches i ctx [.exchange .now (some now), .exchange .token (.ok token)] rest
  | submitted {now : Instant} {p : UsagePayload} (billed : usagePayload i ctx now = .ok p)
      (token : String) (answer : Except ServiceError (List UsageFailure)) :
      BillingReaches i ctx [.exchange .now (some now), .exchange .token (.ok token),
        .exchange (.submit token [p]) answer] (.done (verdict i answer))

namespace SingleCall

/-- The call has found its instance in this course. -/
inductive Finds (i : ServiceInstance) : SingleCall → List Happening → Prop where
  | bill (ctx : BillingContext) : Finds i (.bill i ctx) []
  | byId (id : String) (dryRun : Bool) :
      Finds i (.byId id dryRun) [.exchange (.instanceOf id) (.ok (some i))]
  | final : Finds i (.final i) []

/-- What the call has come to after these answers. -/
inductive Standing : SingleCall → List Happening → Action (Except ServiceError Unit) → Prop where
  | searching (id : String) (dryRun : Bool) {rest : Action (Except ServiceError Unit)}
      (asks : ¬ rest.HasEnded) : Standing (.byId id dryRun) [] rest
  | unanswered (id : String) (dryRun : Bool) (e : ServiceError) :
      Standing (.byId id dryRun) [.exchange (.instanceOf id) (.error e)] (.done (.error e))
  | missing (id : String) (dryRun : Bool) :
      Standing (.byId id dryRun) [.exchange (.instanceOf id) (.ok none)]
        (.done (.error (instanceMissing id)))
  | found {call : SingleCall} {i : ServiceInstance} {search own : List Happening}
      {rest : Action (Except ServiceError Unit)} (finds : call.Finds i search)
      (billing : BillingReaches i call.context own rest) : Standing call (search ++ own) rest

end SingleCall

section Standing

variable {i : ServiceInstance} {ctx : BillingContext} {call : SingleCall} {own : List Happening}
  {rest : Action (Except ServiceError Unit)}

/-- Billing an instance, question by question. -/
theorem billInstance_run (i : ServiceInstance) (ctx : BillingContext) :
    (billInstance i ctx).run = .ask .now fun
      | none => .crash .clock
      | some now => match usagePayload i ctx now with
        | .error reason => .crash reason
        | .ok p => .ask .token fun
          | .error e => .done (.error e)
          | .ok token => .ask (.submit token [p]) fun answer => .done (verdict i answer) := by
  refine congrArg (Program.ask (I := surroundings) .now) (funext fun reading => ?_)
  cases reading with
  | none => rfl
  | some now =>
    show ((orCrash (usagePayload i ctx now)).bind _).bind _ =
      match usagePayload i ctx now with
      | .error reason => _
      | .ok p => _
    generalize usagePayload i ctx now = priced
    cases priced with
    | error reason => rfl
    | ok p =>
      refine congrArg (Program.ask (I := surroundings) .token) (funext fun token => ?_)
      cases token with
      | error e => rfl
      | ok token =>
        refine congrArg (Program.ask (I := surroundings) (.submit token [p])) (funext fun answer => ?_)
        rcases answer with e | _ | ⟨f, failures⟩ <;> rfl

/-- Billing an instance comes no further than this. -/
theorem Program.Reaches.billing (h : Reaches (billInstance i ctx).run own rest) :
    BillingReaches i ctx own rest := by
  rw [billInstance_run] at h
  rcases h.of_ask with ⟨rfl, rfl⟩ | ⟨reading, own, rfl, clocked⟩
  · exact .begun not_false
  cases reading with
  | none =>
    obtain ⟨rfl, rfl⟩ := clocked.of_crash
    exact .unclocked
  | some now =>
    cases billed : usagePayload i ctx now with
    | error reason =>
      simp only [billed] at clocked
      obtain ⟨rfl, rfl⟩ := clocked.of_crash
      exact .overflown billed
    | ok p =>
      simp only [billed] at clocked
      rcases clocked.of_ask with ⟨rfl, rfl⟩ | ⟨token, own, rfl, answered⟩
      · exact .priced now not_false
      cases token with
      | error e =>
        obtain ⟨rfl, rfl⟩ := answered.of_done
        exact .tokenless now e
      | ok token =>
        rcases answered.of_ask with ⟨rfl, rfl⟩ | ⟨answer, own, rfl, submitted⟩
        · exact .admitted now token not_false
        · obtain ⟨rfl, rfl⟩ := submitted.of_done
          exact .submitted billed token answer

/-- A call that looks its instance up first comes no further than this. -/
theorem Program.Reaches.single (h : Reaches call.program.run own rest) :
    call.Standing own rest := by
  cases call with
  | bill i ctx => exact .found (.bill ctx) h.billing
  | final i => exact .found .final (billing h)
  | byId id dryRun =>
    rcases of_ask (r := .instanceOf id) h with ⟨rfl, rfl⟩ | ⟨found, own, rfl, looked_up⟩
    · exact .searching id dryRun not_false
    rcases found with e | _ | i
    · obtain ⟨rfl, rfl⟩ := of_done looked_up
      exact .unanswered id dryRun e
    · obtain ⟨rfl, rfl⟩ := of_done looked_up
      exact .missing id dryRun
    · exact .found (.byId id dryRun) (billing looked_up)

/-- Billing an instance submits the record of the instance at most, with the token it was given. -/
theorem BillingReaches.of_submit {token : String} {batch : List UsagePayload}
    {answer : Except ServiceError (List UsageFailure)} (h : BillingReaches i ctx own rest)
    (member : .exchange (.submit token batch) answer ∈ own) :
    .exchange .token (.ok token) ∈ own ∧ ∃ now p, .exchange .now (some now) ∈ own ∧
      usagePayload i ctx now = .ok p ∧ batch = [p] := by
  cases h with
  | submitted billed token answer =>
    simp at member
    obtain ⟨⟨rfl, rfl⟩, -⟩ := member
    exact ⟨by simp, _, _, by simp, billed, rfl⟩
  | _ => simp at member

/-- A token comes first, and then one record. -/
theorem BillingReaches.metered (h : BillingReaches i ctx own rest) :
    ∃ token p, meteredIn own <+: [.token, .submit token [p]] := by
  cases h with
  | @submitted now p billed token answer => exact ⟨token, p, [], rfl⟩
  | tokenless => exact ⟨"", default, _, rfl⟩
  | admitted => exact ⟨"", default, _, rfl⟩
  | _ => exact ⟨"", default, List.nil_prefix⟩

/-- Nothing is looked up once the instance is known. -/
theorem BillingReaches.not_mem_instanceOf (h : BillingReaches i ctx own rest) (id : String)
    (answer : Except ServiceError (Option ServiceInstance)) :
    .exchange (.instanceOf id) answer ∉ own := by
  cases h <;> simp

/-- Billing an instance fails if it is given no token, its submission fails, or its record comes
back, and not otherwise. -/
theorem BillingReaches.fails_iff {result : Except ServiceError Unit}
    (h : BillingReaches i ctx own (.done result)) (e : ServiceError) :
    result = .error e ↔ .exchange .token (.error e) ∈ own ∨
      (∃ token batch, .exchange (.submit token batch) (.error e) ∈ own) ∨
      ∃ token batch f failures, .exchange (.submit token batch) (.ok (f :: failures)) ∈ own ∧
        billingFailed i.instanceId f.message = e := by
  cases h with
  | begun asks => exact absurd trivial asks
  | priced _ asks => exact absurd trivial asks
  | admitted _ _ asks => exact absurd trivial asks
  | tokenless now e' => simp [eq_comm]
  | submitted billed token answer => rcases answer with e' | _ | ⟨f, failures⟩ <;> simp [verdict, eq_comm]

/-- Billing an instance succeeds once its record was submitted and nothing came back. -/
theorem BillingReaches.of_ok (h : BillingReaches i ctx own (.done (.ok ()))) :
    ∃ now token p, usagePayload i ctx now = .ok p ∧
      own = [.exchange .now (some now), .exchange .token (.ok token),
        .exchange (.submit token [p]) (.ok [])] := by
  generalize ended : (.done (.ok ()) : Action (Except ServiceError Unit)) = rest at h
  cases h with
  | begun asks => exact absurd (ended ▸ trivial) asks
  | priced _ asks => exact absurd (ended ▸ trivial) asks
  | admitted _ _ asks => exact absurd (ended ▸ trivial) asks
  | unclocked | overflown | tokenless => cases ended
  | @submitted now p billed token answer =>
    rcases answer with e | _ | ⟨f, failures⟩
    · cases ended
    · exact ⟨now, token, p, billed, rfl⟩
    · cases ended

/-- Billing an instance breaks down only where the clock cannot be read, or the instance is too
young to be billed. -/
theorem BillingReaches.of_crash {reason : Crash} (h : BillingReaches i ctx own (.crash reason)) :
    .exchange .now none ∈ own ∨ ¬ i.Representable := by
  cases h with
  | begun asks => exact absurd trivial asks
  | priced _ asks => exact absurd trivial asks
  | admitted _ _ asks => exact absurd trivial asks
  | unclocked => exact .inl List.mem_cons_self
  | overflown billed =>
    refine .inr fun representable => ?_
    obtain ⟨p, priced⟩ := usagePayload_of_representable representable ctx _
    cases billed.symm.trans priced

end Standing

/-! ## What such a call does -/

/-- The call fails with this error: its instance is not found, it is given no token, its submission
fails, or its record comes back. -/
inductive SingleCall.Fails (call : SingleCall) (own : List Happening) : ServiceError → Prop where
  | unanswered {id : String} {e : ServiceError}
      (lookup : .exchange (.instanceOf id) (.error e) ∈ own) : Fails call own e
  | missing {id : String} (lookup : .exchange (.instanceOf id) (.ok none) ∈ own) :
      Fails call own (instanceMissing id)
  | tokenless {e : ServiceError} (refused : .exchange .token (.error e) ∈ own) : Fails call own e
  | unsubmitted {token : String} {batch : List UsagePayload} {e : ServiceError}
      (failed : .exchange (.submit token batch) (.error e) ∈ own) : Fails call own e
  | returned {i : ServiceInstance} {token : String} {batch : List UsagePayload} {f : UsageFailure}
      {failures : List UsageFailure} (concerns : call.Concerns own i)
      (back : .exchange (.submit token batch) (.ok (f :: failures)) ∈ own) :
      Fails call own (billingFailed i.instanceId f.message)

/-- What has happened in a call for one instance that has come this far. -/
structure SingleCall.BillsAlone (call : SingleCall) (own : List Happening)
    (rest : Action (Except ServiceError Unit)) : Prop where
  /-- One token is asked for at most, and then one record is submitted at most. -/
  metered : ∃ token p, meteredIn own <+: [.token, .submit token [p]]
  /-- It is the record of the instance, submitted with the token that was given; its quantity is
  zero exactly in a dry run. -/
  submitted : ∀ token batch answer, .exchange (.submit token batch) answer ∈ own →
    .exchange .token (.ok token) ∈ own ∧ ∃ i now p quantity, call.Concerns own i ∧
      .exchange .now (some now) ∈ own ∧ usagePayload i call.context now = .ok p ∧ batch = [p] ∧
      p.measured = [⟨instanceMeasure, quantity⟩] ∧ (quantity = 0 ↔ call.context.dryRun = true)
  /-- Where the instance is not found, not even a token is asked for. -/
  untried : ∀ id, (∃ e, .exchange (.instanceOf id) (.error e) ∈ own) ∨
    .exchange (.instanceOf id) (.ok none) ∈ own → meteredIn own = []
  fails_iff : ∀ result, rest = .done result → ∀ e, result = .error e ↔ call.Fails own e
  /-- A call that succeeds has found its instance, read the clock, was given a token, and has
  submitted its one record, of which nothing came back. -/
  succeeded : rest = .done (.ok ()) → ∃ i search now token p, call.Finds i search ∧
    usagePayload i call.context now = .ok p ∧
    own = search ++ [.exchange .now (some now), .exchange .token (.ok token),
      .exchange (.submit token [p]) (.ok [])]

section Finds

variable {i j : ServiceInstance} {call : SingleCall} {search own : List Happening}
  {rest : Action (Except ServiceError Unit)}

theorem SingleCall.Finds.meteredIn (h : call.Finds i search) : meteredIn search = [] := by
  cases h <;> rfl

/-- The call concerns the instance that it has found, and no other. -/
theorem SingleCall.Finds.concerns_iff (h : call.Finds i search)
    (billing : BillingReaches i call.context own rest) :
    call.Concerns (search ++ own) j ↔ j = i := by
  cases h with
  | bill ctx => exact eq_comm
  | final => exact eq_comm
  | byId id dryRun => simp [Concerns, billing.not_mem_instanceOf]

/-- The call breaks down only where the clock cannot be read, or its instance cannot be billed. -/
theorem SingleCall.Standing.of_crash {reason : Crash} (h : call.Standing own (.crash reason)) :
    .exchange .now none ∈ own ∨ ∃ i, call.Concerns own i ∧ ¬ i.Representable := by
  cases h with
  | searching id dryRun asks => exact absurd trivial asks
  | @found _ i search own _ finds billing =>
    rcases billing.of_crash with unclocked | undated
    · exact .inl (List.mem_append_right _ unclocked)
    · exact .inr ⟨i, (finds.concerns_iff billing).2 rfl, undated⟩

/-- A call that has found its instance was answered by nothing else in its search. -/
theorem SingleCall.Finds.not_mem_instanceOf (h : call.Finds i search)
    (billing : BillingReaches i call.context own rest) (id : String) :
    (∀ e, .exchange (.instanceOf id) (.error e) ∉ search ++ own) ∧
      .exchange (.instanceOf id) (.ok none) ∉ search ++ own := by
  cases h <;> simp [billing.not_mem_instanceOf]

/-- Anything else is asked after the search. -/
theorem SingleCall.Finds.mem_own {r : Request} {answer : r.Answer} (h : call.Finds i search)
    (other : ∀ id, r ≠ .instanceOf id) (member : .exchange r answer ∈ search ++ own) :
    .exchange r answer ∈ own := by
  cases h <;> simpa [other] using member

/-- A call that has found its instance fails as billing the instance fails. -/
theorem SingleCall.Finds.fails_iff (h : call.Finds i search)
    (billing : BillingReaches i call.context own rest) (e : ServiceError) :
    call.Fails (search ++ own) e ↔ .exchange .token (.error e) ∈ own ∨
      (∃ token batch, .exchange (.submit token batch) (.error e) ∈ own) ∨
      ∃ token batch f failures, .exchange (.submit token batch) (.ok (f :: failures)) ∈ own ∧
        billingFailed i.instanceId f.message = e := by
  constructor
  · rintro (lookup | lookup | refused | failed | ⟨concerns, back⟩)
    · exact absurd lookup ((h.not_mem_instanceOf billing _).1 e)
    · exact absurd lookup (h.not_mem_instanceOf billing _).2
    · exact .inl (h.mem_own (fun _ => nofun) refused)
    · exact .inr (.inl ⟨_, _, h.mem_own (fun _ => nofun) failed⟩)
    · obtain rfl := (h.concerns_iff billing).1 concerns
      exact .inr (.inr ⟨_, _, _, _, h.mem_own (fun _ => nofun) back, rfl⟩)
  · rintro (refused | ⟨token, batch, failed⟩ | ⟨token, batch, f, failures, back, rfl⟩)
    · exact .tokenless (List.mem_append_right _ refused)
    · exact .unsubmitted (List.mem_append_right _ failed)
    · exact .returned ((h.concerns_iff billing).2 rfl) (List.mem_append_right _ back)

/-- A call that has found its instance bills it, and does nothing else. -/
theorem SingleCall.Finds.billsAlone (h : call.Finds i search)
    (billing : BillingReaches i call.context own rest) : call.BillsAlone (search ++ own) rest where
  metered := by
    rw [UsageBilling.meteredIn, List.filterMap_append, ← UsageBilling.meteredIn, h.meteredIn,
      List.nil_append]
    exact billing.metered
  submitted token batch answer member := by
    obtain ⟨given, now, p, clock, billed, rfl⟩ :=
      billing.of_submit (h.mem_own (fun _ => nofun) member)
    refine ⟨List.mem_append_right _ given, i, now, p, _, (h.concerns_iff billing).2 rfl,
      List.mem_append_right _ clock, billed, rfl, usagePayload_measured billed, ?_⟩
    split <;> simp_all
  untried id := by
    rintro (⟨e, lookup⟩ | lookup)
    · exact absurd lookup ((h.not_mem_instanceOf billing id).1 e)
    · exact absurd lookup (h.not_mem_instanceOf billing id).2
  fails_iff := by
    rintro result rfl e
    rw [billing.fails_iff, h.fails_iff billing]
  succeeded := by
    rintro rfl
    obtain ⟨now, token, p, billed, rfl⟩ := billing.of_ok
    exact ⟨i, search, now, token, p, h, billed, rfl⟩

/-- A call whose search fails has done nothing but search. -/
theorem SingleCall.billsAlone_of_search {id : String}
    {answer : Except ServiceError (Option ServiceInstance)} {e : ServiceError}
    (fails_iff : ∀ e', e = e' ↔ call.Fails [.exchange (.instanceOf id) answer] e') :
    call.BillsAlone [.exchange (.instanceOf id) answer] (.done (.error e)) where
  metered := ⟨"", default, List.nil_prefix⟩
  submitted := by simp
  untried _ _ := rfl
  fails_iff := by
    rintro result ended e'
    cases ended
    rw [← fails_iff, Except.error.injEq]
  succeeded := nofun

/-- Wherever such a call stands, it has done nothing else. -/
theorem SingleCall.Standing.billsAlone (h : call.Standing own rest) : call.BillsAlone own rest := by
  cases h with
  | searching id dryRun asks =>
    refine ⟨⟨"", default, List.nil_prefix⟩, by simp, by simp, ?_, ?_⟩
    · rintro result rfl
      exact absurd trivial asks
    · rintro rfl
      exact absurd trivial asks
  | unanswered id dryRun e =>
    refine billsAlone_of_search fun e' => ⟨?_, ?_⟩
    · rintro rfl
      exact .unanswered List.mem_cons_self
    · rintro (lookup | lookup | refused | failed | ⟨-, back⟩) <;> simp_all
  | missing id dryRun =>
    refine billsAlone_of_search fun e' => ⟨?_, ?_⟩
    · rintro rfl
      exact .missing List.mem_cons_self
    · rintro (lookup | lookup | refused | failed | ⟨-, back⟩) <;> simp_all
  | found finds billing => exact finds.billsAlone billing

end Finds

/-! ## What the others see of it -/

/-- Billing one instance asks for this. -/
def Request.IsSingle : Request → Prop
  | .instanceOf _ | .now | .token | .submit _ _ => True
  | _ => False

/-- What has happened in all calls but `i`. -/
def Transcript.without (i : Nat) (t : Transcript) : Transcript :=
  t.filter (·.1 ≠ i)

namespace Transcript

variable {t : Transcript} {i j : Nat} {h : Happening}

@[simp] theorem without_append (i : Nat) (t t' : Transcript) :
    without i (t ++ t') = without i t ++ without i t' :=
  List.filter_append _ _

@[simp] theorem without_self : without i [(i, h)] = [] := by
  simp [without]

theorem without_other (other : j ≠ i) : without i [(j, h)] = [(j, h)] := by
  simp [without, other]

/-- Other calls have done the same in the rest. -/
theorem own_without (other : j ≠ i) (t : Transcript) : (t.without i).own j = t.own j := by
  rw [own, own, without, List.filter_filter]
  congr 2
  funext e
  by_cases same : e.1 = j <;> simp [same, other]

theorem chronicle_without_cons_self :
    (without i ((i, h) :: t)).chronicle = (without i t).chronicle := by
  simp [without]

theorem chronicle_without_cons (other : j ≠ i) :
    (without i ((j, h) :: t)).chronicle = h :: (without i t).chronicle := by
  simp [without, chronicle, other]

/-- What no happening of a call changes is the same without them. -/
theorem foldl_without {σ : Type} {f : σ → Happening → σ} (still : ∀ s, ∀ h ∈ t.own i, f s h = s)
    (s : σ) : (t.without i).chronicle.foldl f s = t.chronicle.foldl f s := by
  induction t generalizing s with
  | nil => rfl
  | cons e t ih =>
    obtain ⟨j, h⟩ := e
    show _ = (chronicle t).foldl f (f s h)
    by_cases this_one : j = i
    · subst this_one
      rw [own_cons_self] at still
      rw [chronicle_without_cons_self, still s h List.mem_cons_self]
      exact ih (fun s h member => still s h (List.mem_cons_of_mem _ member)) s
    · rw [own_cons_of_ne (Ne.symm this_one)] at still
      rw [chronicle_without_cons this_one]
      exact ih still (f s h)

/-- What is read off no happening of a call is the same without them. -/
theorem filterMap_without {α : Type} {f : Happening → Option α} (unread : ∀ h ∈ t.own i, f h = none) :
    (t.without i).chronicle.filterMap f = t.chronicle.filterMap f := by
  induction t with
  | nil => rfl
  | cons e t ih =>
    obtain ⟨j, h⟩ := e
    show _ = (h :: chronicle t).filterMap f
    by_cases this_one : j = i
    · subst this_one
      rw [own_cons_self] at unread
      rw [chronicle_without_cons_self, List.filterMap_cons_none (unread h List.mem_cons_self)]
      exact ih fun h member => unread h (List.mem_cons_of_mem _ member)
    · rw [own_cons_of_ne (Ne.symm this_one)] at unread
      rw [chronicle_without_cons this_one, List.filterMap_cons, List.filterMap_cons, ih unread]

end Transcript

/-- After both, the queue, the run guard and the counts are the same, and the same notifications were
sent. -/
structure Collaborators.Unmoved (c : Collaborators) (t t' : Transcript) : Prop where
  /-- The rows and the last id that was given. -/
  queue : c.queueAt t.chronicle = c.queueAt t'.chronicle
  guard : t.Active ↔ t'.Active
  /-- All counts, the depth of the queue and the number of runs among them. -/
  metrics : ∀ m : Metrics, m.along t.chronicle = m.along t'.chronicle
  notices : noticesIn t.chronicle = noticesIn t'.chronicle

section Unmoved

variable {c : Collaborators} {t : Transcript} {i : Nat}

/-- Queue, guard, counts and notifications do not notice the call. -/
theorem unmoved_without (c : Collaborators) (single : Asks Request.IsSingle (t.own i)) :
    c.Unmoved (t.without i) t where
  queue := by
    refine Transcript.foldl_without (f := FailureQueue.after) (fun q h member => ?_) c.queue
    obtain ⟨r, answer, rfl, asks⟩ := single h member
    cases r <;> first | rfl | cases asks
  guard := by
    have same : (t.without i).chronicle.foldl guardAfter false = t.chronicle.foldl guardAfter false := by
      refine Transcript.foldl_without (fun held h member => ?_) _
      obtain ⟨r, answer, rfl, asks⟩ := single h member
      cases r <;> first | rfl | cases asks
    rw [Transcript.Active, Transcript.Active, same]
  metrics m := by
    rw [Metrics.along, Metrics.along, Transcript.filterMap_without]
    intro h member
    obtain ⟨r, answer, rfl, asks⟩ := single h member
    cases r <;> first | rfl | cases asks
  notices := by
    refine Transcript.filterMap_without fun h member => ?_
    obtain ⟨r, answer, rfl, asks⟩ := single h member
    cases r <;> first | rfl | cases asks

end Unmoved

/-! ## Among other calls -/

section Interleaves

variable {c c' : Collaborators} {plan : BillingPlan} {t : Transcript} {activities : List Activity}
  {i : Nat} {call : SingleCall} {rest : Action (Except ServiceError Unit)}

/-- A call for one instance stands where its answers lead, unless it has broken down there. -/
theorem Interleaves.reaches (h : Interleaves c plan t activities)
    (here : activities[i]? = some ⟨.single call, rest⟩) :
    ∃ reached, call.program.run.Reaches (t.own i) reached ∧
      (rest = reached ∨ ∃ reason, rest = .crash reason) := by
  induction h generalizing rest with
  | start => simp at here
  | @call t activities before new ih =>
    rcases cases_of_begun here with old | ⟨rfl, same⟩
    · exact ih old
    · cases same
      rw [before.orderly.own_eq_nil le_rfl]
      exact ⟨_, .here _, .inl rfl⟩
  | @step t activities j other r next before there ih =>
    rcases cases_of_moved here with ⟨rfl, same⟩ | ⟨other_one, still⟩
    · cases same
      obtain ⟨_, reaches, rfl | ⟨_, ended⟩⟩ := ih there
      · rw [Transcript.own_snoc_self]
        exact ⟨_, reaches.snoc _, .inl rfl⟩
      · cases ended
    · rw [Transcript.own_snoc_of_ne other_one]
      exact ih still
  | @breakdown t activities j other r next left reason before there foreign unwinds ih =>
    rcases cases_of_moved here with ⟨rfl, same⟩ | ⟨-, still⟩
    · cases same
      obtain ⟨reached, reaches, rfl | ⟨_, ended⟩⟩ := ih there
      · have aloof := reaches.only call.program_aloof.only
        refine ⟨_, reaches, .inr ?_⟩
        generalize Program.ask (I := surroundings) r next = asking at unwinds aloof
        cases unwinds with
        | inside body =>
          have guard_aloof : Request.Aloof .releaseGuard :=
            Program.Only.of_ensuring (fun r => ⟨c.reply [] r⟩) aloof
          cases guard_aloof.1
        | outside => exact ⟨reason, rfl⟩
      · cases ended
    · exact ih still

/-- Call `i`, if it was made, bills this instance. -/
def OnlySingle (activities : List Activity) (i : Nat) (call : SingleCall) : Prop :=
  ∀ other, (activities.map (·.call))[i]? = some other → other = .single call

/-- All that happens in such a call is that what it asks is answered. -/
theorem Interleaves.own_single (h : Interleaves c plan t activities)
    (single : OnlySingle activities i call) : Asks Request.IsSingle (t.own i) := by
  cases at_i : activities[i]? with
  | none =>
    rw [h.orderly.own_eq_nil (List.getElem?_eq_none_iff.1 at_i)]
    exact .nil
  | some a =>
    obtain ⟨other, rest⟩ := a
    obtain rfl : other = .single call := single other (by simp [at_i])
    obtain ⟨_, reaches, -⟩ := h.reaches at_i
    have asks := call.program_asks (P := Request.IsSingle) (fun _ => trivial) trivial trivial
      fun _ _ => trivial
    exact reaches.asks asks.only

/-- The others are answered by `c'` without call `i` as they are by `c` with it. -/
def AnswersAlike (c c' : Collaborators) (i : Nat) (t : Transcript) : Prop :=
  ∀ (before after : Transcript) j r answer,
    t = before ++ (j, .exchange r answer) :: after → j ≠ i →
    (r.Aloof → c'.answer (before.without i).chronicle r = c.answer before.chronicle r) ∧
    (r.isQueue = true → c'.refusal (before.without i).chronicle r = c.refusal before.chronicle r)

theorem AnswersAlike.earlier {later : Transcript} (h : AnswersAlike c c' i (t ++ later)) :
    AnswersAlike c c' i t := by
  rintro before after j r answer rfl other
  exact h before (after ++ later) j r answer (by simp) other

/-- Where a call leaves queue and guard alone, what is answered by them is the same without it. -/
theorem Collaborators.reply_without {r : Request} (same_queue : c'.queue = c.queue)
    (single : Asks Request.IsSingle (t.own i))
    (answers : r.Aloof → c'.answer (t.without i).chronicle r = c.answer t.chronicle r)
    (refusals : r.isQueue = true →
      c'.refusal (t.without i).chronicle r = c.refusal t.chronicle r) :
    c'.reply (t.without i).chronicle r = c.reply t.chronicle r := by
  have unmoved := unmoved_without c single
  have queue : c'.queueAt (t.without i).chronicle = c.queueAt t.chronicle := by
    rw [← unmoved.queue, queueAt, queueAt, same_queue]
  cases r with
  | takeGuard => exact congrArg not (Bool.eq_iff_iff.2 unmoved.guard)
  | releaseGuard => rfl
  | page => simp only [reply, unlessRefused, queue, refusals rfl]
  | seed => simp only [reply, unlessRefused, queue, refusals rfl]
  | clear => simp only [reply, unlessRefused, refusals rfl]
  | listAll => simp only [reply, unlessRefused, queue, refusals rfl]
  | _ => exact answers ⟨rfl, rfl⟩

/-- The other calls, answered alike, go the same way where call `i` has not begun. -/
theorem Interleaves.without (h : Interleaves c plan t activities) (same_queue : c'.queue = c.queue)
    (single : OnlySingle activities i call) (alike : AnswersAlike c c' i t) :
    Interleaves c' plan (t.without i) (activities.set i ⟨.single call, call.program.run⟩) := by
  induction h with
  | start => exact .start
  | @call t activities before new ih =>
    have single_before : OnlySingle activities i call := fun other at_i => by
      refine single other ?_
      rw [List.map_append, List.getElem?_append_left (List.getElem?_eq_some_iff.1 at_i).1]
      exact at_i
    have earlier := (ih single_before alike).call new
    rw [List.set_append]
    split
    · exact earlier
    · next unmade =>
      rw [List.set_eq_of_length_le (Nat.le_of_not_lt unmade)] at earlier
      by_cases this_one : i = activities.length
      · obtain rfl : new = .single call := single new (by simp [this_one])
        rw [show i - activities.length = 0 by omega]
        exact earlier
      · rw [List.set_eq_of_length_le (by simp; omega)]
        exact earlier
  | @step t activities j other r next before there ih =>
    have single_before : OnlySingle activities i call := by
      rw [OnlySingle, map_call_set there] at single
      exact single
    have earlier := ih single_before alike.earlier
    by_cases this_one : j = i
    · subst this_one
      rw [List.set_set, Transcript.without_append, Transcript.without_self, List.append_nil]
      exact earlier
    · obtain ⟨answers, refusals⟩ := alike t [] j r _ rfl this_one
      have reply := Collaborators.reply_without same_queue (before.own_single single_before) answers refusals
      have still_there := there
      rw [← List.getElem?_set_ne (Ne.symm this_one)] at still_there
      rw [Transcript.without_append, Transcript.without_other this_one,
        List.set_comm _ _ this_one, ← reply]
      exact earlier.step still_there
  | @breakdown t activities j other r next left reason before there foreign unwinds ih =>
    have single_before : OnlySingle activities i call := by
      rw [OnlySingle, map_call_set there] at single
      exact single
    have earlier := ih single_before alike
    by_cases this_one : j = i
    · subst this_one
      rw [List.set_set]
      exact earlier
    · have still_there := there
      rw [← List.getElem?_set_ne (Ne.symm this_one)] at still_there
      rw [List.set_comm _ _ this_one]
      exact earlier.breakdown still_there foreign unwinds

/-- The instance of the call, as it may be found, can be billed. -/
def SingleCall.IsDated (c : Collaborators) : SingleCall → Prop
  | bill i _ => i.Representable
  | byId id _ => ∀ past i, c.answer past (.instanceOf id) = .ok (some i) → i.Representable
  | final i => i.Representable

/-- A call for one instance comes to a result from where it has got to, if the clock can be read and
two hours after the creation of its instance can be represented. -/
theorem Interleaves.single_returns (h : Interleaves c plan t activities)
    (here : activities[i]? = some ⟨.single call, rest⟩) (clock : ∀ past, c.answer past .now ≠ none)
    (dated : call.IsDated c) (unbroken : ∀ reason, rest ≠ .crash reason) :
    ∃ (own : List Happening) (result : Except ServiceError Unit),
      Interleaves c plan (t ++ own.map fun h => (i, h))
        (activities.set i ⟨.single call, .done result⟩) := by
  obtain ⟨own, result, later, moves⟩ := exists_moves c t here
  have completed := h.moves moves
  refine ⟨own, ?_⟩
  cases result with
  | ok result => exact ⟨result, completed⟩
  | error reason =>
    obtain ⟨_, reaches, rfl | ⟨reason, rfl⟩⟩ := h.reaches here
    · have all : Transcript.own i (t ++ own.map fun h => (i, h)) = t.own i ++ own := by
        rw [Transcript.own_append, Transcript.own_map]
      have crashed := (reaches.trans later).single.of_crash
      rw [← all] at crashed
      rcases crashed with unclocked | ⟨j, concerns, undated⟩
      · obtain ⟨past, answered⟩ := completed.answered (Transcript.mem_own.1 unclocked)
        exact absurd answered.symm (clock past)
      · refine absurd ?_ undated
        cases call with
        | bill => exact concerns ▸ dated
        | final => exact concerns ▸ dated
        | byId id dryRun =>
          obtain ⟨past, answered⟩ := completed.answered (Transcript.mem_own.1 concerns)
          exact dated past j answered.symm
    · exact absurd rfl (unbroken reason)

end Interleaves

/-- A call for one instance stays outside the queue. -/
structure StaysAside (c : Collaborators) (plan : BillingPlan) (t : Transcript)
    (activities : List Activity) (i : Nat) (call : SingleCall)
    (rest : Action (Except ServiceError Unit)) : Prop where
  /-- At every point all is as it would be without the call. -/
  unmoved : ∀ before after : Transcript, t = before ++ after → c.Unmoved (before.without i) before
  alone : call.BillsAlone (t.own i) rest
  /-- The call comes to a result, unless it breaks down where it waits for somebody else. -/
  returns : (∀ past, c.answer past .now ≠ none) → call.IsDated c → (∀ reason, rest ≠ .crash reason) →
    ∃ (own : List Happening) (result : Except ServiceError Unit),
      Interleaves c plan (t ++ own.map fun h => (i, h))
        (activities.set i ⟨.single call, .done result⟩)
  /-- The other calls, answered alike, do the same where this one has not begun: the queue is at
  every point the same. -/
  removable : ∀ c' : Collaborators, c'.queue = c.queue → AnswersAlike c c' i t →
    Interleaves c' plan (t.without i) (activities.set i ⟨.single call, call.program.run⟩) ∧
    (∀ j, j ≠ i → (t.without i).own j = t.own j) ∧
    ∀ before after : Transcript, t = before ++ after →
      c'.queueAt (before.without i).chronicle = c.queueAt before.chronicle

section StaysAside

variable {c : Collaborators} {plan : BillingPlan} {t : Transcript} {activities : List Activity}
  {i : Nat} {call : SingleCall} {rest : Action (Except ServiceError Unit)}

/-- Whatever calls are made and however they interleave, a call that bills one instance stays outside
the queue. -/
theorem single_stays_aside (interleaves : Interleaves c plan t activities)
    (here : activities[i]? = some ⟨.single call, rest⟩) :
    StaysAside c plan t activities i call rest := by
  have only : OnlySingle activities i call := fun other at_i => by simpa [here, eq_comm] using at_i
  have single := interleaves.own_single only
  have unmoved (before after : Transcript) (split : t = before ++ after) :
      c.Unmoved (before.without i) before := by
    refine unmoved_without c fun h member => single h ?_
    rw [split, Transcript.own_append]
    exact List.mem_append_left _ member
  refine ⟨unmoved, ?_, interleaves.single_returns here, fun c' same_queue alike =>
    ⟨interleaves.without same_queue only alike, fun j other => Transcript.own_without other t, ?_⟩⟩
  · obtain ⟨reached, reaches, rfl | ⟨reason, rfl⟩⟩ := interleaves.reaches here
    · exact reaches.single.billsAlone
    · exact { reaches.single.billsAlone with fails_iff := nofun, succeeded := nofun }
  · intro before after split
    rw [← (unmoved before after split).queue, Collaborators.queueAt, same_queue]
    rfl

end StaysAside

/-! ## A final bill in the middle of a run -/

namespace Overlapping

open RejectedQuietly (unnamed record)

def billedBetween : Transcript :=
  [(0, .exchange .takeGuard true), (1, .exchange .now (some ⟨0, 0⟩)),
    (0, .exchange .activeInstances (.ok [])), (1, .exchange .token (.ok "")),
    (0, .exchange .now (some ⟨0, 0⟩)), (1, .exchange (.submit "" [record]) (.ok [])),
    (0, .exchange .wallClock (.still ⟨0, 0⟩)), (0, .exchange (.seed []) (.ok ()))]

theorem interleaves_billedBetween : ∃ activities,
    Interleaves collaborators plan billedBetween activities ∧
    activities[1]? = some ⟨.single (.final unnamed), .done (.ok ())⟩ := by
  have begun : Interleaves collaborators plan [] _ :=
    .call (.call .start (.queued .scheduled)) (.single (.final unnamed))
  have taken := begun.step (i := 0) rfl
  have clocked := taken.step (i := 1) rfl
  have listed := clocked.step (i := 0) rfl
  have admitted := listed.step (i := 1) rfl
  have dated := admitted.step (i := 0) rfl
  have submitted := dated.step (i := 1) rfl
  have stamped := submitted.step (i := 0) rfl
  exact ⟨_, stamped.step (i := 0) rfl, rfl⟩

/-- The run goes on as it does without the bill. -/
theorem billed_between_stays_aside : ∃ activities,
    Interleaves collaborators plan billedBetween activities ∧
    StaysAside collaborators plan billedBetween activities 1 (.final unnamed) (.done (.ok ())) ∧
    ∃ others, Interleaves collaborators plan (billedBetween.without 1) others := by
  obtain ⟨activities, interleaves, here⟩ := interleaves_billedBetween
  have aside := single_stays_aside interleaves here
  have alike : AnswersAlike collaborators collaborators 1 billedBetween := by
    intro before after j r answer split other
    cases r <;> exact ⟨fun _ => rfl, fun _ => rfl⟩
  exact ⟨activities, interleaves, aside, _, (aside.removable collaborators rfl alike).1⟩

end Overlapping

end UsageBilling
