import UsageBilling.Reconciliation

/-!
# What programs ask

Some requests never occur in a program, whatever it is answered. The inner part
of a run leaves its frame alone: taking the run guard, giving it back and
counting the end of the run is the business of the call around it. A call that
bills one instance leaves the queue alone as well.

Other requests never come without a reason, and never late. The depth of the
queue is set where the queue was written, to the number of rows that were
written, before anything else is asked; and a summary that was handed over is
counted before anything else is asked, delivered or not.
-/

namespace UsageBilling

/-- Every question that the program may come to ask has the property. -/
def Program.Only {I : Interface} {α : Type} (P : I.Query → Prop) : Program I α → Prop
  | .done _ => True
  | .crash _ => True
  | .ask query next => P query ∧ ∀ answer, (next answer).Only P

/-- The request takes the run guard or gives it back. -/
def Request.isGuard : Request → Bool
  | .takeGuard | .releaseGuard => true
  | _ => false

/-- The request reads or writes the queue. -/
def Request.isQueue : Request → Bool
  | .page .. | .seed _ | .clear | .listAll => true
  | _ => false

/-- The request belongs to the frame of a run or to the metering client: the guard, the count of how a
run ended, or a count of the client. -/
def Request.isFrame : Request → Bool
  | .takeGuard | .releaseGuard | .observe (.run _) => true
  | .observe (.submission _) | .observe (.failures _ _) => true
  | _ => false

/-- The request leaves the run guard alone. -/
def Request.Free (r : Request) : Prop :=
  r.isGuard = false

/-- The request leaves the run guard and the queue alone. -/
def Request.Aloof (r : Request) : Prop :=
  r.isGuard = false ∧ r.isQueue = false

/-- The request belongs to the inner part of a run. -/
def Request.Inner (r : Request) : Prop :=
  r.isFrame = false

theorem Request.Inner.free {r : Request} (h : r.Inner) : r.Free := by
  cases r <;> first | rfl | cases h

/-! ## What has to be counted -/

/-- Something that has to be counted before anything else is asked. -/
inductive Due where
  /-- The queue was written, and holds so many rows. -/
  | depth (n : Nat)
  /-- A summary was handed over, and went out or did not. -/
  | escalation (status : String)
  deriving DecidableEq, Repr

/-- What has to be counted after this answer. -/
def Request.due : (r : Request) → r.Answer → Option Due
  | .seed failures, .ok _ => some (.depth failures.length)
  | .clear, .ok _ => some (.depth 0)
  | .notify _ _, .ok _ => some (.escalation "sent")
  | .notify _ _, .error _ => some (.escalation "failed")
  | _, _ => none

/-- The request sets the depth of the queue, or counts a summary. -/
def Request.isSettlement : Request → Bool
  | .observe (.depth _) | .observe (.escalation _) => true
  | _ => false

/-- The request settles what is due, or is no settlement if nothing is. -/
def Request.Settles (r : Request) : Option Due → Prop
  | none => r.isSettlement = false
  | some (.depth n) => r = .observe (.depth n)
  | some (.escalation status) => r = .observe (.escalation status)

/-- The request has nothing to do with what is due. -/
def Request.isNeutral : Request → Bool
  | .seed _ | .clear | .notify _ _ => false
  | r => !r.isSettlement

/-- A neutral request is no settlement. -/
theorem Request.settles_of_isNeutral {r : Request} (neutral : r.isNeutral = true) :
    r.Settles none := by
  cases r with
  | observe o => simpa [isNeutral, Settles] using neutral
  | _ => rfl

/-- Nothing is due after a neutral request, whatever the answer. -/
theorem Request.due_of_isNeutral {r : Request} (neutral : r.isNeutral = true) (answer : r.Answer) :
    r.due answer = none := by
  cases r <;> first | rfl | cases neutral

/-- The program asks only requests with the property, and settles what is due before anything else;
`owed` is due at its beginning, and nothing at its end. -/
def Program.Prompt {α : Type} (P : Request → Prop) : Option Due → Action α → Prop
  | owed, .done _ => owed = none
  | owed, .crash _ => owed = none
  | owed, .ask r next => P r ∧ r.Settles owed ∧ ∀ answer, (next answer).Prompt P (r.due answer)

namespace Program

section Prompt

variable {P Q : Request → Prop} {α β : Type} {p : Action α} {owed : Option Due}

/-- A prompt program asks only requests with the property. -/
theorem Prompt.only (h : p.Prompt P owed) : p.Only P := by
  induction p generalizing owed with
  | done => trivial
  | crash => trivial
  | ask r next ih => exact ⟨h.1, fun answer => ih answer (h.2.2 answer)⟩

theorem Prompt.mono (h : p.Prompt P owed) (weaker : ∀ r, P r → Q r) : p.Prompt Q owed := by
  induction p generalizing owed with
  | done => exact h
  | crash => exact h
  | ask r next ih => exact ⟨weaker r h.1, h.2.1, fun answer => ih answer (h.2.2 answer)⟩

/-- What is due is settled before the second program begins. -/
theorem Prompt.bind {f : α → Action β} (h : p.Prompt P owed) (h' : ∀ a, (f a).Prompt P none) :
    (p >>= f).Prompt P owed := by
  induction p generalizing owed with
  | done a =>
    obtain rfl : owed = none := h
    exact h' a
  | crash => exact h
  | ask r next ih => exact ⟨h.1, h.2.1, fun answer => ih answer (h.2.2 answer)⟩

/-- A neutral request makes nothing due. -/
theorem prompt_request {r : Request} {next : r.Answer → Action α} (property : P r)
    (neutral : r.isNeutral = true) (h : ∀ answer, (next answer).Prompt P none) :
    (Program.ask (I := surroundings) r next).Prompt P none := by
  refine ⟨property, Request.settles_of_isNeutral neutral, fun answer => ?_⟩
  rw [Request.due_of_isNeutral neutral]
  exact h answer

/-- The neutral request that is ensured comes when nothing is due any more. -/
theorem Prompt.ensuring {r : Request} (h : p.Prompt P owed) (property : P r)
    (neutral : r.isNeutral = true) : (Program.ensuring (I := surroundings) r p).Prompt P owed := by
  induction p generalizing owed with
  | done a =>
    obtain rfl : owed = none := h
    exact prompt_request property neutral fun _ => rfl
  | crash reason =>
    obtain rfl : owed = none := h
    exact prompt_request property neutral fun _ => rfl
  | ask q next ih => exact ⟨h.1, h.2.1, fun answer => ih answer (h.2.2 answer)⟩

end Prompt

/-- A program that ensures a question comes to ask it, if every question has some answer. -/
theorem Only.of_ensuring {I : Interface} {α : Type} {P : I.Query → Prop} {query : I.Query}
    {p : Program I α} (answers : ∀ q, Nonempty (I.Answer q)) (h : (p.ensuring query).Only P) :
    P query := by
  induction p with
  | done a => exact h.1
  | crash => exact h.1
  | ask q next ih =>
    obtain ⟨answer⟩ := answers q
    exact ih answer (h.2 answer)

end Program

namespace Billing

variable {P : Request → Prop} {α β : Type}

/-! ## Asking -/

theorem prompt_ask {r : Request} (property : P r) (neutral : r.isNeutral = true) :
    (ask r).Prompt P none :=
  Program.prompt_request property neutral fun _ => rfl

theorem prompt_always {p : Action α} (h : p.Prompt P none) : (always p).run.Prompt P none :=
  h.bind fun _ => rfl

/-- An error ends the program, and nothing is due then. -/
theorem prompt_then {p : Billing α} {f : α → Billing β} (h : p.run.Prompt P none)
    (h' : ∀ a, (f a).run.Prompt P none) : (p >>= f).run.Prompt P none := by
  refine h.bind fun outcome => ?_
  cases outcome with
  | ok a => exact h' a
  | error e => rfl

theorem prompt_alwaysThen {p : Action α} {f : α → Billing β} (h : p.Prompt P none)
    (h' : ∀ a, (f a).run.Prompt P none) : (always p >>= f).run.Prompt P none :=
  prompt_then (prompt_always h) h'

theorem prompt_discardThen {p : Action α} {f : Unit → Billing β} (h : p.Prompt P none)
    (h' : (f ()).run.Prompt P none) : (discard (always p) >>= f).run.Prompt P none :=
  prompt_then (prompt_then (prompt_always h) fun _ => rfl) fun _ => h'

theorem prompt_orCrash (value : Except Crash α) : (orCrash value).Prompt P none := by
  cases value <;> rfl

theorem prompt_readClock (property : P .now) : readClock.Prompt P none := by
  refine (prompt_ask property rfl).bind fun reading => ?_
  cases reading <;> rfl

/-- The queue is filled, its depth is set, and the program goes on. -/
theorem prompt_seedThen {failures : List UsageFailure} {f : Unit → Billing β} (write : P (.seed failures))
    (set : P (.observe (.depth failures.length))) (h : (f ()).run.Prompt P none) :
    (seed failures >>= fun _ => always (observe (.depth failures.length)) >>= f).run.Prompt P none := by
  refine ⟨write, rfl, fun answer => ?_⟩
  cases answer with
  | ok _ => exact ⟨set, rfl, fun _ => h⟩
  | error e => rfl

/-- The queue is emptied, its depth is set, and the program goes on. -/
theorem prompt_clearThen {f : Unit → Billing β} (write : P .clear) (set : P (.observe (.depth 0)))
    (h : (f ()).run.Prompt P none) :
    (clear >>= fun _ => always (observe (.depth 0)) >>= f).run.Prompt P none := by
  refine ⟨write, rfl, fun answer => ?_⟩
  cases answer with
  | ok _ => exact ⟨set, rfl, fun _ => h⟩
  | error e => rfl

/-! ## Runs -/

theorem prompt_reportUndecodable (records : List FailureRecord) :
    (reportUndecodable records).Prompt Request.Inner none := by
  induction records with
  | nil => rfl
  | cons r records ih => exact Program.Prompt.bind (prompt_ask rfl rfl) fun _ => ih

/-- A summary that is handed over is counted at once, delivered or not. -/
theorem prompt_dispatch (summary : Summary) : (dispatch summary).Prompt Request.Inner none := by
  refine ⟨rfl, rfl, fun answer => ?_⟩
  cases answer <;> exact ⟨rfl, rfl, fun _ => rfl⟩

/-- Rows that cannot be read are reported, if there are any, before what follows. -/
theorem prompt_reporting (plan : BillingPlan) (records : List FailureRecord)
    (weaker : ∀ r : Request, r.Inner → P r) {next : Unit → Billing β}
    (h : (next ()).run.Prompt P none) :
    (if (!records.isEmpty) = true then
      discard (always (escalateUndecodable plan records)) >>= next else next ()).run.Prompt P none := by
  split
  · exact prompt_discardThen ((prompt_dispatch _).mono weaker) h
  · exact h

theorem prompt_submitPage (token : String) (records : List FailureRecord) (pass : Pass) :
    (submitPage token records pass).run.Prompt Request.Inner none := by
  refine prompt_alwaysThen (prompt_reportUndecodable _) fun _ => ?_
  split
  · rfl
  · exact prompt_then (prompt_ask rfl rfl) fun _ => rfl

/-- A pass makes nothing due, from the first page to the last. -/
theorem prompt_passOver (token : String) (fuel : Nat) (scan : Scan) (pass : Pass) :
    (passOver token fuel scan pass).run.Prompt Request.Inner none := by
  induction fuel generalizing scan pass with
  | zero => rfl
  | succ fuel ih =>
    rw [passOver]
    split
    · rfl
    · refine prompt_then (prompt_ask rfl rfl) fun page => ?_
      split
      · rfl
      · exact prompt_then (prompt_submitPage _ _ _) fun pass => ih _ pass

theorem prompt_attemptToken : attemptToken.run.Prompt Request.Inner none := by
  refine Program.Prompt.bind (prompt_ask rfl rfl) fun answer => ?_
  cases answer with
  | ok token => rfl
  | error e => exact Program.Prompt.bind (prompt_ask rfl rfl) fun _ => rfl

/-- An attempt sets the depth of the queue as soon as it has written it. -/
theorem prompt_attempt (plan : BillingPlan) (number : Nat) :
    (attempt plan number).run.Prompt Request.Inner none := by
  refine prompt_then prompt_attemptToken fun token => prompt_then (prompt_passOver _ _ _ _) fun pass => ?_
  refine prompt_reporting plan pass.undecodable (fun _ => id) ?_
  split
  · exact prompt_clearThen rfl rfl rfl
  · exact prompt_seedThen rfl rfl rfl

theorem prompt_attempts (plan : BillingPlan) (more number : Nat) :
    (RetryPolicy.attemptsFrom (m := Program surroundings) (ask (.wait plan.retry.backoff))
      (fun n => (attempt plan n).run) more number).Prompt Request.Inner none := by
  induction more generalizing number with
  | zero =>
    rw [RetryPolicy.attemptsFrom]
    refine Program.Prompt.bind (prompt_attempt plan number) fun outcome => ?_
    rcases outcome with e | _ | last <;> rfl
  | succ more ih =>
    rw [RetryPolicy.attemptsFrom]
    refine Program.Prompt.bind (prompt_attempt plan number) fun outcome => ?_
    rcases outcome with e | _ | last
    · rfl
    · rfl
    · exact Program.Prompt.bind (prompt_ask rfl rfl) fun _ => ih (number + 1)

/-- The summary that escalates a run is counted before the run ends. -/
theorem prompt_attemptAndEscalate (plan : BillingPlan) (submitted : Nat) :
    (attemptAndEscalate plan submitted).run.Prompt Request.Inner none := by
  refine prompt_then (prompt_attempts plan _ _) fun outcome => ?_
  cases outcome with
  | succeeded attempts => rfl
  | exhausted attempts last => exact prompt_discardThen (prompt_dispatch _) rfl

/-- A scheduled call sets the depth of the queue as soon as it has seeded it. -/
theorem prompt_seedFromInstances : seedFromInstances.run.Prompt Request.Inner none := by
  refine prompt_then (prompt_ask rfl rfl) fun instances => ?_
  refine prompt_alwaysThen (prompt_readClock rfl) fun now => ?_
  refine prompt_alwaysThen (prompt_ask rfl rfl) fun clock => ?_
  refine prompt_alwaysThen (prompt_orCrash _) fun failures => ?_
  exact prompt_seedThen rfl rfl rfl

/-- A run is counted when nothing else is due. -/
theorem prompt_counted {run : Billing RunOutcome} (inner : ∀ r : Request, r.Inner → P r)
    (ends : ∀ name, P (.observe (.run name))) (h : run.run.Prompt Request.Inner none) :
    (counted run).run.Prompt P none := by
  refine (h.mono inner).bind fun result => ?_
  refine Program.Prompt.bind ?_ fun _ => rfl
  cases result <;> exact prompt_ask (ends _) rfl

/-! ## Single instances -/

/-- The call that bills an instance reads the clock, asks for a token and submits. -/
theorem prompt_billInstance (i : ServiceInstance) (ctx : BillingContext) (clock : P .now)
    (token : P .token) (submit : ∀ token batch, P (.submit token batch)) :
    (billInstance i ctx).run.Prompt P none := by
  refine prompt_alwaysThen (prompt_readClock clock) fun now => ?_
  refine prompt_alwaysThen (prompt_orCrash _) fun payload => ?_
  refine prompt_then (prompt_ask token rfl) fun token => ?_
  refine prompt_then (prompt_ask (submit _ _) rfl) fun failures => ?_
  cases failures <;> rfl

/-- The call that bills an instance by its id looks it up first. -/
theorem prompt_billInstanceId (id : String) (dryRun : Bool) (lookup : P (.instanceOf id))
    (clock : P .now) (token : P .token) (submit : ∀ token batch, P (.submit token batch)) :
    (billInstanceId id dryRun).run.Prompt P none := by
  refine prompt_then (prompt_ask lookup rfl) fun found => ?_
  cases found with
  | none => rfl
  | some i => exact prompt_billInstance i _ clock token submit

end Billing

end UsageBilling
