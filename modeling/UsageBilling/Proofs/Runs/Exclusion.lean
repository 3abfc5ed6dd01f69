import UsageBilling.Proofs.Requests
import UsageBilling.Proofs.Runs.Single

/-!
# Exclusion

Any number of calls are on their way at once. Each goes on from one request to
the next, in any order among them, and may break down where it waits for others.
The run guard admits one queue-backed call at a time: the call that has taken it
is the only one to touch the queue until it gives the guard back, which it does
however it ends. A call that finds the guard taken leaves at once.
-/

namespace UsageBilling

open Billing

/-! ## Calls on their way -/

/-- What a call that goes through the queue comes back with. -/
@[reducible] def Call.Outcome : Call → Type
  | scheduled => RunOutcome
  | byHand => List FailureRecord

/-- What the call does. -/
def Call.program (plan : BillingPlan) : (call : Call) → Billing call.Outcome
  | scheduled => runScheduled plan
  | byHand => retryOutstanding plan

/-- What the call comes back with if the guard is taken. -/
def Call.turnedAway : (call : Call) → Except ServiceError call.Outcome
  | scheduled => .ok .skipped
  | byHand => .error runInProgress

/-- A call of the service. -/
inductive ServiceCall where
  | queued (call : Call)
  | single (call : SingleCall)

namespace ServiceCall

/-- What the call comes back with. -/
@[reducible] def Outcome : ServiceCall → Type
  | queued call => call.Outcome
  | single _ => Unit

/-- What the call does. -/
def program (plan : BillingPlan) : (call : ServiceCall) → Billing call.Outcome
  | queued call => call.program plan
  | single call => call.program

end ServiceCall

/-- A call on its way, and what is left of it. -/
structure Activity where
  call : ServiceCall
  rest : Action (Except ServiceError call.Outcome)

/-- What has happened, earliest first, and in which call. -/
abbrev Transcript := List (Nat × Happening)

namespace Transcript

/-- What has happened, whoever did it. -/
def chronicle (t : Transcript) : Chronicle :=
  t.map (·.2)

/-- What has happened in call `i`. -/
def own (i : Nat) (t : Transcript) : List Happening :=
  (t.filter (·.1 = i)).map (·.2)

/-- The run guard is taken. -/
def Active (t : Transcript) : Prop :=
  t.chronicle.foldl guardAfter false = true

end Transcript

/-- A program that breaks down while the guard is protected: a part that ensures `query` still asks it,
any other ends there. -/
inductive Program.Unwinds {I : Interface} {α : Type} (query : I.Query) (reason : Crash) :
    Program I α → Program I α → Prop where
  | inside (body : Program I α) :
      Unwinds query reason (body.ensuring query) ((Program.crash reason).ensuring query)
  | outside {p : Program I α} (unprotected : ∀ body : Program I α, p ≠ body.ensuring query) :
      Unwinds query reason p (.crash reason)

/-- Somebody else is asked, who may break down: everything but the guard itself and the counters. -/
def Request.isForeign : Request → Bool
  | .takeGuard | .releaseGuard | .observe _ => false
  | _ => true

/-- Any interleaving of calls, and how far each of them has come. -/
inductive Interleaves (c : Collaborators) (plan : BillingPlan) :
    Transcript → List Activity → Prop where
  | start : Interleaves c plan [] []
  /-- One more call begins. -/
  | call {t : Transcript} {activities : List Activity} (before : Interleaves c plan t activities)
      (call : ServiceCall) :
      Interleaves c plan t (activities ++ [⟨call, (call.program plan).run⟩])
  /-- A call is answered and goes on to its next request. -/
  | step {t : Transcript} {activities : List Activity} {i : Nat} {call : ServiceCall} {r : Request}
      {next : r.Answer → Action (Except ServiceError call.Outcome)}
      (before : Interleaves c plan t activities)
      (here : activities[i]? = some ⟨call, .ask r next⟩) :
      Interleaves c plan (t ++ [(i, .exchange r (c.reply t.chronicle r))])
        (activities.set i ⟨call, next (c.reply t.chronicle r)⟩)
  /-- A call breaks down where it waits for somebody else. -/
  | breakdown {t : Transcript} {activities : List Activity} {i : Nat} {call : ServiceCall}
      {r : Request} {next : r.Answer → Action (Except ServiceError call.Outcome)}
      {rest : Action (Except ServiceError call.Outcome)} {reason : Crash}
      (before : Interleaves c plan t activities)
      (here : activities[i]? = some ⟨call, .ask r next⟩) (foreign : r.isForeign = true)
      (unwinds : Program.Unwinds (I := surroundings) .releaseGuard reason (.ask r next) rest) :
      Interleaves c plan t (activities.set i ⟨call, rest⟩)

/-! ## Holding the guard -/

/-- Whether a call holds the guard after something happened in it. -/
def heldAfter (held : Bool) : Happening → Bool
  | .exchange .takeGuard free => held || free
  | .exchange .releaseGuard _ => false
  | _ => held

/-- A call in which this has happened holds the guard. -/
def HasGuard (own : List Happening) : Prop :=
  own.foldl heldAfter false = true

/-- The happening touches the queue. -/
def Happening.touchesQueue : Happening → Bool
  | .exchange r _ => r.isQueue
  | .arrival .. => true
  | .ended _ => false

/-- All that happens is that such requests are answered. -/
def Asks (P : Request → Prop) (own : List Happening) : Prop :=
  ∀ h ∈ own, ∃ r answer, h = .exchange r answer ∧ P r

/-- The program returns this result and does no more than count something before. -/
inductive Returns {α : Type} (result : α) : Action α → Prop where
  | now : Returns result (.done result)
  | counting (o : Observation) {next : Unit → Action α} (rest : Returns result (next ())) :
      Returns result (.ask (.observe o) next)

/-- The program has come to its end, or broken down. -/
def Program.HasEnded {I : Interface} {α : Type} : Program I α → Prop
  | .ask _ _ => False
  | _ => True

section Guard

variable {own : List Happening} {P : Request → Prop}

theorem Asks.nil : Asks P [] :=
  List.forall_mem_nil _

theorem Asks.append {more : List Happening} (h : Asks P own) (h' : Asks P more) :
    Asks P (own ++ more) :=
  List.forall_mem_append.2 ⟨h, h'⟩

theorem Asks.singleton {r : Request} (h : P r) (answer : r.Answer) :
    Asks P [.exchange r answer] :=
  List.forall_mem_singleton.2 ⟨r, answer, rfl, h⟩

/-- A request that leaves the guard alone neither takes it nor gives it back. -/
theorem heldAfter_of_free {r : Request} (free : r.Free) (held : Bool) (answer : r.Answer) :
    heldAfter held (.exchange r answer) = held := by
  cases r <;> first | rfl | cases free

theorem guardAfter_of_free {r : Request} (free : r.Free) (held : Bool) (answer : r.Answer) :
    guardAfter held (.exchange r answer) = held := by
  cases r <;> first | rfl | cases free

theorem Asks.not_mem {r : Request} (h : Asks P own) (never : ¬ P r) (answer : r.Answer) :
    .exchange r answer ∉ own := by
  intro member
  obtain ⟨r', answer', same, asked⟩ := h _ member
  obtain ⟨rfl, -⟩ := Happening.exchange.inj same
  exact never asked

/-- Whoever leaves the guard alone holds it afterwards exactly if it was held before. -/
theorem Asks.foldl_heldAfter (h : Asks Request.Free own) (held : Bool) :
    own.foldl heldAfter held = held := by
  induction own generalizing held with
  | nil => rfl
  | cons happening own ih =>
    obtain ⟨⟨r, answer, rfl, free⟩, rest⟩ := List.forall_mem_cons.1 h
    rw [List.foldl_cons, heldAfter_of_free free, ih rest]

end Guard

/-! ## How far a call has come -/

/-- How far a call has come in which this has happened. -/
inductive Stands (plan : BillingPlan) : (call : ServiceCall) →
    Action (Except ServiceError call.Outcome) → List Happening → Prop where
  /-- It has not asked for the guard yet. -/
  | waiting (call : Call) : Stands plan (.queued call) (call.program plan).run []
  /-- It has found the guard taken. -/
  | leaving {call : Call} {rest : Action (Except ServiceError call.Outcome)} {own : List Happening}
      (returns : Returns call.turnedAway rest)
      (counted : Asks (fun r => ∃ o, r = .observe o) own) :
      Stands plan (.queued call) rest (.exchange .takeGuard false :: own)
  /-- It holds the guard. -/
  | holding {call : Call} {body : Action (Except ServiceError call.Outcome)} {own : List Happening}
      (only : body.Only Request.Free) (free : Asks Request.Free own) :
      Stands plan (.queued call) (Program.ensuring (I := surroundings) .releaseGuard body)
        (.exchange .takeGuard true :: own)
  /-- It has given the guard back. -/
  | released {call : Call} {rest : Action (Except ServiceError call.Outcome)} {own : List Happening}
      (ended : rest.HasEnded) (free : Asks Request.Free own) :
      Stands plan (.queued call) rest
        (.exchange .takeGuard true :: (own ++ [.exchange .releaseGuard ()]))
  /-- It bills a single instance. -/
  | aside {call : SingleCall} {rest : Action (Except ServiceError Unit)} {own : List Happening}
      (only : rest.Only Request.Aloof) (aloof : Asks Request.Aloof own) :
      Stands plan (.single call) rest own

/-- A call through the queue takes the guard first: it holds it throughout its body, or leaves. Beside
the inner part of a run, it counts how the run ended. -/
theorem Call.program_guarded (plan : BillingPlan) (call : Call) :
    ∃ busy body : Billing call.Outcome, call.program plan = guarded busy body ∧
      Returns call.turnedAway busy.run ∧
      ∀ P : Request → Prop, (∀ r : Request, r.Inner → P r) → (∀ name, P (.observe (.run name))) →
        busy.run.Prompt P none ∧ body.run.Prompt P none := by
  cases call with
  | scheduled =>
    refine ⟨skip, _, rfl, .counting _ .now, fun P inner ends => ⟨?_, prompt_counted inner ends ?_⟩⟩
    · exact prompt_alwaysThen (prompt_ask (ends _) rfl) fun _ => rfl
    · exact prompt_then prompt_seedFromInstances fun _ => prompt_attemptAndEscalate plan _
  | byHand =>
    refine ⟨throw runInProgress, _, rfl, .now, fun P inner ends => ⟨rfl, ?_⟩⟩
    refine prompt_then (prompt_ask (inner _ rfl) rfl) fun records => ?_
    refine prompt_alwaysThen (prompt_ask (inner _ rfl) rfl) fun stamp => ?_
    refine prompt_alwaysThen ((prompt_reportUndecodable _).mono inner) fun _ => ?_
    refine prompt_reporting plan _ inner (prompt_seedThen (inner _ rfl) (inner _ rfl) ?_)
    refine prompt_then (prompt_counted inner ends (prompt_attemptAndEscalate plan _)) fun outcome => ?_
    cases outcome <;> first | rfl | exact prompt_ask (inner _ rfl) rfl

/-- What billing one instance asks at all. -/
theorem SingleCall.program_asks {P : Request → Prop} (call : SingleCall)
    (lookup : ∀ id, P (.instanceOf id)) (clock : P .now) (token : P .token)
    (submit : ∀ token batch, P (.submit token batch)) : call.program.run.Prompt P none := by
  cases call with
  | bill i ctx => exact prompt_billInstance i ctx clock token submit
  | byId id dryRun => exact prompt_billInstanceId id dryRun (lookup id) clock token submit
  | final i => exact prompt_billInstance i _ clock token submit

/-- A call for one instance leaves the guard and the queue alone. -/
theorem SingleCall.program_aloof (call : SingleCall) :
    call.program.run.Prompt Request.Aloof none :=
  call.program_asks (fun _ => ⟨rfl, rfl⟩) ⟨rfl, rfl⟩ ⟨rfl, rfl⟩ fun _ _ => ⟨rfl, rfl⟩

/-- What a call through the queue asks at all. -/
theorem Call.program_asks {P : Request → Prop} (plan : BillingPlan) (call : Call)
    (inner : ∀ r : Request, r.Inner → P r) (ends : ∀ name, P (.observe (.run name)))
    (take : P .takeGuard) (release : P .releaseGuard) : (call.program plan).run.Prompt P none := by
  obtain ⟨busy, body, same, -, prompt⟩ := call.program_guarded plan
  obtain ⟨aside, inside⟩ := prompt P inner ends
  rw [same]
  refine Program.prompt_request take rfl fun free => ?_
  cases free with
  | false => exact aside
  | true => exact inside.ensuring release rfl

/-- Every call settles what is due before it asks anything else. -/
theorem ServiceCall.program_prompt (plan : BillingPlan) (call : ServiceCall) :
    (call.program plan).run.Prompt (fun _ => True) none := by
  cases call with
  | single call => exact call.program_aloof.mono fun _ _ => trivial
  | queued call =>
    exact call.program_asks plan (fun _ _ => trivial) (fun _ => trivial) trivial trivial

section Stands

variable {plan : BillingPlan} {call : ServiceCall} {own : List Happening} {r : Request}
  {rest : Action (Except ServiceError call.Outcome)}
  {next : r.Answer → Action (Except ServiceError call.Outcome)}

/-- What a call that has not asked for the guard yet asks first, and how it goes on. -/
theorem Call.program_run (plan : BillingPlan) (call : Call) :
    ∃ busy body : Action (Except ServiceError call.Outcome), (call.program plan).run =
        .ask .takeGuard (fun free => if free then
          Program.ensuring (I := surroundings) .releaseGuard body else busy) ∧
      Returns call.turnedAway busy ∧ body.Only Request.Free := by
  obtain ⟨busy, body, same, returns, prompt⟩ := call.program_guarded plan
  obtain ⟨-, inside⟩ := prompt Request.Free (fun _ => Request.Inner.free) (fun _ => rfl)
  refine ⟨busy.run, body.run, ?_, returns, inside.only⟩
  rw [same]
  rfl

/-- A call that is answered goes on. -/
theorem Stands.step (h : Stands plan call rest own) (asks : rest = .ask r next) (answer : r.Answer) :
    Stands plan call (next answer) (own ++ [.exchange r answer]) := by
  cases h with
  | waiting call =>
    obtain ⟨busy, body, same, returns, free⟩ := call.program_run plan
    cases same.symm.trans asks
    cases answer with
    | true => exact .holding free .nil
    | false => exact .leaving returns .nil
  | leaving returns counted =>
    cases returns with
    | now => cases asks
    | counting o returns =>
      cases asks
      exact .leaving returns (counted.append (.singleton ⟨o, rfl⟩ answer))
  | @holding _ body _ only free =>
    cases body with
    | done a =>
      cases asks
      exact .released trivial free
    | crash reason =>
      cases asks
      exact .released trivial free
    | ask q k =>
      cases asks
      exact .holding (only.2 answer) (free.append (.singleton only.1 answer))
  | released ended =>
    subst asks
    cases ended
  | aside only aloof =>
    subst asks
    exact .aside (only.2 answer) (aloof.append (.singleton only.1 answer))

/-- A call that breaks down gives the guard back if it holds it. -/
theorem Stands.breakdown {rest' : Action (Except ServiceError call.Outcome)} {reason : Crash}
    (answers : ∀ r : Request, Nonempty r.Answer) (h : Stands plan call rest own)
    (asks : rest = .ask r next) (foreign : r.isForeign = true)
    (unwinds : Program.Unwinds (I := surroundings) .releaseGuard reason rest rest') :
    Stands plan call rest' own := by
  cases h with
  | waiting call =>
    obtain ⟨busy, body, same, -⟩ := call.program_run plan
    cases same.symm.trans asks
    cases foreign
  | leaving returns =>
    cases returns with
    | now => cases asks
    | counting o =>
      cases asks
      cases foreign
  | @holding _ body _ only free =>
    generalize same : Program.ensuring (I := surroundings) .releaseGuard body = protected_rest
      at unwinds
    cases unwinds with
    | inside => exact .holding trivial free
    | outside unprotected => exact absurd same.symm (unprotected body)
  | released ended =>
    subst asks
    cases ended
  | aside only aloof =>
    cases unwinds with
    | inside body =>
      have guard_aloof : Request.Aloof .releaseGuard := Program.Only.of_ensuring answers only
      cases guard_aloof.1
    | outside => exact .aside trivial aloof

/-- Who has taken the guard holds it as long as it is left alone. -/
theorem hasGuard_holding (free : Asks Request.Free own) :
    HasGuard (.exchange .takeGuard true :: own) := by
  rw [HasGuard, List.foldl_cons, free.foldl_heldAfter]
  rfl

/-- Only a call that holds the guard touches the queue or gives the guard back. -/
theorem Stands.hasGuard (h : Stands plan call rest own) (asks : rest = .ask r next)
    (inside : r.isQueue = true ∨ r = .releaseGuard) : HasGuard own := by
  cases h with
  | waiting call =>
    obtain ⟨busy, body, same, -⟩ := call.program_run plan
    cases same.symm.trans asks
    rcases inside with ended | ended <;> cases ended
  | leaving returns =>
    cases returns with
    | now => cases asks
    | counting o =>
      cases asks
      rcases inside with ended | ended <;> cases ended
  | holding only free => exact hasGuard_holding free
  | released ended =>
    subst asks
    cases ended
  | aside only =>
    subst asks
    rcases inside with queue | rfl
    · rw [only.1.2] at queue
      cases queue
    · cases only.1.1

/-- A call that has ended holds the guard no longer. -/
theorem Stands.freed (h : Stands plan call rest own) (ended : rest.HasEnded) : ¬ HasGuard own := by
  unfold HasGuard
  cases h with
  | waiting call => nofun
  | leaving _ counted =>
    have free : Asks Request.Free _ := fun happening member => by
      obtain ⟨_, answer, rfl, o, rfl⟩ := counted happening member
      exact ⟨.observe o, answer, rfl, rfl⟩
    rw [List.foldl_cons, free.foldl_heldAfter]
    nofun
  | @holding _ body _ _ _ => cases body <;> cases ended
  | released _ free =>
    rw [List.foldl_cons, List.foldl_append, free.foldl_heldAfter]
    nofun
  | aside _ aloof =>
    have free : Asks Request.Free own := fun happening member => by
      obtain ⟨r, answer, rfl, alone⟩ := aloof happening member
      exact ⟨r, answer, rfl, alone.1⟩
    rw [free.foldl_heldAfter]
    nofun

/-- A call that finds the guard taken does nothing but count this, and returns. -/
theorem Stands.of_refused {call : Call} {rest : Action (Except ServiceError call.Outcome)}
    (h : Stands plan (.queued call) rest own) (refused : .exchange .takeGuard false ∈ own) :
    Returns call.turnedAway rest ∧
      ∀ h ∈ own, h = .exchange .takeGuard false ∨ ∃ o, h = .exchange (.observe o) () := by
  have not_free : ¬ Request.Free .takeGuard := nofun
  cases h with
  | waiting => cases refused
  | leaving returns counted =>
    refine ⟨returns, List.forall_mem_cons.2 ⟨.inl rfl, fun happening member => .inr ?_⟩⟩
    obtain ⟨_, _, rfl, o, rfl⟩ := counted happening member
    exact ⟨o, rfl⟩
  | holding _ free =>
    rcases List.mem_cons.1 refused with ended | later
    · cases ended
    · exact absurd later (free.not_mem not_free _)
  | released _ free =>
    rcases List.mem_cons.1 refused with ended | later
    · cases ended
    rcases List.mem_append.1 later with body | ended
    · exact absurd body (free.not_mem not_free _)
    · cases List.mem_singleton.1 ended

end Stands

/-! ## All calls together -/

namespace Transcript

variable {t : Transcript} {i j : Nat} {h : Happening}

theorem own_append (i : Nat) (t t' : Transcript) : own i (t ++ t') = own i t ++ own i t' := by
  simp [own]

@[simp] theorem mem_own : h ∈ own i t ↔ (i, h) ∈ t := by
  simp [own]

theorem own_cons_self : own i ((i, h) :: t) = h :: own i t := by
  simp [own]

theorem own_cons_of_ne (other : j ≠ i) : own j ((i, h) :: t) = own j t := by
  simp [own, Ne.symm other]

theorem own_snoc_self : own i (t ++ [(i, h)]) = own i t ++ [h] := by
  simp [own]

theorem own_snoc_of_ne (other : j ≠ i) : own j (t ++ [(i, h)]) = own j t := by
  simp [own, Ne.symm other]

/-- Whether a call holds the guard is decided by what it has done itself. -/
theorem hasGuard_snoc_self :
    HasGuard (own i (t ++ [(i, h)])) ↔ heldAfter ((own i t).foldl heldAfter false) h = true := by
  rw [own_snoc_self, HasGuard, List.foldl_append]
  rfl

/-- Whether the guard is taken is decided by all calls. -/
theorem active_snoc : Active (t ++ [(i, h)]) ↔
    guardAfter (t.chronicle.foldl guardAfter false) h = true := by
  simp [Active, chronicle]

/-- One call at most holds the guard, and the guard is taken exactly while one does. -/
structure Exclusive (t : Transcript) : Prop where
  one_holder : ∀ i j, HasGuard (own i t) → HasGuard (own j t) → i = j
  active_iff : Active t ↔ ∃ i, HasGuard (own i t)

/-- A request that leaves the guard alone changes nothing. -/
theorem Exclusive.free (ex : Exclusive t) {r : Request} (free : r.Free) (answer : r.Answer) :
    Exclusive (t ++ [(i, .exchange r answer)]) := by
  have same (j : Nat) : HasGuard (own j (t ++ [(i, .exchange r answer)])) ↔ HasGuard (own j t) := by
    by_cases this_one : j = i
    · rw [this_one, hasGuard_snoc_self, heldAfter_of_free free]
      rfl
    · rw [own_snoc_of_ne this_one]
  refine ⟨fun j k => ?_, ?_⟩
  · rw [same, same]
    exact ex.one_holder j k
  · rw [active_snoc, guardAfter_of_free free]
    simpa only [same, Active] using ex.active_iff

/-- The guard is given to a call that asks for it exactly if nobody holds it. -/
theorem Exclusive.take (ex : Exclusive t) :
    Exclusive (t ++ [(i, .exchange .takeGuard (!t.chronicle.foldl guardAfter false))]) := by
  have taken : Active (t ++ [(i, .exchange .takeGuard (!t.chronicle.foldl guardAfter false))]) :=
    active_snoc.2 rfl
  cases active : t.chronicle.foldl guardAfter false with
  | true =>
    rw [active] at taken
    have same (j : Nat) : HasGuard (own j (t ++ [(i, .exchange .takeGuard (!true))])) ↔
        HasGuard (own j t) := by
      by_cases this_one : j = i
      · rw [this_one, hasGuard_snoc_self, Bool.not_true]
        simp [heldAfter, HasGuard]
      · rw [own_snoc_of_ne this_one]
    refine ⟨fun j k => ?_, ?_⟩
    · rw [same, same]
      exact ex.one_holder j k
    · simp only [same]
      exact iff_of_true taken (ex.active_iff.1 active)
  | false =>
    rw [active] at taken
    have nobody (j : Nat) : ¬ HasGuard (own j t) := fun holds => by
      have absurd_active : Active t := ex.active_iff.2 ⟨j, holds⟩
      rw [Active, active] at absurd_active
      cases absurd_active
    have only_this (j : Nat) : HasGuard (own j (t ++ [(i, .exchange .takeGuard (!false))])) ↔
        j = i := by
      by_cases this_one : j = i
      · rw [this_one, hasGuard_snoc_self]
        simp [heldAfter]
      · rw [own_snoc_of_ne this_one]
        exact iff_of_false (nobody j) this_one
    refine ⟨fun j k => ?_, ?_⟩
    · rw [only_this, only_this]
      rintro rfl rfl
      rfl
    · simp only [only_this]
      exact iff_of_true taken ⟨i, rfl⟩

/-- When the holder gives the guard back, nobody holds it. -/
theorem Exclusive.release (ex : Exclusive t) (holds : HasGuard (own i t)) :
    Exclusive (t ++ [(i, .exchange .releaseGuard ())]) := by
  have nobody (j : Nat) : ¬ HasGuard (own j (t ++ [(i, .exchange .releaseGuard ())])) := by
    by_cases this_one : j = i
    · rw [this_one, hasGuard_snoc_self]
      nofun
    · rw [own_snoc_of_ne this_one]
      exact fun other => this_one (ex.one_holder j i other holds)
  refine ⟨fun j _ holds_after => absurd holds_after (nobody j), iff_of_false ?_ ?_⟩
  · rw [active_snoc]
    nofun
  · rintro ⟨j, holds_after⟩
    exact nobody j holds_after

end Transcript

/-- Every call stands somewhere, and one at most holds the guard. -/
structure Orderly (plan : BillingPlan) (t : Transcript) (activities : List Activity) : Prop where
  stands : ∀ i call rest, activities[i]? = some ⟨call, rest⟩ → Stands plan call rest (t.own i)
  known : ∀ e ∈ t, e.1 < activities.length
  exclusive : t.Exclusive

/-- A call on its way was on its way before, or has just been made. -/
theorem cases_of_begun {activities : List Activity} {new activity : Activity} {j : Nat}
    (at_j : (activities ++ [new])[j]? = some activity) :
    activities[j]? = some activity ∨ j = activities.length ∧ activity = new := by
  rw [List.getElem?_append] at at_j
  split at at_j
  · exact .inl at_j
  · obtain ⟨position, same⟩ := List.getElem?_eq_some_iff.1 at_j
    rw [List.getElem_singleton] at same
    rw [List.length_singleton] at position
    exact .inr ⟨by omega, same.symm⟩

/-- A call on its way is the one that has gone on, or stands where it stood. -/
theorem cases_of_moved {activities : List Activity} {moved activity : Activity} {i j : Nat}
    (at_j : (activities.set i moved)[j]? = some activity) :
    j = i ∧ activity = moved ∨ j ≠ i ∧ activities[j]? = some activity := by
  by_cases same : j = i
  · subst same
    have known := (List.getElem?_eq_some_iff.1 at_j).1
    rw [List.length_set] at known
    rw [List.getElem?_set_self known, Option.some.injEq] at at_j
    exact .inl ⟨rfl, at_j.symm⟩
  · rw [List.getElem?_set_ne (Ne.symm same)] at at_j
    exact .inr ⟨same, at_j⟩

section Orderly

variable {c : Collaborators} {plan : BillingPlan} {t : Transcript} {activities : List Activity}
  {i : Nat} {call : ServiceCall} {r : Request}
  {next : r.Answer → Action (Except ServiceError call.Outcome)}

/-- Nothing has happened yet, and nobody holds the guard. -/
theorem Orderly.start : Orderly plan [] [] where
  stands := by simp
  known := List.forall_mem_nil _
  exclusive := ⟨fun _ _ => nofun, iff_of_false nofun (by rintro ⟨_, ended⟩; cases ended)⟩

/-- In a call that was not made, nothing has happened. -/
theorem Orderly.own_eq_nil (ordered : Orderly plan t activities) (unmade : activities.length ≤ i) :
    t.own i = [] := by
  rw [Transcript.own, List.map_eq_nil_iff, List.filter_eq_nil_iff]
  intro e member
  have below := ordered.known e member
  simp only [decide_eq_true_eq]
  omega

/-- A call that begins does not hold the guard. -/
theorem Orderly.begin (ordered : Orderly plan t activities) (call : ServiceCall) :
    Orderly plan t (activities ++ [⟨call, (call.program plan).run⟩]) where
  stands j call' rest at_j := by
    rcases cases_of_begun at_j with old | ⟨rfl, same⟩
    · exact ordered.stands j call' rest old
    · cases same
      rw [ordered.own_eq_nil le_rfl]
      cases call with
      | queued call => exact .waiting call
      | single call => exact .aside call.program_aloof.only .nil
  known e member := by
    have below := ordered.known e member
    rw [List.length_append]
    omega
  exclusive := ordered.exclusive

/-- Where a call has got to now, all others stand where they stood. -/
theorem Orderly.stands_set {rest : Action (Except ServiceError call.Outcome)} {t' : Transcript}
    (ordered : Orderly plan t activities) (this_one : Stands plan call rest (t'.own i))
    (others : ∀ j, j ≠ i → t'.own j = t.own j) :
    ∀ j call' rest', (activities.set i ⟨call, rest⟩)[j]? = some ⟨call', rest'⟩ →
      Stands plan call' rest' (t'.own j) := by
  intro j call' rest' at_j
  rcases cases_of_moved at_j with ⟨rfl, same⟩ | ⟨other, still⟩
  · cases same
    exact this_one
  · rw [others j other]
    exact ordered.stands j call' rest' still

/-- A call that is answered leaves the others where they stand. -/
theorem Orderly.step (ordered : Orderly plan t activities)
    (here : activities[i]? = some ⟨call, .ask r next⟩) :
    Orderly plan (t ++ [(i, .exchange r (c.reply t.chronicle r))])
      (activities.set i ⟨call, next (c.reply t.chronicle r)⟩) := by
  obtain ⟨known, -⟩ := List.getElem?_eq_some_iff.1 here
  have stood := ordered.stands i call _ here
  refine ⟨ordered.stands_set ?_ fun j other => Transcript.own_snoc_of_ne other, ?_, ?_⟩
  · rw [Transcript.own_snoc_self]
    exact stood.step rfl _
  · intro e member
    rw [List.length_set]
    rcases List.mem_append.1 member with old | new
    · exact ordered.known e old
    · rw [List.mem_singleton.1 new]
      exact known
  · cases guard : r.isGuard with
    | false => exact ordered.exclusive.free guard _
    | true =>
      cases r with
      | takeGuard => exact ordered.exclusive.take
      | releaseGuard => exact ordered.exclusive.release (stood.hasGuard rfl (.inr rfl))
      | _ => cases guard

theorem Orderly.breakdown {rest : Action (Except ServiceError call.Outcome)} {reason : Crash}
    (answers : ∀ r : Request, Nonempty r.Answer) (ordered : Orderly plan t activities)
    (here : activities[i]? = some ⟨call, .ask r next⟩) (foreign : r.isForeign = true)
    (unwinds : Program.Unwinds (I := surroundings) .releaseGuard reason (.ask r next) rest) :
    Orderly plan t (activities.set i ⟨call, rest⟩) := by
  have stood := ordered.stands i call _ here
  refine ⟨ordered.stands_set (stood.breakdown answers rfl foreign unwinds) fun _ _ => rfl,
    fun e member => ?_, ordered.exclusive⟩
  rw [List.length_set]
  exact ordered.known e member

/-- Every interleaving is orderly. -/
theorem Interleaves.orderly (h : Interleaves c plan t activities) : Orderly plan t activities := by
  induction h with
  | start => exact .start
  | call _ call ih => exact ih.begin call
  | step _ here ih => exact ih.step here
  | breakdown _ here foreign unwinds ih =>
    exact ih.breakdown (fun r => ⟨c.reply [] r⟩) here foreign unwinds

/-- Whatever has happened was asked by a call in an interleaving that has come so far. -/
theorem Interleaves.asked {before after : Transcript} {happening : Happening}
    (h : Interleaves c plan t activities) (split : t = before ++ (i, happening) :: after) :
    ∃ activities call r next, Interleaves c plan before activities ∧
      activities[i]? = some ⟨call, .ask r next⟩ ∧
      happening = .exchange r (c.reply before.chronicle r) := by
  induction h generalizing after with
  | start => simp at split
  | call _ _ ih => exact ih split
  | breakdown _ _ _ _ ih => exact ih split
  | @step t activities j call r next earlier here ih =>
    rcases List.eq_nil_or_concat after with rfl | ⟨after, last, rfl⟩
    · obtain ⟨rfl, same⟩ := List.append_inj' split rfl
      cases same
      exact ⟨activities, call, r, next, earlier, here, rfl⟩
    · rw [List.concat_eq_append, ← List.cons_append, ← List.append_assoc] at split
      obtain ⟨rfl, -⟩ := List.append_inj' split rfl
      exact ih rfl

end Orderly

/-! ## One run at a time -/

/-- What holds in any interleaving. -/
structure OneAtATime (c : Collaborators) (t : Transcript) (activities : List Activity) : Prop where
  one_holder : ∀ i j, HasGuard (t.own i) → HasGuard (t.own j) → i = j
  active_iff : t.Active ↔ ∃ i, HasGuard (t.own i)
  /-- The guard is refused exactly while some call holds it. -/
  refused_iff : ∀ (before after : Transcript) i free,
    t = before ++ (i, .exchange .takeGuard free) :: after →
    (free = false ↔ ∃ j, HasGuard (before.own j))
  /-- From taking the guard to giving it back, a call is the only one to touch the queue. -/
  queue_own : ∀ (before during after : Transcript) i,
    t = before ++ (i, .exchange .takeGuard true) :: (during ++ after) →
    (i, .exchange .releaseGuard ()) ∉ during →
    ∀ j h, (j, h) ∈ during → h.touchesQueue = true → j = i
  /-- All that time, the queue is what this call has made of the one that it found. -/
  generation_own : ∀ (before during after : Transcript) i,
    t = before ++ (i, .exchange .takeGuard true) :: (during ++ after) →
    (i, .exchange .releaseGuard ()) ∉ during →
    c.queueAt (Transcript.chronicle (before ++ (i, .exchange .takeGuard true) :: during)) =
      (c.queueAt before.chronicle).afterAll (during.own i)
  /-- A call that finds the guard taken has done nothing but count this, and returns. -/
  turned_away : ∀ i call rest, activities[i]? = some ⟨.queued call, rest⟩ →
    (i, .exchange .takeGuard false) ∈ t → Returns call.turnedAway rest ∧
      ∀ h ∈ t.own i, h = .exchange .takeGuard false ∨ ∃ o, h = .exchange (.observe o) ()
  /-- A call that has ended, or broken down, holds the guard no longer. -/
  freed : ∀ i call rest, activities[i]? = some ⟨call, rest⟩ → rest.HasEnded →
    ¬ HasGuard (t.own i)
  /-- The next call is given the guard if nobody holds it. -/
  admits : (∀ i, ¬ HasGuard (t.own i)) → c.reply t.chronicle .takeGuard = true

section OneAtATime

variable {c : Collaborators} {plan : BillingPlan} {t before during after : Transcript}
  {activities : List Activity} {i j : Nat} {h : Happening}

/-- Whoever touches the queue holds the guard, and nobody else does. -/
theorem Interleaves.only_holder (interleaves : Interleaves c plan t activities)
    (split : t = before ++ (j, h) :: after) (touches : h.touchesQueue = true)
    (holds : HasGuard (before.own i)) : j = i := by
  obtain ⟨activities, call, r, next, earlier, here, rfl⟩ := interleaves.asked split
  have ordered := earlier.orderly
  exact ordered.exclusive.one_holder j i
    ((ordered.stands j call _ here).hasGuard rfl (.inl touches)) holds

/-- The guard is refused exactly while some call holds it. -/
theorem Interleaves.refused_iff {free : Bool} (interleaves : Interleaves c plan t activities)
    (split : t = before ++ (i, .exchange .takeGuard free) :: after) :
    free = false ↔ ∃ j, HasGuard (before.own j) := by
  obtain ⟨activities, call, r, next, earlier, here, same⟩ := interleaves.asked split
  obtain ⟨rfl, answered⟩ := Happening.exchange.inj same
  obtain rfl := eq_of_heq answered
  rw [← earlier.orderly.exclusive.active_iff]
  show (!before.chronicle.foldl guardAfter false) = false ↔
    before.chronicle.foldl guardAfter false = true
  rw [Bool.not_eq_false']

/-- A call that has taken the guard holds it until it gives it back. -/
theorem hasGuard_of_unreleased (unreleased : (i, .exchange .releaseGuard ()) ∉ during) :
    HasGuard (Transcript.own i (before ++ (i, .exchange .takeGuard true) :: during)) := by
  have kept (own : List Happening) (none : .exchange .releaseGuard () ∉ own) :
      own.foldl heldAfter true = true := by
    induction own with
    | nil => rfl
    | cons h own ih =>
      obtain ⟨not_this, others⟩ := not_or.1 (mt List.mem_cons.2 none)
      have still : heldAfter true h = true := by
        unfold heldAfter
        split
        · exact Bool.true_or _
        · exact absurd rfl not_this
        · rfl
      rw [List.foldl_cons, still, ih others]
  have taken (held : Bool) : heldAfter held (.exchange .takeGuard true) = true := Bool.or_true held
  rw [HasGuard, Transcript.own_append, Transcript.own_cons_self, List.foldl_append, List.foldl_cons,
    taken]
  exact kept _ (mt Transcript.mem_own.1 unreleased)

/-- While a call holds the guard, it is the only one to touch the queue. -/
theorem Interleaves.queue_own (interleaves : Interleaves c plan t activities)
    (split : t = before ++ (i, .exchange .takeGuard true) :: (during ++ after))
    (unreleased : (i, .exchange .releaseGuard ()) ∉ during) (member : (j, h) ∈ during)
    (touches : h.touchesQueue = true) : j = i := by
  obtain ⟨earlier, later, rfl⟩ := List.append_of_mem member
  have split_there : t = (before ++ (i, .exchange .takeGuard true) :: earlier) ++
      (j, h) :: (later ++ after) := by
    simp [split]
  refine interleaves.only_holder split_there touches ?_
  exact hasGuard_of_unreleased fun released => unreleased (List.mem_append_left _ released)

/-- What does not touch the queue does not change it. -/
theorem FailureQueue.after_of_untouched {q : FailureQueue} (untouched : h.touchesQueue = false) :
    q.after h = q := by
  unfold after
  split
  · cases untouched
  · cases untouched
  · cases untouched
  · rfl

/-- Where only one call touches the queue, its own happenings account for it. -/
theorem FailureQueue.afterAll_own (q : FailureQueue)
    (owned : ∀ j h, (j, h) ∈ during → h.touchesQueue = true → j = i) :
    q.afterAll during.chronicle = q.afterAll (during.own i) := by
  induction during generalizing q with
  | nil => rfl
  | cons e during ih =>
    obtain ⟨j, h⟩ := e
    have others := ih (q.after h) fun k g member => owned k g (List.mem_cons_of_mem _ member)
    show (q.after h).afterAll (Transcript.chronicle during) = _
    by_cases this_one : j = i
    · subst this_one
      rw [Transcript.own_cons_self]
      exact others
    · have untouched : h.touchesQueue = false := by
        rw [← Bool.not_eq_true]
        exact fun touches => this_one (owned j h List.mem_cons_self touches)
      rw [Transcript.own_cons_of_ne (Ne.symm this_one), others, after_of_untouched untouched]

/-- Whatever calls are made and however they interleave and end, they go through the queue one at a
time. -/
theorem interleaved_one_at_a_time (interleaves : Interleaves c plan t activities) :
    OneAtATime c t activities where
  one_holder := interleaves.orderly.exclusive.one_holder
  active_iff := interleaves.orderly.exclusive.active_iff
  refused_iff _ _ _ _ split := interleaves.refused_iff split
  queue_own _ _ _ _ split unreleased _ _ member touches :=
    interleaves.queue_own split unreleased member touches
  generation_own before during after i split unreleased := by
    have owned := fun j h => interleaves.queue_own (j := j) (h := h) split unreleased
    rw [← FailureQueue.afterAll_own _ owned]
    simp [Transcript.chronicle, FailureQueue.after]
  turned_away i call rest here refused :=
    (interleaves.orderly.stands i _ rest here).of_refused (Transcript.mem_own.2 refused)
  freed i call rest here ended := (interleaves.orderly.stands i call rest here).freed ended
  admits nobody := by
    have free : ¬ t.Active := fun active =>
      (interleaves.orderly.exclusive.active_iff.1 active).elim nobody
    show (!t.chronicle.foldl guardAfter false) = true
    rw [Bool.not_eq_true']
    exact Bool.eq_false_of_not_eq_true free

end OneAtATime

/-! ## A manual call during a scheduled one -/

namespace Overlapping

def plan : BillingPlan := ⟨"", ⟨1, 0⟩, 0, false⟩

def collaborators : Collaborators := .obliging {} [] ⟨0, 0⟩ (.ok "") fun _ _ => .ok []

def transcript : Transcript :=
  [(0, .exchange .takeGuard true), (1, .exchange .takeGuard false),
    (0, .exchange .activeInstances (.ok []))]

/-- The scheduled call goes on after the manual one was turned away. -/
theorem manual_turned_away : ∃ activities, Interleaves collaborators plan transcript activities ∧
    activities[1]? = some ⟨.queued .byHand, .done (.error runInProgress)⟩ := by
  have begun : Interleaves collaborators plan [] _ :=
    .call (.call .start (.queued .scheduled)) (.queued .byHand)
  have taken : Interleaves collaborators plan [(0, .exchange .takeGuard true)] _ :=
    begun.step (i := 0) rfl
  have refused : Interleaves collaborators plan
      [(0, .exchange .takeGuard true), (1, .exchange .takeGuard false)] _ :=
    taken.step (i := 1) rfl
  exact ⟨_, refused.step (i := 0) rfl, rfl⟩

theorem overlapping_one_at_a_time : ∃ activities,
    Interleaves collaborators plan transcript activities ∧
    activities[1]? = some ⟨.queued .byHand, .done (.error runInProgress)⟩ ∧
    OneAtATime collaborators transcript activities := by
  obtain ⟨activities, interleaves, turned_away⟩ := manual_turned_away
  exact ⟨activities, interleaves, turned_away, interleaved_one_at_a_time interleaves⟩

end Overlapping

end UsageBilling
