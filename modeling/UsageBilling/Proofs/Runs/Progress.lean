import UsageBilling.Proofs.Runs.Exclusion

/-!
# How calls go on

A call goes on where what it asks is answered, and may break down where it waits
for others. From wherever it has got to, a call that is left to itself goes on to
its end, and what it comes to is where the answers lead its program.
-/

namespace UsageBilling

open Billing

/-! ## How far a program has come -/

/-- The program has come to `rest` where these requests were answered. -/
inductive Program.Reaches {α : Type} : Action α → List Happening → Action α → Prop where
  | here (p : Action α) : Reaches p [] p
  | answered {r : Request} {next : r.Answer → Action α} {own : List Happening} {rest : Action α}
      (answer : r.Answer) (later : Reaches (next answer) own rest) :
      Reaches (Program.ask (I := surroundings) r next) (.exchange r answer :: own) rest

namespace Program.Reaches

variable {α : Type} {P : Request → Prop} {p rest : Action α} {own : List Happening} {r : Request}
  {next : r.Answer → Action α}

/-- A program that is answered comes one step further. -/
theorem snoc (h : Reaches p own (.ask r next)) (answer : r.Answer) :
    Reaches p (own ++ [.exchange r answer]) (next answer) := by
  generalize asks : Program.ask (I := surroundings) r next = before at h
  induction h with
  | here =>
    subst asks
    exact .answered answer (.here _)
  | answered earlier _ ih => exact .answered earlier (ih asks)

/-- What is left of a program asks nothing that the program does not. -/
theorem only (h : Reaches p own rest) (only : p.Only P) : rest.Only P := by
  induction h with
  | here => exact only
  | answered answer _ ih => exact ih (only.2 answer)

/-- What was answered on the way was asked by the program. -/
theorem asks (h : Reaches p own rest) (only : p.Only P) : Asks P own := by
  induction h with
  | here => exact .nil
  | answered answer _ ih => exact Asks.append (.singleton only.1 answer) (ih (only.2 answer))

theorem trans {reached : Action α} {later : List Happening} (h : Reaches p own reached)
    (h' : Reaches reached later rest) : Reaches p (own ++ later) rest := by
  induction h with
  | here => exact h'
  | answered answer _ ih => exact .answered answer (ih h')

/-- A program that is done comes no further. -/
theorem of_done {a : α} (h : Reaches (.done a) own rest) : own = [] ∧ rest = .done a := by
  cases h
  exact ⟨rfl, rfl⟩

theorem of_crash {reason : Crash} (h : Reaches (.crash reason) own rest) :
    own = [] ∧ rest = .crash reason := by
  cases h
  exact ⟨rfl, rfl⟩

/-- A program stands at its first request, or has been answered. -/
theorem of_ask (h : Reaches (.ask r next) own rest) :
    own = [] ∧ rest = .ask r next ∨
      ∃ answer later, own = .exchange r answer :: later ∧ Reaches (next answer) later rest := by
  cases h with
  | here => exact .inl ⟨rfl, rfl⟩
  | answered answer later => exact .inr ⟨answer, _, rfl, later⟩

end Program.Reaches

/-! ## Steps of calls -/

/-- One of the calls is answered and goes on, or breaks down where it waits for somebody else. -/
inductive Moves (c : Collaborators) : Transcript × List Activity → Transcript × List Activity → Prop where
  | answered {t : Transcript} {activities : List Activity} {i : Nat} {call : ServiceCall} {r : Request}
      {next : r.Answer → Action (Except ServiceError call.Outcome)}
      (here : activities[i]? = some ⟨call, .ask r next⟩) :
      Moves c (t, activities) (t ++ [(i, .exchange r (c.reply t.chronicle r))],
        activities.set i ⟨call, next (c.reply t.chronicle r)⟩)
  | broken {t : Transcript} {activities : List Activity} {i : Nat} {call : ServiceCall} {r : Request}
      {next : r.Answer → Action (Except ServiceError call.Outcome)}
      {rest : Action (Except ServiceError call.Outcome)} {reason : Crash}
      (here : activities[i]? = some ⟨call, .ask r next⟩) (foreign : r.isForeign = true)
      (unwinds : Program.Unwinds (I := surroundings) .releaseGuard reason (.ask r next) rest) :
      Moves c (t, activities) (t, activities.set i ⟨call, rest⟩)

section Moves

variable {c : Collaborators} {plan : BillingPlan} {t : Transcript} {activities : List Activity}
  {i : Nat}

theorem map_call_set {j : Nat} {other : ServiceCall}
    {before after : Action (Except ServiceError other.Outcome)}
    (there : activities[j]? = some ⟨other, before⟩) :
    (activities.set j ⟨other, after⟩).map (·.call) = activities.map (·.call) := by
  refine List.ext_getElem? fun k => ?_
  rw [List.getElem?_map, List.getElem?_map]
  by_cases same : k = j
  · subst same
    rw [List.getElem?_set_self (List.getElem?_eq_some_iff.1 there).1, there]
    rfl
  · rw [List.getElem?_set_ne (Ne.symm same)]

/-- Calls stay what they are, whichever goes on. -/
theorem Moves.map_call {now later : Transcript × List Activity} (h : Moves c now later) :
    later.2.map (·.call) = now.2.map (·.call) := by
  cases h with
  | answered here => exact map_call_set here
  | broken here => exact map_call_set here

/-- Calls that go on for several steps still interleave. -/
theorem Interleaves.moves {later : Transcript × List Activity} (h : Interleaves c plan t activities)
    (moves : Relation.ReflTransGen (Moves c) (t, activities) later) :
    Interleaves c plan later.1 later.2 := by
  induction moves with
  | refl => exact h
  | tail _ move ih =>
    cases move with
    | answered here => exact ih.step here
    | broken here foreign unwinds => exact ih.breakdown here foreign unwinds

/-- A call that is left to itself goes on to its end. -/
theorem exists_moves {call : ServiceCall} {p : Action (Except ServiceError call.Outcome)}
    (c : Collaborators) (t : Transcript) (here : activities[i]? = some ⟨call, p⟩) :
    ∃ (own : List Happening) (result : Except Crash (Except ServiceError call.Outcome)),
      p.Reaches own (orCrash result) ∧ Relation.ReflTransGen (Moves c) (t, activities)
        (t ++ own.map fun h => (i, h), activities.set i ⟨call, orCrash result⟩) := by
  obtain ⟨known, at_i⟩ := List.getElem?_eq_some_iff.1 here
  induction p generalizing t activities with
  | done a =>
    have same : activities.set i ⟨call, .done a⟩ = activities := by simp [← at_i]
    refine ⟨[], .ok a, .here _, ?_⟩
    rw [orCrash, same, List.map_nil, List.append_nil]
  | crash reason =>
    have same : activities.set i ⟨call, .crash reason⟩ = activities := by simp [← at_i]
    refine ⟨[], .error reason, .here _, ?_⟩
    rw [orCrash, same, List.map_nil, List.append_nil]
  | ask r next ih =>
    obtain ⟨own, result, reaches, later⟩ := ih _ _ (List.getElem?_set_self known)
      (by simpa using known) (by simp)
    rw [List.set_set, List.append_assoc] at later
    exact ⟨_, result, .answered _ reaches, .head (.answered here) later⟩

/-- Whatever is answered in an interleaving is what the collaborators reply at some time. -/
theorem Interleaves.answered {r : Request} {answer : r.Answer} (h : Interleaves c plan t activities)
    (member : (i, .exchange r answer) ∈ t) : ∃ past, answer = c.reply past r := by
  obtain ⟨before, after, split⟩ := List.append_of_mem member
  obtain ⟨_, _, _, _, -, -, same⟩ := h.asked split
  obtain ⟨rfl, answered⟩ := Happening.exchange.inj same
  exact ⟨_, eq_of_heq answered⟩

theorem Transcript.own_map (i : Nat) (course : List Happening) :
    Transcript.own i (course.map fun h => (i, h)) = course := by
  induction course with
  | nil => rfl
  | cons h course ih => rw [List.map_cons, Transcript.own_cons_self, ih]

end Moves

end UsageBilling
