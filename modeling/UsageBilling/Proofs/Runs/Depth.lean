import UsageBilling.Proofs.Counting
import UsageBilling.Proofs.Runs.Exclusion

/-!
# The depth of the queue

A call that writes the queue sets the gauge of its depth next, before it does
anything else and before it can break down. While it holds the run guard nobody
else writes the queue or sets the gauge. So the gauge is the number of rows as
soon as every call has come to its end, in whatever order the calls went on and
wherever they failed or broke down.
-/

namespace UsageBilling

open Billing

/-! ## What an answer does to the queue and the gauge -/

section Answers

variable {c : Collaborators} {past : Chronicle} {q : FailureQueue} {m : Metrics} {r : Request}
  {answer : r.Answer} {n : Nat}

/-- A write that succeeds leaves as many rows as have to be counted next. -/
theorem Collaborators.count_after (genuine : answer = c.reply past r)
    (due : r.due answer = some (.depth n)) :
    ((c.queueAt past).after (.exchange r answer)).count = n := by
  cases r with
  | seed failures =>
    cases answer with
    | error e => cases due
    | ok _ =>
      obtain rfl := Due.depth.inj (Option.some.inj due)
      exact (FailureQueue.holds_after_seed (reply_seed genuine) _).length_eq
  | clear =>
    cases answer with
    | error e => cases due
    | ok _ =>
      obtain rfl := Due.depth.inj (Option.some.inj due)
      rfl
  | notify => cases answer <;> cases due
  | _ => cases due

/-- Where no write succeeds, the queue stays as it is. -/
theorem FailureQueue.after_of_not_due (unwritten : ∀ n, r.due answer ≠ some (.depth n)) :
    q.after (.exchange r answer) = q := by
  unfold after
  split
  next failures same =>
    cases same
    exact absurd rfl (unwritten failures.length)
  next same =>
    cases same
    exact absurd rfl (unwritten 0)
  next same => cases same
  next => rfl

/-- Nothing but setting the gauge changes it. -/
theorem Metrics.depth_of_unset (unset : ∀ n, r ≠ .observe (.depth n)) :
    (m.along [.exchange r answer]).depth = m.depth := by
  cases r with
  | observe o =>
    cases o with
    | depth n => exact absurd rfl (unset n)
    | _ => rfl
  | _ => rfl

/-- The depth is set only where it is due. -/
theorem Request.Settles.owed_eq {owed : Option Due} (h : Settles (.observe (.depth n)) owed) :
    owed = some (.depth n) := by
  rcases owed with _ | k | _
  · cases h
  · cases h
    rfl
  · cases h

theorem Request.free_of_isQueue (queue : r.isQueue = true) : r.Free := by
  cases r <;> first | rfl | cases queue

theorem Request.isQueue_of_due (due : r.due answer = some (.depth n)) : r.isQueue = true := by
  cases r with
  | notify => cases answer <;> cases due
  | seed | clear => rfl
  | _ => cases due

end Answers

/-! ## What calls owe -/

/-- What is left of call `i` begins with this. If that is setting the depth of the queue, the call
holds the guard and the depth is the number of rows. -/
structure Owes (c : Collaborators) (t : Transcript) (i : Nat) {α : Type} (rest : Action α)
    (owed : Option Due) : Prop where
  prompt : rest.Prompt (fun _ => True) owed
  depth : ∀ n, owed = some (.depth n) → HasGuard (t.own i) ∧ n = (c.queueAt t.chronicle).count

/-- The gauge is the number of rows, as far as it goes, unless some call is about to set it. -/
structure Gauged (c : Collaborators) (m : Metrics) (t : Transcript) (activities : List Activity) :
    Prop where
  owes : ∀ i call rest, activities[i]? = some ⟨call, rest⟩ → ∃ owed, Owes c t i rest owed
  gauge : (m.along t.chronicle).depth = min (c.queueAt t.chronicle).count 9223372036854775807 ∨
    ∃ i call rest n, activities[i]? = some ⟨call, rest⟩ ∧ Owes c t i rest (some (.depth n))

section Gauged

variable {c : Collaborators} {plan : BillingPlan} {m : Metrics} {t : Transcript}
  {activities : List Activity} {i j : Nat} {call : ServiceCall} {r : Request}
  {next : r.Answer → Action (Except ServiceError call.Outcome)}

theorem Transcript.chronicle_snoc (t : Transcript) (i : Nat) (h : Happening) :
    chronicle (t ++ [(i, h)]) = t.chronicle ++ [h] := by
  simp [chronicle]

/-- Another call still owes what it owed, if nobody else writes while it holds the guard. -/
theorem Owes.snoc {α : Type} {rest : Action α} {owed : Option Due} {h : Happening}
    (owes : Owes c t j rest owed) (other : j ≠ i)
    (kept : HasGuard (t.own j) →
      ((c.queueAt t.chronicle).after h).count = (c.queueAt t.chronicle).count) :
    Owes c (t ++ [(i, h)]) j rest owed where
  prompt := owes.prompt
  depth n due := by
    obtain ⟨holds, same⟩ := owes.depth n due
    rw [Transcript.own_snoc_of_ne other, Transcript.chronicle_snoc, Collaborators.queueAt_append]
    exact ⟨holds, same.trans (kept holds).symm⟩

/-- Where a call has got to now, all others owe what they owed. -/
theorem Gauged.owes_set {t' : Transcript} {rest : Action (Except ServiceError call.Outcome)}
    {owed : Option Due} (gauged : Gauged c m t activities) (this_one : Owes c t' i rest owed)
    (others : ∀ j call (rest : Action (Except ServiceError (ServiceCall.Outcome call))) owed,
      j ≠ i → activities[j]? = some ⟨call, rest⟩ → Owes c t j rest owed → Owes c t' j rest owed) :
    ∀ j call' rest', (activities.set i ⟨call, rest⟩)[j]? = some ⟨call', rest'⟩ →
      ∃ owed, Owes c t' j rest' owed := by
  intro j call' rest' at_j
  rcases cases_of_moved at_j with ⟨rfl, same⟩ | ⟨other, still⟩
  · cases same
    exact ⟨owed, this_one⟩
  · obtain ⟨owed, owes⟩ := gauged.owes j call' rest' still
    exact ⟨owed, others j call' rest' owed other still owes⟩

/-- An empty queue has depth zero. -/
theorem Gauged.start (empty : c.queue.rows = []) (zero : m.depth = 0) : Gauged c m [] [] where
  owes := by simp
  gauge := by
    have none : (c.queueAt []).count = 0 := congrArg List.length empty
    exact .inl (by simpa [Transcript.chronicle, none] using zero)

theorem Gauged.begin (gauged : Gauged c m t activities) (plan : BillingPlan) (call : ServiceCall) :
    Gauged c m t (activities ++ [⟨call, (call.program plan).run⟩]) where
  owes j call' rest at_j := by
    rcases cases_of_begun at_j with old | ⟨-, same⟩
    · exact gauged.owes j call' rest old
    · cases same
      exact ⟨none, call.program_prompt plan, nofun⟩
  gauge := by
    refine gauged.gauge.imp_right ?_
    rintro ⟨j, call', rest, n, at_j, owes⟩
    have known := (List.getElem?_eq_some_iff.1 at_j).1
    exact ⟨j, call', rest, n, by rwa [List.getElem?_append_left known], owes⟩

/-- A call that writes the queue is about to set the gauge. -/
theorem Gauged.write {n : Nat} (gauged : Gauged c m t activities) (ordered : Orderly plan t activities)
    (here : activities[i]? = some ⟨call, .ask r next⟩)
    (due : r.due (c.reply t.chronicle r) = some (.depth n)) :
    Gauged c m (t ++ [(i, .exchange r (c.reply t.chronicle r))])
      (activities.set i ⟨call, next (c.reply t.chronicle r)⟩) := by
  obtain ⟨known, -⟩ := List.getElem?_eq_some_iff.1 here
  obtain ⟨_, ⟨-, -, later⟩, -⟩ := gauged.owes i call _ here
  have queue := Request.isQueue_of_due due
  have holds : HasGuard (t.own i) := (ordered.stands i call _ here).hasGuard rfl (.inl queue)
  have this_one : Owes c (t ++ [(i, .exchange r (c.reply t.chronicle r))]) i
      (next (c.reply t.chronicle r)) (some (.depth n)) := by
    refine ⟨due ▸ later _, fun k same => ?_⟩
    obtain rfl := Due.depth.inj (Option.some.inj same)
    rw [Transcript.hasGuard_snoc_self, Transcript.chronicle_snoc, Collaborators.queueAt_append]
    rw [heldAfter_of_free (Request.free_of_isQueue queue)]
    exact ⟨holds, (Collaborators.count_after rfl due).symm⟩
  refine ⟨gauged.owes_set this_one fun j _ _ _ other _ owes => owes.snoc other fun holds' => ?_,
    .inr ⟨i, call, _, n, List.getElem?_set_self known, this_one⟩⟩
  exact absurd (ordered.exclusive.one_holder j i holds' holds) other

/-- A call that does not write the queue leaves the gauge alone, or sets it to what is due. -/
theorem Gauged.unwritten (gauged : Gauged c m t activities)
    (here : activities[i]? = some ⟨call, .ask r next⟩)
    (unwritten : ∀ n, r.due (c.reply t.chronicle r) ≠ some (.depth n)) :
    Gauged c m (t ++ [(i, .exchange r (c.reply t.chronicle r))])
      (activities.set i ⟨call, next (c.reply t.chronicle r)⟩) := by
  obtain ⟨owed, ⟨-, settles, later⟩, depth⟩ := gauged.owes i call _ here
  have same_queue : c.queueAt (t.chronicle ++ [.exchange r (c.reply t.chronicle r)]) =
      c.queueAt t.chronicle := by
    rw [Collaborators.queueAt_append]
    exact FailureQueue.after_of_not_due unwritten
  have this_one : Owes c (t ++ [(i, .exchange r (c.reply t.chronicle r))]) i
      (next (c.reply t.chronicle r)) (r.due (c.reply t.chronicle r)) :=
    ⟨later _, fun n due => absurd due (unwritten n)⟩
  have others (j : Nat) (call : ServiceCall) (rest : Action (Except ServiceError call.Outcome))
      (owed : Option Due) (other : j ≠ i) (_ : activities[j]? = some ⟨call, rest⟩)
      (owes : Owes c t j rest owed) :
      Owes c (t ++ [(i, .exchange r (c.reply t.chronicle r))]) j rest owed := by
    refine owes.snoc other fun _ => ?_
    rw [FailureQueue.after_of_not_due unwritten]
  refine ⟨gauged.owes_set this_one others, ?_⟩
  rw [Transcript.chronicle_snoc, same_queue, Metrics.along_append]
  by_cases set : ∃ n, r = .observe (.depth n)
  · obtain ⟨n, rfl⟩ := set
    obtain ⟨-, same⟩ := depth n settles.owed_eq
    rw [← same]
    exact .inl rfl
  · rw [Metrics.depth_of_unset (not_exists.1 set)]
    refine gauged.gauge.imp_right ?_
    rintro ⟨j, call', rest, n, at_j, owes⟩
    have other : j ≠ i := by
      rintro rfl
      cases here.symm.trans at_j
      exact set ⟨n, owes.prompt.2.1⟩
    exact ⟨j, call', rest, n, by rwa [List.getElem?_set_ne other.symm], others j _ _ _ other at_j owes⟩

/-- A call that is answered keeps the gauge at the depth of the queue, or is about to set it. -/
theorem Gauged.step (gauged : Gauged c m t activities) (ordered : Orderly plan t activities)
    (here : activities[i]? = some ⟨call, .ask r next⟩) :
    Gauged c m (t ++ [(i, .exchange r (c.reply t.chronicle r))])
      (activities.set i ⟨call, next (c.reply t.chronicle r)⟩) := by
  by_cases due : ∃ n, r.due (c.reply t.chronicle r) = some (.depth n)
  · obtain ⟨n, due⟩ := due
    exact gauged.write ordered here due
  · exact gauged.unwritten here (not_exists.1 due)

/-- A call does not break down between a write and the gauge. -/
theorem Gauged.breakdown {rest : Action (Except ServiceError call.Outcome)} {reason : Crash}
    (gauged : Gauged c m t activities) (here : activities[i]? = some ⟨call, .ask r next⟩)
    (foreign : r.isForeign = true)
    (unwinds : Program.Unwinds (I := surroundings) .releaseGuard reason (.ask r next) rest) :
    Gauged c m t (activities.set i ⟨call, rest⟩) := by
  have prompt : rest.Prompt (fun _ => True) none := by
    generalize Program.ask (I := surroundings) r next = before at unwinds
    cases unwinds with
    | inside => exact Program.Prompt.ensuring rfl trivial rfl
    | outside => rfl
  refine ⟨gauged.owes_set ⟨prompt, nofun⟩ fun _ _ _ _ _ _ owes => owes, ?_⟩
  refine gauged.gauge.imp_right ?_
  rintro ⟨j, call', rest', n, at_j, owes⟩
  have other : i ≠ j := by
    rintro rfl
    cases here.symm.trans at_j
    obtain rfl : r = .observe (.depth n) := owes.prompt.2.1
    cases foreign
  exact ⟨j, call', rest', n, by rwa [List.getElem?_set_ne other], owes⟩

/-- At every point of every interleaving, the gauge is right or about to be set. -/
theorem Interleaves.gauged (h : Interleaves c plan t activities) (empty : c.queue.rows = [])
    (zero : m.depth = 0) : Gauged c m t activities := by
  induction h with
  | start => exact .start empty zero
  | call _ call ih => exact ih.begin plan call
  | step before here ih => exact ih.step before.orderly here
  | breakdown _ here foreign unwinds ih => exact ih.breakdown here foreign unwinds

/-- Whatever calls are made on a queue that is empty at first, and however they interleave, fail and
break down, once all have come to their end the gauge is the number of rows. No queue in memory has more
rows than the gauge can show. -/
theorem depth_eq_count (interleaves : Interleaves c plan t activities) (empty : c.queue.rows = [])
    (zero : m.depth = 0) (ended : ∀ activity ∈ activities, activity.rest.HasEnded)
    (fits : (c.queueAt t.chronicle).count ≤ 9223372036854775807) :
    (m.along t.chronicle).depth = (c.queueAt t.chronicle).count := by
  rcases (interleaves.gauged empty zero).gauge with right | ⟨i, call, rest, n, at_i, owes⟩
  · rw [right, Nat.min_eq_left fits]
  · have at_end : rest.HasEnded := ended _ (List.mem_of_getElem? at_i)
    have prompt := owes.prompt
    cases rest with
    | ask => cases at_end
    | done => cases prompt
    | crash => cases prompt

/-- A call that nobody disturbs goes on to its end. -/
theorem Interleaves.finish {p : Action (Except ServiceError call.Outcome)}
    {result : Except Crash (Except ServiceError call.Outcome)} {course : List Happening}
    (h : Interleaves c plan t activities) (here : activities[i]? = some ⟨call, p⟩)
    (does : c.Does p t.chronicle result course) (alone : ∀ past, c.arrivals past = []) :
    Interleaves c plan (t ++ course.map fun h => (i, h)) (activities.set i ⟨call, orCrash result⟩) := by
  obtain ⟨known, at_i⟩ := List.getElem?_eq_some_iff.1 here
  induction p generalizing t activities course with
  | done a =>
    obtain ⟨rfl, rfl⟩ := Collaborators.does_done.1 does
    simpa [orCrash, ← at_i] using h
  | crash reason =>
    obtain ⟨rfl, rfl⟩ := Collaborators.does_crash.1 does
    simpa [orCrash, ← at_i] using h
  | ask r next ih =>
    obtain ⟨answer, rest, genuine, rfl, continued⟩ := does.ask
    have undisturbed : c.meanwhile t.chronicle r = [] := by
      simp [Collaborators.meanwhile, alone]
    rw [undisturbed, List.append_nil] at genuine
    subst genuine
    have later := ih _ (h.step here) (List.getElem?_set_self known)
      (by simpa [undisturbed, Transcript.chronicle_snoc] using continued) (by simpa using known)
      (by simp)
    simpa [undisturbed] using later

end Gauged

/-! ## A run that breaks off between two attempts -/

namespace LeftBehind

/-- Up to two attempts, in batches of two. -/
def plan : BillingPlan := ⟨"", ⟨2, 0⟩, 2, false⟩

/-- One token is given, and one record of three is billed with it. -/
def collaborators : Collaborators where
  queue := {}
  answer past
    | .token => if tokensIn past = 0 then .ok "" else .error (ErrorKind.authentication.because "")
    | r => (Collaborators.obliging {} Trio.instances ⟨0, 0⟩ (.ok "") fun _ batch =>
        .ok ((batch.filter (·.instanceId ≠ "i-2")).map (.stamped · "" ⟨0, 0⟩))).answer past r
  refusal _ _ := none
  arrivals _ := []

theorem two_left :
    (collaborators.queueAt (collaborators.perform (runScheduled plan).run []).2).count = 2 := by
  cbv

/-- The rows that the run leaves are counted. -/
theorem depth_of_row_left : ∃ t activities, Interleaves collaborators plan t activities ∧
    (∀ activity ∈ activities, activity.rest.HasEnded) ∧
    (collaborators.queueAt t.chronicle).count = 2 ∧
    (Metrics.along {} t.chronicle).depth = (collaborators.queueAt t.chronicle).count := by
  obtain ⟨result, course, does⟩ := collaborators.exists_does (runScheduled plan).run []
  have two := two_left
  rw [show collaborators.perform (runScheduled plan).run [] = (result, course) from does] at two
  have begun : Interleaves collaborators plan [] _ := .call .start (.queued .scheduled)
  have ended := begun.finish (i := 0) rfl does fun _ => rfl
  have same : Transcript.chronicle (course.map fun h => (0, h)) = course := by
    simp [Transcript.chronicle, Function.comp_def]
  have all_ended : ∀ activity ∈ [Activity.mk (.queued .scheduled) (orCrash result)],
      activity.rest.HasEnded := by
    cases result <;> simp [orCrash, Program.HasEnded]
  refine ⟨_, _, ended, all_ended, by rwa [List.nil_append, same], ?_⟩
  exact depth_eq_count ended rfl rfl all_ended (by rw [List.nil_append, same, two]; decide)

end LeftBehind

end UsageBilling
