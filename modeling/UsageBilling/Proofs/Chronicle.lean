import UsageBilling.Proofs.Queue.Numbering
import UsageBilling.Reconciliation

/-!
# Chronicles

What happens around billing calls, in order: what they ask and how they are
answered, the rows that others append to the queue, and where each call ends.
The queue is at every point what the happenings so far have made of it.

Others get at the queue at two points of a call: where it begins, and where it
asks for a token, after the wait between two attempts if there is one. A call waits
for the list of instances, for pages, writes, submissions and notifications as
well, but what others append there is left out.
-/

namespace UsageBilling

open Calendar (Instant)

/-- Something that happens around billing calls. -/
inductive Happening where
  /-- A call asks and is answered. -/
  | exchange (request : Request) (answer : request.Answer)
  /-- Somebody else appends a row to the queue. -/
  | arrival (payload message : String) (now : Instant)
  /-- A call ends, with an outcome or without one. -/
  | ended (failed : Bool)

/-- What has happened, earliest first. -/
abbrev Chronicle := List Happening

/-! ## The queue along a chronicle -/

/-- The queue after something happened. -/
def FailureQueue.after (q : FailureQueue) : Happening → FailureQueue
  | .exchange (.seed failures) (.ok ()) => ((q.seed failures).toOption).getD q
  | .exchange .clear (.ok ()) => q.clear
  | .arrival payload message now => q.push payload message now
  | _ => q

/-- The queue after some happenings. -/
def FailureQueue.afterAll (q : FailureQueue) (course : List Happening) : FailureQueue :=
  course.foldl after q

/-- The happening is a successful write of a call to the queue. -/
def Happening.IsWrite : Happening → Prop
  | .exchange (.seed _) (.ok _) => True
  | .exchange .clear (.ok _) => True
  | _ => False

namespace FailureQueue

variable {q : FailureQueue}

@[simp] theorem afterAll_nil : q.afterAll [] = q := rfl

@[simp] theorem afterAll_cons (h : Happening) (course : List Happening) :
    q.afterAll (h :: course) = (q.after h).afterAll course := rfl

@[simp] theorem afterAll_append (first second : List Happening) :
    q.afterAll (first ++ second) = (q.afterAll first).afterAll second :=
  List.foldl_append

/-- After a successful seeding the queue holds exactly what it was seeded with. -/
theorem holds_after_seed {failures : List UsageFailure} (storable : Storable failures)
    (q : FailureQueue) : (q.after (.exchange (.seed failures) (.ok ()))).Holds failures := by
  have stored : q.seed failures = .ok _ := seed_eq_ok_iff.2 ⟨storable, rfl⟩
  rw [after, stored]
  exact holds_of_seed stored

/-- Whatever happens, the rows are told apart by ids that were given. -/
theorem Numbered.after (h : q.Numbered) (happening : Happening) : (q.after happening).Numbered := by
  unfold FailureQueue.after
  split
  case h_1 failures =>
    cases stored : q.seed failures with
    | error e => exact h
    | ok q' => exact h.seed stored
  case h_2 => exact h.clear
  case h_3 payload message now => exact h.push payload message now
  case h_4 => exact h

/-- Whatever happens one after another, the rows are told apart by ids that were given. -/
theorem Numbered.afterAll (h : q.Numbered) (course : List Happening) :
    (q.afterAll course).Numbered := by
  induction course generalizing q with
  | nil => exact h
  | cons happening course ih => exact ih (h.after happening)

/-- No happening takes an id back. -/
theorem lastId_le_after (q : FailureQueue) (happening : Happening) :
    q.lastId ≤ (q.after happening).lastId := by
  unfold after
  split
  case h_1 failures =>
    cases stored : q.seed failures with
    | error e => exact Int.le_refl _
    | ok q' =>
      obtain ⟨-, rfl⟩ := seed_eq_ok_iff.1 stored
      show q.lastId ≤ q.lastId + failures.length
      omega
  case h_2 => exact Int.le_refl _
  case h_3 =>
    show q.lastId ≤ q.lastId + 1
    omega
  case h_4 => exact Int.le_refl _

/-- Ids are never given back. -/
theorem lastId_le_afterAll (q : FailureQueue) (course : List Happening) :
    q.lastId ≤ (q.afterAll course).lastId := by
  induction course generalizing q with
  | nil => exact Int.le_refl _
  | cons happening course ih => exact Int.le_trans (q.lastId_le_after happening) (ih _)

end FailureQueue

/-! ## Everywhere in a course -/

/-- Each happening of a course, given what has happened before it, has the property. -/
def Throughout (P : Chronicle → Happening → Prop) : Chronicle → List Happening → Prop
  | _, [] => True
  | past, h :: course => P past h ∧ Throughout P (past ++ [h]) course

section Throughout

variable {P : Chronicle → Happening → Prop} {past : Chronicle}

@[simp] theorem throughout_nil : Throughout P past [] := trivial

@[simp] theorem throughout_cons {h : Happening} {course : List Happening} :
    Throughout P past (h :: course) ↔ P past h ∧ Throughout P (past ++ [h]) course := .rfl

/-- What holds throughout two courses in a row holds throughout each, given its past. -/
@[simp] theorem throughout_append {first second : List Happening} :
    Throughout P past (first ++ second) ↔
      Throughout P past first ∧ Throughout P (past ++ first) second := by
  induction first generalizing past with
  | nil => simp
  | cons h first ih => simp [ih, and_assoc]

/-- What holds throughout a course holds at each split of it. -/
theorem throughout_iff {course : List Happening} :
    Throughout P past course ↔
      ∀ since h later, course = since ++ h :: later → P (past ++ since) h := by
  constructor
  · rintro holds since h later rfl
    exact (throughout_cons.1 (throughout_append.1 holds).2).1
  · intro holds
    induction course generalizing past with
    | nil => trivial
    | cons h course ih =>
      refine ⟨by simpa using holds [] h course rfl, ih fun since g later split => ?_⟩
      have := holds (h :: since) g later (by rw [split]; rfl)
      rwa [List.append_assoc]

theorem Throughout.of_forall {course : List Happening}
    (holds : ∀ earlier, ∀ h ∈ course, P earlier h) : Throughout P past course := by
  refine throughout_iff.2 ?_
  rintro since h later rfl
  exact holds _ h (by simp)

end Throughout

/-- Nobody else appends to the queue. -/
def Undisturbed (course : List Happening) : Prop :=
  ∀ payload message now, .arrival payload message now ∉ course

/-- A part of an undisturbed course is undisturbed. -/
theorem Undisturbed.part {course part : List Happening} (h : Undisturbed course)
    (within : ∀ h ∈ part, h ∈ course) : Undisturbed part :=
  fun payload message now member => h payload message now (within _ member)

/-! ## Collaborators -/

/-- The run guard after something happened. -/
def guardAfter (held : Bool) : Happening → Bool
  | .exchange .takeGuard _ => true
  | .exchange .releaseGuard _ => false
  | _ => held

/-- Who answers the calls of a service: its failure queue and run guard, and everyone else, who
may answer anything at any time. -/
structure Collaborators where
  /-- The queue at the beginning. -/
  queue : FailureQueue
  /-- What is answered to anything that is not for the queue or the guard. -/
  answer : Chronicle → (r : Request) → r.Answer
  /-- Where the queue refuses a request that it could serve. -/
  refusal : Chronicle → Request → Option ServiceError
  /-- The rows (payload, message, time) that others append at a pause, and at no other point. -/
  arrivals : Chronicle → List (String × String × Instant)

/-- Others get at the queue where a call begins and where it asks for a token. A call waits at other
requests as well, and nobody appends to the queue there. -/
def Request.isPause : Request → Bool
  | .takeGuard => true
  | .token => true
  | _ => false

namespace Collaborators

variable (c : Collaborators) {α β : Type}

/-- The queue after what has happened. -/
def queueAt (past : Chronicle) : FailureQueue :=
  c.queue.afterAll past

/-- The answer of the queue, where it does not refuse. -/
def unlessRefused (past : Chronicle) (r : Request) (answer : Except ServiceError α) :
    Except ServiceError α :=
  match c.refusal past r with
  | some e => .error e
  | none => answer

/-- The answer to a request. -/
def reply (past : Chronicle) : (r : Request) → r.Answer
  | .takeGuard => !past.foldl guardAfter false
  | .page cursor limit =>
    c.unlessRefused past (.page cursor limit) (.ok ((c.queueAt past).page cursor limit))
  | .seed failures =>
    c.unlessRefused past (.seed failures) (((c.queueAt past).seed failures).map fun _ => ())
  | .clear => c.unlessRefused past .clear (.ok ())
  | .listAll => c.unlessRefused past .listAll (.ok (c.queueAt past).rows)
  | r => c.answer past r

/-- What others do before a request is answered. -/
def meanwhile (past : Chronicle) (r : Request) : List Happening :=
  if r.isPause then (c.arrivals past).map fun row => .arrival row.1 row.2.1 row.2.2 else []

/-- One request: what happens meanwhile, and the answer. -/
def serve (r : Request) (past : Chronicle) : r.Answer × Chronicle :=
  let past := past ++ c.meanwhile past r
  (c.reply past r, past ++ [.exchange r (c.reply past r)])

/-- The result of a program, and the chronicle after it. -/
def perform (p : Action α) (past : Chronicle) : Except Crash α × Chronicle :=
  p.run c.serve past

/-- The program has this result and this course. -/
def Does (p : Action α) (past : Chronicle) (result : Except Crash α) (course : List Happening) :
    Prop :=
  c.perform p past = (result, past ++ course)

variable {c} {past : Chronicle} {course : List Happening}

@[simp] theorem queueAt_append : c.queueAt (past ++ course) = (c.queueAt past).afterAll course :=
  FailureQueue.afterAll_append _ _

/-- Nobody else gets at the queue but at a pause. -/
@[simp] theorem meanwhile_eq_nil {r : Request} (h : r.isPause = false) : c.meanwhile past r = [] := by
  simp [meanwhile, h]

/-- What others do at a pause is to append their rows. -/
theorem mem_meanwhile {r : Request} {h : Happening} (member : h ∈ c.meanwhile past r) :
    ∃ payload message now, h = .arrival payload message now ∧
      (payload, message, now) ∈ c.arrivals past := by
  unfold meanwhile at member
  split at member
  · obtain ⟨row, inside, rfl⟩ := List.mem_map.1 member
    exact ⟨_, _, _, rfl, inside⟩
  · cases member

/-! ## Courses of programs -/

/-- A program adds to the chronicle and leaves the past alone. -/
theorem perform_extends (p : Action α) (past : Chronicle) :
    ∃ course, (c.perform p past).2 = past ++ course := by
  induction p generalizing past with
  | done a => exact ⟨[], (List.append_nil _).symm⟩
  | crash reason => exact ⟨[], (List.append_nil _).symm⟩
  | ask r next ih =>
    obtain ⟨course, added⟩ := ih (c.serve r past).1 (c.serve r past).2
    refine ⟨c.meanwhile past r ++ [.exchange r (c.serve r past).1] ++ course, ?_⟩
    simpa [perform, serve, Program.run] using added

/-- Every program has a result and a course. -/
theorem exists_does (p : Action α) (past : Chronicle) : ∃ result course, c.Does p past result course := by
  obtain ⟨course, added⟩ := c.perform_extends p past
  exact ⟨_, course, Prod.ext rfl added⟩

@[simp] theorem does_done {a : α} {result : Except Crash α} :
    c.Does (.done a) past result course ↔ result = .ok a ∧ course = [] := by
  simp [Does, perform, Program.run, eq_comm]

@[simp] theorem does_crash {reason : Crash} {result : Except Crash α} :
    c.Does (.crash reason) past result course ↔ result = .error reason ∧ course = [] := by
  simp [Does, perform, Program.run, eq_comm]

/-- A question is answered, and the program continues with the answer. -/
theorem Does.ask {r : Request} {next : r.Answer → Action α} {result : Except Crash α}
    (h : c.Does (.ask r next) past result course) :
    ∃ answer rest, answer = c.reply (past ++ c.meanwhile past r) r ∧
      course = c.meanwhile past r ++ .exchange r answer :: rest ∧
      c.Does (next answer) (past ++ (c.meanwhile past r ++ [.exchange r answer])) result rest := by
  obtain ⟨result', rest, continued⟩ := c.exists_does (next (c.serve r past).1) (c.serve r past).2
  have same : (result', (c.serve r past).2 ++ rest) = (result, past ++ course) :=
    continued.symm.trans h
  obtain ⟨rfl, same⟩ := Prod.mk.inj same
  refine ⟨_, rest, rfl, ?_, by simpa [serve] using continued⟩
  simpa [serve] using same.symm

/-- A program that goes on with the answer to its question has asked it. -/
theorem Does.asked {r : Request} {next : r.Answer → Action α} {result : Except Crash α}
    {answer : r.Answer} (genuine : answer = c.reply (past ++ c.meanwhile past r) r)
    (h : c.Does (next answer) (past ++ (c.meanwhile past r ++ [.exchange r answer])) result course) :
    c.Does (.ask r next) past result (c.meanwhile past r ++ .exchange r answer :: course) := by
  subst genuine
  simpa [Does, perform, serve, Program.run] using h

/-- The course of a sequence is the course of the first part and, unless that breaks down, the
course of the second one. -/
theorem Does.bind {p : Action α} {f : α → Action β} {result : Except Crash β}
    (h : c.Does (p >>= f) past result course) :
    (∃ reason, result = .error reason ∧ c.Does p past (.error reason) course) ∨
    ∃ a first second, course = first ++ second ∧ c.Does p past (.ok a) first ∧
      c.Does (f a) (past ++ first) result second := by
  induction p generalizing past course with
  | done a => exact .inr ⟨a, [], course, rfl, does_done.2 ⟨rfl, rfl⟩, by simpa using h⟩
  | crash reason =>
    obtain ⟨rfl, rfl⟩ := does_crash.1 h
    exact .inl ⟨reason, rfl, does_crash.2 ⟨rfl, rfl⟩⟩
  | ask r next ih =>
    obtain ⟨answer, rest, rfl, rfl, continued⟩ := Does.ask h
    rcases ih _ continued with ⟨reason, rfl, ended⟩ | ⟨a, first, second, rfl, h, h'⟩
    · exact .inl ⟨reason, rfl, .asked rfl ended⟩
    · exact .inr ⟨a, _, second, by simp, .asked rfl h, by simpa using h'⟩

/-- A question is answered once, after what others do meanwhile. -/
theorem Does.request {r : Request} {result : Except Crash r.Answer}
    (h : c.Does (Billing.ask r) past result course) :
    ∃ answer, answer = c.reply (past ++ c.meanwhile past r) r ∧ result = .ok answer ∧
      course = c.meanwhile past r ++ [.exchange r answer] := by
  obtain ⟨answer, rest, genuine, rfl, ended⟩ := Does.ask h
  obtain ⟨rfl, rfl⟩ := does_done.1 ended
  exact ⟨answer, genuine, rfl, rfl⟩

/-- Where nobody else gets at the queue, the answer is all that happens. -/
theorem Does.settled {r : Request} {result : Except Crash r.Answer} (undisturbed : r.isPause = false)
    (h : c.Does (Billing.ask r) past result course) :
    ∃ answer, answer = c.reply past r ∧ result = .ok answer ∧ course = [.exchange r answer] := by
  simpa [undisturbed] using h.request

/-- A question cannot break a program down. -/
theorem Does.not_broken {r : Request} {reason : Crash}
    (h : c.Does (Billing.ask r) past (.error reason) course) : False := by
  obtain ⟨_, -, ended, -⟩ := h.request
  cases ended

/-- However a program ends, the last thing that happens is the request that it ensures. -/
theorem Does.ensuring {r : Request} {p : Action α} {result : Except Crash α}
    (h : c.Does (Program.ensuring (I := surroundings) r p) past result course) :
    ∃ body answer, c.Does p past result body ∧
      course = body ++ (c.meanwhile (past ++ body) r ++ [.exchange r answer]) := by
  induction p generalizing past course with
  | done a =>
    obtain ⟨answer, rest, -, rfl, ended⟩ := Does.ask h
    obtain ⟨rfl, rfl⟩ := does_done.1 ended
    exact ⟨[], answer, does_done.2 ⟨rfl, rfl⟩, by simp⟩
  | crash reason =>
    obtain ⟨answer, rest, -, rfl, ended⟩ := Does.ask h
    obtain ⟨rfl, rfl⟩ := does_crash.1 ended
    exact ⟨[], answer, does_crash.2 ⟨rfl, rfl⟩, by simp⟩
  | ask q next ih =>
    obtain ⟨answer, rest, rfl, rfl, continued⟩ := Does.ask h
    obtain ⟨body, final, does, rfl⟩ := ih _ continued
    exact ⟨_, final, .asked rfl does, by simp⟩

/-! ## Courses of parts that may fail -/

/-- A part that returns asks nothing. -/
theorem Does.pure {a : α} {result : Except Crash (Except ServiceError α)}
    (h : c.Does (Pure.pure a : Billing α).run past result course) :
    result = .ok (.ok a) ∧ course = [] :=
  does_done.1 h

theorem Does.throw {e : ServiceError} {result : Except Crash (Except ServiceError α)}
    (h : c.Does (MonadExcept.throw e : Billing α).run past result course) :
    result = .ok (.error e) ∧ course = [] :=
  does_done.1 h

/-- An error ends a sequence of parts that may fail. -/
theorem Does.then {p : Billing α} {f : α → Billing β}
    {result : Except Crash (Except ServiceError β)} (h : c.Does (p >>= f).run past result course) :
    (∃ reason, result = .error reason ∧ c.Does p.run past (.error reason) course) ∨
    (∃ e, result = .ok (.error e) ∧ c.Does p.run past (.ok (.error e)) course) ∨
    ∃ a first second, course = first ++ second ∧ c.Does p.run past (.ok (.ok a)) first ∧
      c.Does (f a).run (past ++ first) result second := by
  rcases Does.bind h with broken | ⟨outcome, first, second, rfl, does, continued⟩
  · exact .inl broken
  · cases outcome with
    | ok a => exact .inr (.inr ⟨a, first, second, rfl, does, continued⟩)
    | error e =>
      obtain ⟨rfl, rfl⟩ := does_done.1 continued
      exact .inr (.inl ⟨e, rfl, (List.append_nil first).symm ▸ does⟩)

/-- A part that cannot fail returns or breaks down. -/
theorem Does.always {p : Action α} {result : Except Crash (Except ServiceError α)}
    (h : c.Does (Billing.always p).run past result course) :
    (∃ reason, result = .error reason ∧ c.Does p past (.error reason) course) ∨
    ∃ a, result = .ok (.ok a) ∧ c.Does p past (.ok a) course := by
  replace h : c.Does (p >>= fun a => .done (Except.ok a)) past result course := h
  rcases h.bind with ⟨reason, rfl, does⟩ | ⟨a, first, second, rfl, does, ended⟩
  · exact .inl ⟨reason, rfl, does⟩
  · obtain ⟨rfl, rfl⟩ := does_done.1 ended
    exact .inr ⟨a, rfl, by simpa using does⟩

/-- Counting something is all that happens. -/
theorem Does.observe {o : Observation} {result : Except Crash Unit}
    (h : c.Does (Billing.observe o) past result course) :
    result = .ok () ∧ course = [.exchange (.observe o) ()] := by
  obtain ⟨_, -, rfl, rfl⟩ := Does.request h
  exact ⟨rfl, rfl⟩

/-- A part that cannot fail with an error, and what follows it. -/
theorem Does.alwaysThen {p : Action α} {f : α → Billing β}
    {result : Except Crash (Except ServiceError β)}
    (h : c.Does (Billing.always p >>= f).run past result course) :
    (∃ reason, result = .error reason ∧ c.Does p past (.error reason) course) ∨
    ∃ a first second, course = first ++ second ∧ c.Does p past (.ok a) first ∧
      c.Does (f a).run (past ++ first) result second := by
  rcases h.then with ⟨reason, rfl, broken⟩ | ⟨e, rfl, failed⟩ | ⟨a, first, second, rfl, does, h⟩
  · rcases broken.always with ⟨_, ended, does⟩ | ⟨_, ended, -⟩
    · cases ended
      exact .inl ⟨reason, rfl, does⟩
    · cases ended
  · rcases failed.always with ⟨_, ended, -⟩ | ⟨_, ended, -⟩ <;> cases ended
  · rcases does.always with ⟨_, ended, -⟩ | ⟨a', same, does⟩
    · cases ended
    · cases same
      exact .inr ⟨a, first, second, rfl, does, h⟩

/-- Something is counted, and what follows. -/
theorem Does.observeThen {o : Observation} {f : Unit → Billing β}
    {result : Except Crash (Except ServiceError β)}
    (h : c.Does (Billing.always (Billing.observe o) >>= f).run past result course) :
    ∃ rest, course = .exchange (.observe o) () :: rest ∧
      c.Does (f ()).run (past ++ [.exchange (.observe o) ()]) result rest := by
  rcases h.alwaysThen with ⟨_, -, broken⟩ | ⟨_, first, rest, rfl, counted, h⟩
  · cases broken.observe.1
  · obtain ⟨-, rfl⟩ := counted.observe
    exact ⟨rest, rfl, h⟩

/-! ## Answers -/

/-- What happens is what these collaborators answer and append. -/
def Genuine (c : Collaborators) (earlier : Chronicle) : Happening → Prop
  | .exchange r answer => answer = c.reply earlier r
  | .arrival payload message now => ∃ past, (payload, message, now) ∈ c.arrivals past
  | .ended _ => False

/-- Everything in a course comes from the collaborators. -/
theorem Does.genuine {p : Action α} {result : Except Crash α} (h : c.Does p past result course) :
    Throughout c.Genuine past course := by
  induction p generalizing past course with
  | done a =>
    obtain ⟨-, rfl⟩ := does_done.1 h
    trivial
  | crash reason =>
    obtain ⟨-, rfl⟩ := does_crash.1 h
    trivial
  | ask r next ih =>
    obtain ⟨answer, rest, rfl, rfl, continued⟩ := Does.ask h
    refine throughout_append.2 ⟨.of_forall fun earlier happening member => ?_, rfl, ?_⟩
    · obtain ⟨payload, message, now, rfl, row⟩ := mem_meanwhile member
      exact ⟨past, row⟩
    · simpa using ih _ continued

/-- Where nobody appends anything, the course is undisturbed. -/
theorem Does.undisturbed {p : Action α} {result : Except Crash α} (h : c.Does p past result course)
    (alone : ∀ past, c.arrivals past = []) : Undisturbed course := by
  intro payload message now member
  obtain ⟨since, later, rfl⟩ := List.append_of_mem member
  obtain ⟨before, row⟩ := throughout_iff.1 h.genuine since _ later rfl
  rw [alone] at row
  cases row

/-- An answer in a course is what the collaborators reply there. -/
theorem Does.answered {p : Action α} {result : Except Crash α} {r : Request} {answer : r.Answer}
    (h : c.Does p past result course) (member : .exchange r answer ∈ course) :
    ∃ since later, course = since ++ .exchange r answer :: later ∧
      answer = c.reply (past ++ since) r := by
  obtain ⟨since, later, rfl⟩ := List.append_of_mem member
  exact ⟨since, later, rfl, throughout_iff.1 h.genuine since _ later rfl⟩

/-- What the collaborators never reply is in no course. -/
theorem Does.not_answered {p : Action α} {result : Except Crash α} {r : Request} {answer : r.Answer}
    (h : c.Does p past result course) (never : ∀ past, answer ≠ c.reply past r) :
    .exchange r answer ∉ course := by
  intro member
  obtain ⟨since, later, -, genuine⟩ := h.answered member
  exact never _ genuine

/-- A request that succeeds was not refused. -/
theorem ok_of_unlessRefused {r : Request} {answer : Except ServiceError α} {a : α}
    (h : .ok a = c.unlessRefused past r answer) : answer = .ok a := by
  unfold unlessRefused at h
  split at h
  · cases h
  · exact h.symm

/-- A page that is fetched is the one that the queue has at the time. -/
theorem reply_page {cursor : Option Int} {limit : Nat} {page : FailurePage}
    (h : .ok page = c.reply past (.page cursor limit)) :
    page = (c.queueAt past).page cursor limit :=
  (Except.ok.inj (ok_of_unlessRefused (r := .page cursor limit) h)).symm

theorem reply_listAll {rows : List FailureRecord} (h : .ok rows = c.reply past .listAll) :
    rows = (c.queueAt past).rows :=
  (Except.ok.inj (ok_of_unlessRefused (r := .listAll) h)).symm

/-- Failures are only stored if they can be. -/
theorem reply_seed {failures : List UsageFailure} (h : .ok () = c.reply past (.seed failures)) :
    FailureQueue.Storable failures := by
  have served := ok_of_unlessRefused (r := .seed failures) h
  cases stored : (c.queueAt past).seed failures with
  | error e => rw [stored] at served; cases served
  | ok q' => exact (FailureQueue.seed_eq_ok_iff.1 stored).1

/-- Collaborators that list these instances, read this time and give this token; the metering API
answers from what has happened and the batch. -/
def obliging (queue : FailureQueue) (instances : List ServiceInstance) (now : Instant)
    (token : Except ServiceError String)
    (submission : Chronicle → List UsagePayload → Except ServiceError (List UsageFailure)) :
    Collaborators where
  queue := queue
  answer past
    | .takeGuard => true
    | .releaseGuard => ()
    | .activeInstances => .ok (InstanceStore.ofList instances).rows
    | .instanceOf id => .ok ((InstanceStore.ofList instances).get? id)
    | .now => some now
    | .wallClock => now
    | .token => token
    | .submit _ batch => submission past batch
    | .page _ _ => .ok ⟨[], none⟩
    | .seed _ => .ok ()
    | .clear => .ok ()
    | .listAll => .ok []
    | .notify _ _ => .ok ()
    | .wait _ => ()
    | .observe _ => ()
  refusal _ _ := none
  arrivals _ := []

end Collaborators

end UsageBilling
