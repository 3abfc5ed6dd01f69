import UsageBilling.Proofs.Calendar.Elapse
import UsageBilling.Proofs.Runs.Progress
import UsageBilling.Proofs.Window.Fires

/-!
# The life of the scheduler

The scheduler is started and stopped, time passes, and calls are on their way, in
any order. While it runs it spawns one scheduled run for each first instant of a
month that comes after its start, in order and none too early, whatever becomes of
the runs. Time may pass over several of these instants at once: the timer then
wakes late, and catches up before any more time passes. A stopped scheduler spawns
nothing, and leaves the runs that it has spawned to go on.

A stop cancels the timer and awaits its end as one step, so that no wake falls
between the two. A timer that was started reads the clock before time passes. Time
stands still in between, whatever else happens.
-/

namespace UsageBilling

open Billing
open Calendar (Instant Month)

/-! ## Operation -/

/-- What the scheduler is told, with its answer, or does. -/
inductive Scheduler.Event where
  | start (accepted : Bool)
  | stop (accepted : Bool)
  /-- The timer begins a scheduled run, the call with this number. -/
  | spawn (call : Nat)
  deriving DecidableEq, Repr

/-- The events of a scheduler with the readings of the clock, earliest first. -/
abbrev Scheduler.Log := List (Instant × Scheduler.Event)

/-- A scheduler that is operated, and the calls on their way. -/
structure Service where
  scheduler : Scheduler := {}
  /-- Milliseconds since the beginning. -/
  elapsed : Nat := 0
  transcript : Transcript := []
  activities : List Activity := []
  log : Scheduler.Log := []

namespace Service

/-- What the reference clock shows, if it showed `base` at the beginning. -/
def clock (base : Instant) (s : Service) : Instant :=
  base.addMillis s.elapsed

/-- The scheduler is told to start. -/
def start (base : Instant) (s : Service) : Service :=
  let (scheduler, accepted) := s.scheduler.start
  { s with scheduler, log := s.log ++ [(s.clock base, .start accepted)] }

/-- The scheduler is told to stop. -/
def stop (base : Instant) (s : Service) : Service :=
  let (scheduler, accepted) := s.scheduler.stop
  { s with scheduler, log := s.log ++ [(s.clock base, .stop accepted)] }

/-- The timer wakes, and may spawn a scheduled run. -/
def wake (plan : BillingPlan) (base : Instant) (s : Service) : Service :=
  match s.scheduler.wake (some (s.clock base)) s.elapsed with
  | (scheduler, false) => { s with scheduler }
  | (scheduler, true) =>
    { s with
      scheduler
      activities := s.activities ++ [⟨.queued .scheduled, (runScheduled plan).run⟩]
      log := s.log ++ [(s.clock base, .spawn s.activities.length)] }

@[simp] theorem elapsed_wake (plan : BillingPlan) (base : Instant) (s : Service) :
    (s.wake plan base).elapsed = s.elapsed := by
  unfold wake
  split <;> rfl

/-- The timer has something to do by now. -/
def IsDue (s : Service) : Prop :=
  ∃ wake, s.scheduler.wakes? s.elapsed = some wake ∧ wake ≤ s.elapsed

end Service

/-- What a service may come to that begins when the clock shows `base`. -/
inductive Operates (c : Collaborators) (plan : BillingPlan) (base : Instant) : Service → Prop where
  | rest : Operates c plan base {}
  | start {s : Service} (before : Operates c plan base s) : Operates c plan base (s.start base)
  | stop {s : Service} (before : Operates c plan base s) : Operates c plan base (s.stop base)
  /-- Some milliseconds pass; a timer that was just started reads the clock before. -/
  | pass {s : Service} (before : Operates c plan base s) (begun : s.scheduler.timer ≠ some .fresh)
      (ms : Nat) : Operates c plan base { s with elapsed := s.elapsed + ms }
  | wake {s : Service} (before : Operates c plan base s) (due : s.IsDue) :
      Operates c plan base (s.wake plan base)
  /-- Somebody else makes a call. -/
  | call {s : Service} (before : Operates c plan base s) (call : ServiceCall) :
      Operates c plan base { s with activities := s.activities ++ [⟨call, (call.program plan).run⟩] }
  /-- A call goes on, or breaks down. -/
  | move {s : Service} {later : Transcript × List Activity} (before : Operates c plan base s)
      (move : Moves c (s.transcript, s.activities) later) :
      Operates c plan base { s with transcript := later.1, activities := later.2 }

/-! ## What is expected -/

namespace Scheduler.Log

/-- The time of a start that no stop has followed, and what has happened since; none after a stop. -/
def sessionAfter : Option (Instant × Log) → Instant × Event → Option (Instant × Log)
  | _, (_, .stop _) => none
  | none, (t, .start _) => some (t, [])
  | none, (_, .spawn _) => none
  | some (t, since), e => some (t, since ++ [e])

/-- When the scheduler was started, if it is running by this log, and what has happened since. -/
def session (log : Log) : Option (Instant × Log) :=
  log.foldl sessionAfter none

/-- The number of timers that are live after an event. -/
def timersAfter (n : Nat) : Instant × Event → Nat
  | (_, .start true) => n + 1
  | (_, .stop true) => n - 1
  | _ => n

/-- The number of live timers: those started, less those stopped. -/
def timers (log : Log) : Nat :=
  log.foldl timersAfter 0

/-- The runs that were spawned, and when. -/
def spawns (log : Log) : List (Instant × Nat) :=
  log.filterMap fun
    | (t, .spawn call) => some (t, call)
    | _ => none

end Scheduler.Log

/-- The first instants of the months after `t` and up to `now`, in order. -/
structure AreFires (t now : Instant) (fires : List Instant) : Prop where
  ascending : fires.Pairwise Instant.Before
  mem_iff : ∀ b, b ∈ fires ↔ (∃ m, b.IsFirstOf m) ∧ t.Before b ∧ ¬ now.Before b

/-- The scheduler has done what was expected of it. -/
structure OnSchedule (c : Collaborators) (plan : BillingPlan) (base : Instant) (s : Service) : Prop where
  /-- It accepts a start exactly if it was stopped, -/
  started : ∀ (before after : Scheduler.Log) t accepted,
    s.log = before ++ (t, .start accepted) :: after → (accepted = true ↔ before.session = none)
  /-- and a stop exactly if it was running. -/
  stopped : ∀ (before after : Scheduler.Log) t accepted,
    s.log = before ++ (t, .stop accepted) :: after → (accepted = true ↔ before.session ≠ none)
  running : s.scheduler.isRunning = s.log.session.isSome
  /-- At every point one timer is live, or none if the scheduler is stopped. -/
  one_timer : ∀ before after : Scheduler.Log, s.log = before ++ after →
    before.timers = if before.session.isSome then 1 else 0
  /-- While it runs, it spawns one run for each fire after its start, in order and none before its
  fire; those that are missing are due. -/
  monthly : ∀ t (since : Scheduler.Log), s.log.session = some (t, since) →
    ∃ fires, AreFires t (s.clock base) fires ∧
      List.Forall₂ (fun b spawn => ¬ spawn.1.Before b) (fires.take since.spawns.length) since.spawns ∧
      (¬ s.IsDue → since.spawns.length = fires.length)
  /-- What is due is done before any more time passes. -/
  settles : ∃ s', Operates c plan base s' ∧ ¬ s'.IsDue ∧ s'.elapsed = s.elapsed ∧
    ∃ later : Scheduler.Log, s'.log = s.log ++ later ∧ ∀ e ∈ later, ∃ i, e.2 = .spawn i
  /-- After a stop nothing is spawned until a start succeeds. -/
  silent : ∀ (before during after : Scheduler.Log) t accepted u i,
    s.log = before ++ (t, .stop accepted) :: (during ++ (u, .spawn i) :: after) →
    ∃ v, (v, .start true) ∈ during
  /-- Each run is spawned once, -/
  distinct : (s.log.spawns.map (·.2)).Nodup
  /-- and goes on to its end if it is left to itself, whether or not the scheduler runs. -/
  completes : ∀ t i, (t, .spawn i) ∈ s.log → ∃ rest, s.activities[i]? = some ⟨.queued .scheduled, rest⟩ ∧
    ∃ (own : List Happening) (result : Except Crash (Except ServiceError RunOutcome)),
      Operates c plan base { s with
        transcript := s.transcript ++ own.map fun h => (i, h)
        activities := s.activities.set i ⟨.queued .scheduled, orCrash result⟩ }

/-! ## Logs -/

namespace Scheduler.Log

variable {log : Log} {e : Instant × Event} {t : Instant} {since : Log}

theorem session_snoc (log : Log) (e : Instant × Event) :
    session (log ++ [e]) = sessionAfter log.session e :=
  List.foldl_append

theorem timers_snoc (log : Log) (e : Instant × Event) :
    timers (log ++ [e]) = timersAfter log.timers e :=
  List.foldl_append

@[simp] theorem spawns_append (log later : Log) : spawns (log ++ later) = log.spawns ++ later.spawns :=
  List.filterMap_append

/-- The answer to a start or a stop says whether it changed anything, and a run is spawned only by
a running scheduler. -/
def Fits (session : Option (Instant × Log)) : Instant × Event → Prop
  | (_, .start accepted) => accepted = true ↔ session = none
  | (_, .stop accepted) => accepted = true ↔ session ≠ none
  | (_, .spawn _) => session ≠ none

/-- Every event fits what has happened before it. -/
def Consistent (log : Log) : Prop :=
  ∀ (before after : Log) (e : Instant × Event), log = before ++ e :: after → Fits before.session e

theorem Consistent.nil : Consistent [] := by
  intro before after e split
  simp at split

/-- A log goes on with an event that fits. -/
theorem Consistent.snoc (h : Consistent log) (fits : Fits log.session e) : Consistent (log ++ [e]) := by
  intro before after e' split
  rcases List.eq_nil_or_concat after with rfl | ⟨after, last, rfl⟩
  · obtain ⟨rfl, same⟩ := List.append_inj' split rfl
    cases same
    exact fits
  · rw [List.concat_eq_append, ← List.cons_append, ← List.append_assoc] at split
    obtain ⟨rfl, -⟩ := List.append_inj' split rfl
    exact h before after e' rfl

theorem Consistent.earlier {later : Log} (h : Consistent (log ++ later)) : Consistent log := by
  rintro before after e rfl
  exact h before (after ++ later) e (by simp)

/-- One timer is live while the scheduler runs. -/
theorem Consistent.timers_eq (h : Consistent log) :
    log.timers = if log.session.isSome then 1 else 0 := by
  induction log using List.reverseRecOn with
  | nil => rfl
  | append_singleton log e ih =>
    have before := ih h.earlier
    have fits := h log [] e rfl
    rw [timers_snoc, session_snoc, before]
    obtain ⟨t, event⟩ := e
    generalize session log = current at fits ⊢
    cases current <;> cases event <;> simp_all [Fits, timersAfter, sessionAfter]

/-- A scheduler that is running after it was stopped was started in between. -/
theorem exists_start {during : Log} (running : during.foldl sessionAfter none ≠ none) :
    ∃ (first rest : Log) (t : Instant) (accepted : Bool), during = first ++ (t, .start accepted) :: rest ∧
      first.foldl sessionAfter none = none := by
  induction during with
  | nil => exact absurd rfl running
  | cons e during ih =>
    obtain ⟨t, event⟩ := e
    cases event with
    | start accepted => exact ⟨[], during, t, accepted, rfl, rfl⟩
    | stop accepted =>
      obtain ⟨first, rest, u, accepted', rfl, stopped⟩ := ih running
      exact ⟨_ :: first, rest, u, accepted', rfl, stopped⟩
    | spawn call =>
      obtain ⟨first, rest, u, accepted', rfl, stopped⟩ := ih running
      exact ⟨_ :: first, rest, u, accepted', rfl, stopped⟩

/-- Between a stop and a run that is spawned after it there is a start. -/
theorem Consistent.start_between {before during after : Log} {t u : Instant} {accepted : Bool} {i : Nat}
    (h : Consistent (before ++ (t, .stop accepted) :: (during ++ (u, .spawn i) :: after))) :
    ∃ v, (v, .start true) ∈ during := by
  have running : session (before ++ (t, .stop accepted) :: during) ≠ none :=
    h _ after (u, .spawn i) (by simp)
  have stopped (during : Log) : session (before ++ (t, .stop accepted) :: during) =
      during.foldl sessionAfter none := by
    rw [session, List.foldl_append, List.foldl_cons]
    rfl
  rw [stopped] at running
  obtain ⟨first, rest, v, accepted', rfl, still_stopped⟩ := exists_start running
  have answered : accepted' = true ↔ session (before ++ (t, .stop accepted) :: first) = none :=
    h _ (rest ++ (u, .spawn i) :: after) (v, .start accepted') (by simp)
  obtain rfl := answered.2 ((stopped first).trans still_stopped)
  exact ⟨v, by simp⟩

end Scheduler.Log

/-! ## The timer -/

/-- The fire number `k`, counted from 0, of a timer that was started at `t`. -/
def fireAfter (t : Instant) (k : Nat) : Instant :=
  Instant.startOfMonth (t.month + k + 1)

/-- One run was spawned for each of the first fires after `t`, in order and none before its fire. -/
def InTime (t : Instant) (spawns : List (Instant × Nat)) : Prop :=
  List.Forall₂ (fun b spawn => ¬ spawn.1.Before b) ((List.range spawns.length).map (fireAfter t)) spawns

/-- What a timer stands at that was started at `t` and has spawned these runs. -/
inductive TimerAt (base : Instant) (elapsed : Nat) (t : Instant) (spawns : List (Instant × Nat)) :
    Timer → Prop where
  | fresh (just_now : t = base.addMillis elapsed) (nothing : spawns = []) :
      TimerAt base elapsed t spawns .fresh
  | waiting {wake : Nat}
      (over_iff : ∀ n, elapsed ≤ n →
        (wake ≤ n ↔ ¬ (base.addMillis n).Before (fireAfter t spawns.length)))
      (reached : t.month + spawns.length ≤ (base.addMillis elapsed).month)
      (in_time : InTime t spawns) :
      TimerAt base elapsed t spawns (.waiting (fireAfter t spawns.length) wake)

/-- The scheduler is in the state in which its log leaves it. -/
inductive Tracks (base : Instant) (elapsed : Nat) (log : Scheduler.Log) : Scheduler → Prop where
  | stopped (session : log.session = none) : Tracks base elapsed log ⟨none⟩
  | running {t : Instant} {since : Scheduler.Log} {timer : Timer}
      (session : log.session = some (t, since)) (stands : TimerAt base elapsed t since.spawns timer) :
      Tracks base elapsed log ⟨some timer⟩

section Timer

variable {base t : Instant} {elapsed : Nat} {log : Scheduler.Log} {scheduler : Scheduler}
  {spawns : List (Instant × Nat)} {timer : Timer}

theorem Tracks.isRunning (h : Tracks base elapsed log scheduler) :
    scheduler.isRunning = log.session.isSome := by
  cases h with
  | stopped session => rw [session]; rfl
  | running session => rw [session]; rfl

/-- A scheduler that has something to do is running. -/
theorem Tracks.session_ne_none (h : Tracks base elapsed log scheduler)
    (due : ∃ wake, scheduler.wakes? elapsed = some wake ∧ wake ≤ elapsed) : log.session ≠ none := by
  cases h with
  | stopped =>
    obtain ⟨wake, wakes, -⟩ := due
    cases wakes
  | running session =>
    rw [session]
    nofun

/-- A start begins a session, unless there is one already. -/
theorem Tracks.start (h : Tracks base elapsed log scheduler) :
    Tracks base elapsed (log ++ [(base.addMillis elapsed, .start scheduler.start.2)])
      scheduler.start.1 := by
  cases h with
  | stopped session =>
    have begun : Scheduler.Log.session (log ++ [(base.addMillis elapsed, .start true)]) =
        some (base.addMillis elapsed, []) := by
      rw [Scheduler.Log.session_snoc, session]
      rfl
    exact .running begun (.fresh rfl rfl)
  | @running t since timer session stands =>
    have goes_on : Scheduler.Log.session (log ++ [(base.addMillis elapsed, .start false)]) =
        some (t, since ++ [(base.addMillis elapsed, .start false)]) := by
      rw [Scheduler.Log.session_snoc, session]
      rfl
    refine .running goes_on ?_
    rw [Scheduler.Log.spawns_append]
    simpa [Scheduler.Log.spawns] using stands

/-- A stop ends the session. -/
theorem Tracks.stop (log : Scheduler.Log) (scheduler : Scheduler) :
    Tracks base elapsed (log ++ [(t, .stop scheduler.stop.2)]) scheduler.stop.1 :=
  .stopped (Scheduler.Log.session_snoc _ _)

/-- A wait that goes on while time passes. -/
theorem TimerAt.pass (h : TimerAt base elapsed t spawns timer) (begun : timer ≠ .fresh) (ms : Nat) :
    TimerAt base (elapsed + ms) t spawns timer := by
  cases h with
  | fresh => exact absurd rfl begun
  | waiting over_iff reached in_time =>
    refine .waiting (fun n later => over_iff n (by omega)) ?_ in_time
    exact Int.le_trans reached (Instant.month_addMillis_mono base (Nat.le_add_right elapsed ms))

theorem Tracks.pass (h : Tracks base elapsed log scheduler) (begun : scheduler.timer ≠ some .fresh)
    (ms : Nat) : Tracks base (elapsed + ms) log scheduler := by
  cases h with
  | stopped session => exact .stopped session
  | running session stands => exact .running session (stands.pass (mt (congrArg some) begun) ms)

/-- Before the clock shows the last month, a timer is set for the fire that follows. -/
theorem TimerAt.set {now : Instant} (within : (base.addMillis elapsed).month < Month.last)
    (reached : t.month + spawns.length ≤ (base.addMillis elapsed).month) (in_time : InTime t spawns)
    (current : now.month = t.month + spawns.length) :
    TimerAt base elapsed t spawns (Timer.set (nextFire now) (some (base.addMillis elapsed)) elapsed) := by
  have follows : now.month.next = t.month + spawns.length + 1 := by
    rw [current]
    exact if_neg (Int.not_le.2 (Int.lt_of_le_of_lt reached within))
  have next : nextFire now = fireAfter t spawns.length := congrArg Instant.startOfMonth follows
  rw [next]
  refine .waiting (fun n later => Instant.wait_over_iff ?_ later) reached in_time
  exact Instant.monthSecond_succ_le (Instant.le_month_iff.1 reached)

/-- A waiting timer is due when the clock shows its fire. -/
theorem TimerAt.reached_iff {due : Instant} {wake : Nat}
    (h : TimerAt base elapsed t spawns (.waiting due wake)) :
    wake ≤ elapsed ↔ t.month + spawns.length + 1 ≤ (base.addMillis elapsed).month := by
  cases h with
  | waiting over_iff =>
    rw [over_iff elapsed (Nat.le_refl _), fireAfter, Instant.before_startOfMonth_iff,
      ← Instant.month_lt_iff, Int.not_lt]

/-- A run that is spawned after its fire is in time. -/
theorem InTime.snoc {now : Instant} (h : InTime t spawns)
    (reached : ¬ now.Before (fireAfter t spawns.length)) (call : Nat) :
    InTime t (spawns ++ [(now, call)]) := by
  rw [InTime, List.length_append, List.length_singleton, List.range_succ, List.map_append]
  exact List.rel_append h (.cons reached .nil)

/-- A timer that wakes reads the clock and waits, or spawns a run and waits for the next fire. -/
theorem TimerAt.wake (h : TimerAt base elapsed t spawns timer)
    (within : (base.addMillis elapsed).month < Month.last)
    (due : ∃ wake, timer.wakes? elapsed = some wake ∧ wake ≤ elapsed) (call : Nat) :
    ∃ later, timer.wake (some (base.addMillis elapsed)) elapsed = (later, false) ∧
        TimerAt base elapsed t spawns later ∨
      timer.wake (some (base.addMillis elapsed)) elapsed = (later, true) ∧
        TimerAt base elapsed t (spawns ++ [(base.addMillis elapsed, call)]) later := by
  obtain ⟨wake, wakes, by_now⟩ := due
  cases h with
  | fresh just_now nothing =>
    subst nothing just_now
    exact ⟨_, .inl ⟨rfl, .set within (by simp) .nil (by simp)⟩⟩
  | @waiting wake' over_iff reached in_time =>
    obtain rfl : wake' = wake := Option.some.inj wakes
    have shown := (over_iff elapsed (Nat.le_refl _)).1 by_now
    have later := (TimerAt.waiting over_iff reached in_time).reached_iff.1 by_now
    have count : t.month + ((spawns ++ [(base.addMillis elapsed, call)]).length : Nat) =
        t.month + spawns.length + 1 := by
      rw [List.length_append, List.length_singleton, Nat.cast_succ, add_assoc]
    refine ⟨_, .inr ⟨rfl, .set within ?_ (in_time.snoc shown call) ?_⟩⟩
    · rw [count]
      exact later
    · rw [count]
      exact Instant.month_startOfMonth _

/-- A timer that wakes sleeps on, or spawns the run of its fire and waits for the next one. -/
theorem Tracks.wake (h : Tracks base elapsed log scheduler)
    (within : (base.addMillis elapsed).month < Month.last)
    (due : ∃ wake, scheduler.wakes? elapsed = some wake ∧ wake ≤ elapsed) (call : Nat) :
    ∃ later, scheduler.wake (some (base.addMillis elapsed)) elapsed = (later, false) ∧
        Tracks base elapsed log later ∨
      scheduler.wake (some (base.addMillis elapsed)) elapsed = (later, true) ∧
        Tracks base elapsed (log ++ [(base.addMillis elapsed, .spawn call)]) later := by
  cases h with
  | stopped =>
    obtain ⟨wake, wakes, -⟩ := due
    cases wakes
  | @running t since timer session stands =>
    obtain ⟨later, ⟨woken, stands⟩ | ⟨woken, stands⟩⟩ := stands.wake within due call
    · refine ⟨⟨some later⟩, .inl ⟨?_, .running session stands⟩⟩
      simp only [Scheduler.wake, woken]
    · have goes_on : Scheduler.Log.session (log ++ [(base.addMillis elapsed, .spawn call)]) =
          some (t, since ++ [(base.addMillis elapsed, .spawn call)]) := by
        rw [Scheduler.Log.session_snoc, session]
        rfl
      refine ⟨⟨some later⟩, .inr ⟨?_, .running goes_on ?_⟩⟩
      · simp only [Scheduler.wake, woken]
      · rw [Scheduler.Log.spawns_append]
        exact stands

end Timer

/-! ## Services -/

/-- What holds at every point of an operation. -/
structure InOrder (base : Instant) (s : Service) : Prop where
  tracks : Tracks base s.elapsed s.log s.scheduler
  consistent : s.log.Consistent
  /-- The runs that were spawned are scheduled calls, in the order of their numbers. -/
  ascending : (s.log.spawns.map (·.2)).Pairwise (· < ·)
  made : ∀ i ∈ s.log.spawns.map (·.2), (s.activities.map (·.call))[i]? = some (.queued .scheduled)

section InOrder

variable {c : Collaborators} {plan : BillingPlan} {base : Instant} {s : Service}

/-- A start keeps the service in order. -/
theorem InOrder.start (h : InOrder base s) : InOrder base (s.start base) where
  tracks := h.tracks.start
  consistent := by
    refine h.consistent.snoc ?_
    have running := h.tracks.isRunning
    show s.scheduler.start.2 = true ↔ s.log.session = none
    unfold Scheduler.start
    rw [running]
    cases s.log.session <;> simp
  ascending := by simpa [Service.start, Scheduler.Log.spawns] using h.ascending
  made := by simpa [Service.start, Scheduler.Log.spawns] using h.made

theorem InOrder.stop (h : InOrder base s) : InOrder base (s.stop base) where
  tracks := .stop s.log s.scheduler
  consistent := by
    refine h.consistent.snoc ?_
    show s.scheduler.isRunning = true ↔ s.log.session ≠ none
    rw [h.tracks.isRunning]
    cases s.log.session <;> simp
  ascending := by simpa [Service.stop, Scheduler.Log.spawns] using h.ascending
  made := by simpa [Service.stop, Scheduler.Log.spawns] using h.made

theorem InOrder.pass (h : InOrder base s) (begun : s.scheduler.timer ≠ some .fresh) (ms : Nat) :
    InOrder base { s with elapsed := s.elapsed + ms } :=
  { h with tracks := h.tracks.pass begun ms }

/-- Calls that are made, go on or break down make no difference. -/
theorem InOrder.calls {t : Transcript} {activities : List Activity} (h : InOrder base s)
    (kept : s.activities.map (·.call) <+: activities.map (·.call)) :
    InOrder base { s with transcript := t, activities } :=
  { h with
    made := fun i member => by
      obtain ⟨more, same⟩ := kept
      have before := h.made i member
      rw [← same, List.getElem?_append_left (List.getElem?_eq_some_iff.1 before).1]
      exact before }

theorem InOrder.wake (h : InOrder base s) (within : (s.clock base).month < Month.last)
    (due : s.IsDue) : InOrder base (s.wake plan base) := by
  obtain ⟨later, ⟨woken, tracks⟩ | ⟨woken, tracks⟩⟩ :=
    h.tracks.wake within due s.activities.length
  · have waits : s.wake plan base = { s with scheduler := later } := by
      simp only [Service.wake, Service.clock, woken]
    rw [waits]
    exact { h with tracks }
  · have spawned : s.wake plan base = { s with
        scheduler := later
        activities := s.activities ++ [⟨.queued .scheduled, (runScheduled plan).run⟩]
        log := s.log ++ [(s.clock base, .spawn s.activities.length)] } := by
      simp only [Service.wake, Service.clock, woken]
    rw [spawned]
    have numbers : (Scheduler.Log.spawns (s.log ++ [(s.clock base, .spawn s.activities.length)])).map (·.2) =
        s.log.spawns.map (·.2) ++ [s.activities.length] := by
      rw [Scheduler.Log.spawns_append, List.map_append]
      rfl
    refine ⟨tracks, h.consistent.snoc (h.tracks.session_ne_none due), ?_, ?_⟩
    · rw [numbers, List.pairwise_append]
      refine ⟨h.ascending, List.pairwise_singleton _ _, fun i old j new => ?_⟩
      have known := (List.getElem?_eq_some_iff.1 (h.made i old)).1
      rw [List.mem_singleton.1 new]
      simpa using known
    · rw [numbers]
      intro i member
      rw [List.map_append]
      rcases List.mem_append.1 member with old | new
      · have before := h.made i old
        rwa [List.getElem?_append_left (List.getElem?_eq_some_iff.1 before).1]
      · simp [List.mem_singleton.1 new]

/-- However a service is operated, it is in order. -/
theorem Operates.inOrder (h : Operates c plan base s) (within : (s.clock base).month < Month.last) :
    InOrder base s := by
  induction h with
  | rest => exact ⟨.stopped rfl, .nil, .nil, nofun⟩
  | start _ ih => exact (ih within).start
  | stop _ ih => exact (ih within).stop
  | @pass s _ begun ms ih =>
    have earlier := Instant.month_addMillis_mono base (Nat.le_add_right s.elapsed ms)
    exact (ih (Int.lt_of_le_of_lt earlier within)).pass begun ms
  | wake _ due ih =>
    rw [Service.clock, Service.elapsed_wake] at within
    exact (ih within).wake within due
  | call _ call ih =>
    refine (ih within).calls ?_
    rw [List.map_append]
    exact List.prefix_append _ _
  | move _ move ih =>
    refine (ih within).calls ?_
    rw [move.map_call]

end InOrder

/-! ## Fires -/

section Fires

variable {c : Collaborators} {plan : BillingPlan} {base t now : Instant} {s : Service}

/-- The fires after `t`, one for each month up to that of `now`. -/
theorem areFires_range (t now : Instant) :
    AreFires t now ((List.range (now.month - t.month).toNat).map (fireAfter t)) where
  ascending := by
    rw [List.pairwise_map]
    refine List.pairwise_lt_range.imp fun {j k} earlier => ?_
    rw [fireAfter, fireAfter, Instant.before_startOfMonth_iff]
    exact Instant.monthSecond_strictMono (by unfold Month; omega)
  mem_iff b := by
    have reached (m : Month) : t.Before (Instant.startOfMonth m) ∧ ¬ now.Before (Instant.startOfMonth m) ↔
        t.month < m ∧ m ≤ now.month := by
      rw [Instant.before_startOfMonth_iff, Instant.before_startOfMonth_iff, ← Instant.month_lt_iff,
        ← Instant.month_lt_iff, Int.not_lt]
    simp only [List.mem_map, List.mem_range, Instant.isFirstOf_iff]
    constructor
    · rintro ⟨k, below, rfl⟩
      refine ⟨⟨_, rfl⟩, (reached _).2 ?_⟩
      unfold Month
      omega
    · rintro ⟨⟨m, rfl⟩, between⟩
      obtain ⟨after, by_now⟩ := (reached m).1 between
      refine ⟨(m - t.month - 1).toNat, ?_, congrArg Instant.startOfMonth ?_⟩ <;> unfold Month at * <;> omega

/-- While a scheduler runs, the runs that it has spawned are those of the first fires, and of all
fires when nothing is due. -/
theorem Tracks.monthly {elapsed : Nat} {log since : Scheduler.Log} {scheduler : Scheduler}
    (h : Tracks base elapsed log scheduler) (session : log.session = some (t, since)) :
    ∃ fires, AreFires t (base.addMillis elapsed) fires ∧
      List.Forall₂ (fun b spawn => ¬ spawn.1.Before b) (fires.take since.spawns.length) since.spawns ∧
      (¬ (∃ wake, scheduler.wakes? elapsed = some wake ∧ wake ≤ elapsed) →
        since.spawns.length = fires.length) := by
  cases h with
  | stopped stopped => cases stopped.symm.trans session
  | @running t' since' timer session' stands =>
    cases session'.symm.trans session
    have in_time : InTime t since.spawns := by
      cases stands with
      | fresh _ nothing => rw [nothing]; exact .nil
      | waiting _ _ in_time => exact in_time
    have spawned : t.month + since.spawns.length ≤ (base.addMillis elapsed).month := by
      cases stands with
      | fresh just_now nothing => simp [nothing, just_now]
      | waiting _ reached => exact reached
    refine ⟨_, areFires_range t _, ?_, fun settled => ?_⟩
    · rw [← List.map_take, List.take_range, Nat.min_eq_left (by unfold Month at *; omega)]
      exact in_time
    · have all : (base.addMillis elapsed).month < t.month + since.spawns.length + 1 := by
        cases stands with
        | fresh => exact absurd ⟨elapsed, rfl, Nat.le_refl _⟩ settled
        | @waiting wake over_iff reached in_time =>
          have not_yet : ¬ wake ≤ elapsed := fun by_now => settled ⟨wake, rfl, by_now⟩
          exact Int.not_le.1 (mt (TimerAt.waiting over_iff reached in_time).reached_iff.2 not_yet)
      rw [List.length_map, List.length_range]
      unfold Month at *
      omega

/-- How often the scheduler still wakes until nothing is due, when the clock shows `now`. -/
def Scheduler.pending (now : Instant) (s : Scheduler) : Nat :=
  match s.timer with
  | some .fresh => 1
  | some (.waiting due _) => (now.month + 1 - due.month).toNat
  | _ => 0

/-- A scheduler that wakes has fewer fires to catch up with. -/
theorem Tracks.pending_wake {elapsed : Nat} {log : Scheduler.Log} {scheduler : Scheduler}
    (h : Tracks base elapsed log scheduler) (within : (base.addMillis elapsed).month < Month.last)
    (due : ∃ wake, scheduler.wakes? elapsed = some wake ∧ wake ≤ elapsed) :
    (scheduler.wake (some (base.addMillis elapsed)) elapsed).1.pending (base.addMillis elapsed) <
      scheduler.pending (base.addMillis elapsed) := by
  have following {now : Instant} (shown : now.month ≤ (base.addMillis elapsed).month) :
      (nextFire now).month = now.month + 1 := by
    rw [nextFire, Instant.month_startOfMonth]
    exact if_neg (Int.not_le.2 (Int.lt_of_le_of_lt shown within))
  obtain ⟨wake, wakes, by_now⟩ := due
  cases h with
  | stopped => cases wakes
  | @running t since timer session stands =>
    cases stands with
    | fresh =>
      show ((base.addMillis elapsed).month + 1 - (nextFire (base.addMillis elapsed)).month).toNat < 1
      rw [following (Int.le_refl _), Int.sub_self]
      decide
    | @waiting wake' over_iff reached in_time =>
      obtain rfl : wake' = wake := Option.some.inj wakes
      have shown := (TimerAt.waiting over_iff reached in_time).reached_iff.1 by_now
      have month : (fireAfter t since.spawns.length).month = t.month + since.spawns.length + 1 :=
        Instant.month_startOfMonth _
      show ((base.addMillis elapsed).month + 1 -
          (nextFire (fireAfter t since.spawns.length)).month).toNat <
        ((base.addMillis elapsed).month + 1 - (fireAfter t since.spawns.length).month).toNat
      rw [following (month ▸ shown), month]
      unfold Month at *
      omega

end Fires

/-! ## The schedule is kept -/

section Operates

variable {c : Collaborators} {plan : BillingPlan} {base : Instant} {s : Service}

/-- A service that wakes goes on where its scheduler does, and spawns a run or does not. -/
theorem Service.scheduler_wake (plan : BillingPlan) (base : Instant) (s : Service) :
    (s.wake plan base).scheduler = (s.scheduler.wake (some (s.clock base)) s.elapsed).1 ∧
      ∃ later : Scheduler.Log, (s.wake plan base).log = s.log ++ later ∧
        ∀ e ∈ later, ∃ i, e.2 = .spawn i := by
  unfold wake
  split
  next woken => exact ⟨by rw [woken], [], (List.append_nil _).symm, List.forall_mem_nil _⟩
  next woken =>
    exact ⟨by rw [woken], _, rfl, List.forall_mem_singleton.2 ⟨s.activities.length, rfl⟩⟩

/-- What is due can be done before any more time passes. -/
theorem Operates.settles (h : Operates c plan base s) (within : (s.clock base).month < Month.last) :
    ∃ s', Operates c plan base s' ∧ ¬ s'.IsDue ∧ s'.elapsed = s.elapsed ∧
      ∃ later : Scheduler.Log, s'.log = s.log ++ later ∧ ∀ e ∈ later, ∃ i, e.2 = .spawn i := by
  induction pending : s.scheduler.pending (s.clock base) using Nat.strong_induction_on generalizing s with
  | h n ih =>
    by_cases due : s.IsDue
    · obtain ⟨scheduler, spawned, log, runs⟩ := s.scheduler_wake plan base
      have same_clock : (s.wake plan base).clock base = s.clock base := by
        rw [Service.clock, Service.elapsed_wake, Service.clock]
      have fewer : (s.wake plan base).scheduler.pending ((s.wake plan base).clock base) < n := by
        rw [same_clock, scheduler, ← pending]
        exact (h.inOrder within).tracks.pending_wake within due
      obtain ⟨s', operates, settled, elapsed, later, log', runs'⟩ :=
        ih _ fewer (h.wake due) (same_clock ▸ within) rfl
      refine ⟨s', operates, settled, elapsed.trans (Service.elapsed_wake ..), spawned ++ later, ?_, ?_⟩
      · rw [log', log, List.append_assoc]
      · intro e member
        exact (List.mem_append.1 member).elim (runs e) (runs' e)
    · exact ⟨s, h, due, rfl, [], by simp, by simp⟩

/-- Calls that are on their way may go on for several steps. -/
theorem Operates.moves {later : Transcript × List Activity} (h : Operates c plan base s)
    (moves : Relation.ReflTransGen (Moves c) (s.transcript, s.activities) later) :
    Operates c plan base { s with transcript := later.1, activities := later.2 } := by
  induction moves with
  | refl => exact h
  | tail _ move ih => exact ih.move move

/-- Whatever is done with the scheduler and whatever becomes of the calls, it keeps the schedule as long
as the clock does not show the last month that can be represented. -/
theorem operated_on_schedule (h : Operates c plan base s)
    (within : (s.clock base).Before (Instant.startOfMonth Month.last)) : OnSchedule c plan base s := by
  have before_last : (s.clock base).month < Month.last := by
    rwa [Instant.before_startOfMonth_iff, ← Instant.month_lt_iff] at within
  have ordered := h.inOrder before_last
  refine ⟨?_, ?_, ordered.tracks.isRunning, ?_, fun t since => ordered.tracks.monthly,
    h.settles before_last, ?_, ?_, ?_⟩
  · intro before after t accepted split
    exact ordered.consistent before after _ split
  · intro before after t accepted split
    exact ordered.consistent before after _ split
  · intro before after split
    have consistent := ordered.consistent
    rw [split] at consistent
    exact consistent.earlier.timers_eq
  · intro before during after t accepted u i split
    have consistent := ordered.consistent
    rw [split] at consistent
    exact consistent.start_between
  · exact ordered.ascending.imp Nat.ne_of_lt
  · intro t i member
    have spawned : i ∈ s.log.spawns.map (·.2) :=
      List.mem_map.2 ⟨(t, i), List.mem_filterMap.2 ⟨_, member, rfl⟩, rfl⟩
    have made := ordered.made i spawned
    rw [List.getElem?_map, Option.map_eq_some_iff] at made
    obtain ⟨⟨call, rest⟩, here, rfl⟩ := made
    obtain ⟨own, result, -, moves⟩ := exists_moves c s.transcript here
    exact ⟨rest, here, own, result, h.moves moves⟩

end Operates

/-! ## Two months at once -/

namespace BegunLate

open Overlapping (collaborators plan)

/-- The first of February 2026. -/
def february : Instant := ⟨1769904000, 0⟩

/-- The timer is started half a second before January and sleeps until February; then the scheduler is
stopped. -/
def caughtUp : Service :=
  let started := (Service.start eve {}).wake plan eve
  let slept := { started with elapsed := started.elapsed + 2678400500 }
  ((slept.wake plan eve).wake plan eve).stop eve

/-- Two months are over at once, and the timer spawns both runs. -/
theorem operates_caughtUp : Operates collaborators plan eve caughtUp := by
  have started : Operates collaborators plan eve (Service.start eve {}) := .start .rest
  have waits := started.wake ⟨0, rfl, Nat.le_refl _⟩
  have slept := waits.pass (by decide) 2678400500
  have january := slept.wake ⟨500, by decide, by decide⟩
  have february := january.wake ⟨2678400500, by decide, by decide⟩
  exact february.stop

/-- It spawns one run for January and one for February. -/
theorem two_months_on_schedule : OnSchedule collaborators plan eve caughtUp ∧
    caughtUp.log = [(eve, .start true), (february, .spawn 0), (february, .spawn 1),
      (february, .stop true)] :=
  ⟨operated_on_schedule operates_caughtUp (by decide), by decide⟩

end BegunLate

end UsageBilling
