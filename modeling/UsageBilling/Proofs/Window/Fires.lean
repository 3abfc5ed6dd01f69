import UsageBilling.Proofs.Calendar.Gregorian
import UsageBilling.Scheduler

/-!
# Windows of successive fires

The fires of the schedule are the first instants of the months, one after
another up to the last month that can be represented. A scheduled run between a
fire and the next one bills the month before the fire. So the runs of a timer,
each late by less than a month, bill the months one by one, from the one in
which the timer began.
-/

namespace UsageBilling

open Calendar (Instant Month)

/-! ## Fires -/

/-- The fires that follow one another after `t`, counted from 0. -/
def fire (t : Instant) : Nat → Instant
  | 0 => nextFire t
  | k + 1 => nextFire (fire t k)

/-- The instant `run` belongs to the fire number `k` after `t`: it is not before this fire, and it
is before the next one. -/
structure RunsFor (t : Instant) (k : Nat) (run : Instant) : Prop where
  due : ¬ run.Before (fire t k)
  early : run.Before (fire t (k + 1))

theorem Calendar.Instant.month_startOfMonth (m : Month) : (startOfMonth m).month = m :=
  month_eq_iff.2 ⟨Int.le_refl _, monthSecond_strictMono (Int.lt_succ m)⟩

/-- The next month stays at the last one. -/
theorem Calendar.Month.next_eq_min {m : Month} (h : m ≤ last) : m.next = min (m + 1) last := by
  unfold next
  unfold Month at *
  split <;> omega

/-- The fires are the first instants of the months that follow, and stay at the last month. -/
theorem fire_eq {t : Instant} (within : t.InRange) (k : Nat) :
    fire t k = Instant.startOfMonth (min (t.month + k + 1) Month.last) := by
  induction k with
  | zero =>
    show Instant.startOfMonth t.month.next = _
    rw [Month.next_eq_min within.month.2, Nat.cast_zero, add_zero]
  | succ k ih =>
    have next : Month.next (min (t.month + k + 1) Month.last) =
        min (t.month + (k + 1 : Nat) + 1) Month.last := by
      rw [Month.next_eq_min (min_le_right _ _)]
      unfold Month
      omega
    show Instant.startOfMonth (fire t k).month.next = _
    rw [ih, Instant.month_startOfMonth, next]

/-- As long as there is a month to follow, a fire is followed by a later one. -/
theorem runsFor_fire {t : Instant} (within : t.InRange) {k : Nat}
    (room : t.month + k + 1 < Month.last) : RunsFor t k (fire t k) := by
  constructor
  · unfold Instant.Before
    omega
  · have later : min (t.month + k + 1) Month.last < min (t.month + (k + 1 : Nat) + 1) Month.last := by
      unfold Month at *
      omega
    rw [fire_eq within (k + 1), Instant.before_startOfMonth_iff, fire_eq within k]
    exact Instant.monthSecond_strictMono later

/-- A run that belongs to a fire is in the month that begins with it, and another month follows. -/
theorem RunsFor.month_eq {t run : Instant} {k : Nat} (h : RunsFor t k run) (within : t.InRange) :
    run.month = t.month + k + 1 ∧ t.month + k + 1 < Month.last := by
  have due := h.due
  have early := h.early
  rw [fire_eq within, Instant.before_startOfMonth_iff, ← Instant.month_lt_iff] at due early
  unfold Month at *
  omega

/-! ## Windows -/

/-- A run that belongs to the fire number `k` bills the month number `k` after that of `t`, of every
instance that is not younger than the month of `t`. -/
theorem RunsFor.windowStart_eq {t run created : Instant} {k : Nat} (h : RunsFor t k run)
    (within : t.InRange) (old : ¬ (Instant.startOfMonth t.month).Before created) :
    windowStart created .scheduled run = .ok (Instant.startOfMonth (t.month + k)) := by
  have low := within.month.1
  have above : Month.first < t.month + k + 1 := by
    unfold Month at *
    omega
  have billed : billedMonth .scheduled run = t.month + k := by
    show run.month.previous = _
    rw [(h.month_eq within).1, Month.previous_of_lt above, Int.add_sub_cancel]
  have older : ¬ (Instant.startOfMonth (t.month + k)).Before created := by
    have later : t.month ≤ t.month + k := Int.le_add_of_nonneg_right (Int.natCast_nonneg k)
    have months := Instant.monthSecond_strictMono.monotone later
    rw [Instant.startOfMonth_before_iff] at old ⊢
    omega
  unfold windowStart
  rw [billed]
  exact if_neg older

/-! ## Timers -/

namespace Timer

/-- The fire that a timer waits for. -/
def due? : Timer → Option Instant
  | waiting due _ => some due
  | _ => none

/-- The timer after it woke again and again, each time with a reading of the clock and the time that
has passed. -/
def afterWakes (timer : Timer) (readings : List (Instant × Nat)) : Timer :=
  readings.foldl (fun timer reading => (timer.wake (some reading.1) reading.2).1) timer

/-- A timer that wakes starts a run and waits for the next fire, whatever the clock says. -/
theorem wake_waiting (due now : Instant) (wakes elapsed : Nat) :
    ∃ later, (waiting due wakes).wake (some now) elapsed = (waiting (nextFire due) later, true) :=
  ⟨_, rfl⟩

/-- With every wake the timer goes on to the next fire. -/
theorem afterWakes_waiting (due : Instant) (wakes : Nat) (readings : List (Instant × Nat)) :
    ∃ later, (waiting due wakes).afterWakes readings =
      waiting ((nextFire)^[readings.length] due) later := by
  induction readings generalizing due wakes with
  | nil => exact ⟨wakes, rfl⟩
  | cons reading readings ih =>
    obtain ⟨later, woken⟩ := wake_waiting due reading.1 wakes reading.2
    obtain ⟨end_of_wait, after⟩ := ih (nextFire due) later
    refine ⟨end_of_wait, ?_⟩
    rw [afterWakes, List.foldl_cons, woken]
    exact after

end Timer

theorem fire_eq_iterate (t : Instant) (k : Nat) : fire t k = nextFire^[k] (nextFire t) := by
  induction k with
  | zero => rfl
  | succ k ih => rw [Function.iterate_succ_apply', ← ih, fire]

/-- A timer that began at `t` and woke `k` times waits for the fire number `k`. -/
theorem Timer.due?_afterWakes (t : Instant) (elapsed : Nat) (readings : List (Instant × Nat)) :
    ((Timer.begin (some t) elapsed).afterWakes readings).due? = some (fire t readings.length) := by
  obtain ⟨later, after⟩ :=
    afterWakes_waiting (nextFire t) (elapsed + waitLasting (t.millisUntil (nextFire t))) readings
  rw [fire_eq_iterate]
  exact congrArg Timer.due? after

/-! ## The months that are billed -/

/-- The first instant of the month before the fire number `k` after an instant whose month begins
with `first`. -/
def monthBefore (first t : Instant) : Nat → Instant
  | 0 => first
  | k + 1 => fire t k

/-- A scheduled run at `run` bills an instance that was created at `created` for the month. -/
def BillsMonth (created run : Instant) (m : Month) : Prop :=
  ∃ start, windowStart created .scheduled run = .ok start ∧ start.IsFirstOf m

/-- A run that belongs to a fire finds it within the calendar. -/
theorem RunsFor.fire_eq {t run : Instant} {k : Nat} (h : RunsFor t k run) (within : t.InRange) :
    fire t k = Instant.startOfMonth (t.month + k + 1) := by
  rw [UsageBilling.fire_eq within, min_eq_left (le_of_lt (h.month_eq within).2)]

/-- The month before a fire is counted from that of the beginning. -/
theorem RunsFor.monthBefore_eq {t run : Instant} {k : Nat} (h : RunsFor t k run)
    (within : t.InRange) :
    monthBefore (Instant.startOfMonth t.month) t k = Instant.startOfMonth (t.month + k) := by
  cases k with
  | zero =>
    show Instant.startOfMonth t.month = _
    rw [Nat.cast_zero, add_zero]
  | succ j =>
    have room := (h.month_eq within).2
    have earlier : t.month + j + 1 ≤ Month.last := by
      unfold Month at *
      omega
    show fire t j = _
    rw [UsageBilling.fire_eq within, min_eq_left earlier, Nat.cast_succ, add_assoc]

/-- Runs that belong to successive fires bill each of as many months once. -/
theorem existsUnique_billsMonth {t created : Instant} {runs : Nat → Instant} {count : Nat}
    (within : t.InRange) (old : ¬ (Instant.startOfMonth t.month).Before created)
    (in_turn : ∀ k < count, RunsFor t k (runs k)) {j : Nat} (below : j < count) :
    ∃! k, k < count ∧ BillsMonth created (runs k) (t.month + j) := by
  refine ⟨j, ⟨below, _, (in_turn j below).windowStart_eq within old, Instant.isFirstOf_iff.2 rfl⟩, ?_⟩
  rintro k ⟨inside, start, window, is_first⟩
  rw [(in_turn k inside).windowStart_eq within old] at window
  have same : Instant.startOfMonth (t.month + k) = Instant.startOfMonth (t.month + j) :=
    (Except.ok.inj window).trans (Instant.isFirstOf_iff.1 is_first)
  have months : t.month + k = t.month + j :=
    Instant.monthSecond_strictMono.injective (congrArg Instant.seconds same)
  exact Int.ofNat.inj (Int.add_left_cancel months)

/-- Let a timer begin at `t`, in the month `m`. It waits for one fire after the other, and a fire is
followed by a later one up to the last month. Whenever the run of a fire comes before the next fire,
it bills every instance that is as old as the month `m` for the month just before its fire. So any
runs of successive fires bill the months from `m` on, each once. -/
theorem fires_bill_successive_months {t first created : Instant} {m : Month} (within : t.InRange)
    (inside : t.LiesIn m) (opening : first.IsFirstOf m) (old : ¬ first.Before created) :
    (∀ elapsed readings, ((Timer.begin (some t) elapsed).afterWakes readings).due? =
      some (fire t readings.length)) ∧
    (∀ k : Nat, m + k + 1 < Month.last → RunsFor t k (fire t k)) ∧
    (∀ k run, RunsFor t k run →
      windowStart created .scheduled run = .ok (monthBefore first t k) ∧
      (monthBefore first t k).IsFirstOf (m + k) ∧ (fire t k).IsFirstOf (m + k + 1)) ∧
    (∀ (runs : Nat → Instant) (count : Nat), (∀ k < count, RunsFor t k (runs k)) →
      ∀ j < count, ∃! k, k < count ∧ BillsMonth created (runs k) (m + j)) := by
  obtain rfl := Instant.liesIn_iff.1 inside
  obtain rfl := Instant.isFirstOf_iff.1 opening
  refine ⟨Timer.due?_afterWakes t, fun k room => runsFor_fire within room, ?_, ?_⟩
  · intro k run h
    refine ⟨?_, Instant.isFirstOf_iff.2 (h.monthBefore_eq within),
      Instant.isFirstOf_iff.2 (h.fire_eq within)⟩
    rw [h.windowStart_eq within old, h.monthBefore_eq within]
  · intro runs count in_turn j below
    exact existsUnique_billsMonth within old in_turn below

/-! ## A timer that begins on New Year's Eve -/

namespace BegunLate

/-- Half a second before the year 2026. -/
def eve : Instant := ⟨1767225599, 500000000⟩

/-- The first of December 2025. -/
def december : Instant := ⟨1764547200, 0⟩

/-- The first of January 2026. -/
def january : Instant := ⟨1767225600, 0⟩

/-- A second before March 2026, when the run of the second fire is late by nearly a month. -/
def late : Instant := ⟨1772323199, 0⟩

theorem late_run_bills_january : eve.InRange ∧ eve.LiesIn (Month.ofYear 2025 12) ∧
    december.IsFirstOf (Month.ofYear 2025 12) ∧ ¬ december.Before december ∧ RunsFor eve 1 late ∧
    windowStart december .scheduled late = .ok january ∧
    january.IsFirstOf (Month.ofYear 2025 12 + 1) := by
  have within : eve.InRange := by decide
  have inside : eve.LiesIn (Month.ofYear 2025 12) := Instant.liesIn_iff.2 (by decide)
  have opening : december.IsFirstOf (Month.ofYear 2025 12) := Instant.isFirstOf_iff.2 (by decide)
  have old : ¬ december.Before december := by decide
  have belongs : RunsFor eve 1 late := ⟨by decide, by decide⟩
  obtain ⟨-, -, billed, -⟩ := fires_bill_successive_months within inside opening old
  obtain ⟨window, is_first, -⟩ := billed 1 late belongs
  exact ⟨within, inside, opening, old, belongs, window, is_first⟩

end BegunLate

end UsageBilling
