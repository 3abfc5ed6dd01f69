import UsageBilling.Proofs.Calendar.Month
import UsageBilling.Wait

/-!
# Time that passes

On the scale of nanoseconds a clock goes on with the milliseconds that pass. A
wait for the first instant of a month, set when it is not more than 31 days off,
is over exactly when the clock shows this instant or a later one.
-/

namespace UsageBilling.Calendar.Instant

/-- Nanoseconds since 1970-01-01T00:00:00Z. -/
def total (t : Instant) : Int :=
  1000000000 * t.seconds + t.nanos

section Total

variable {s t : Instant} {ms n : Nat} {m : Month}

/-- A millisecond is a million nanoseconds of the total. -/
theorem total_addMillis (t : Instant) (ms : Nat) :
    (t.addMillis ms).total = t.total + 1000000 * ms := by
  unfold total addMillis
  simp only
  omega

theorem seconds_addMillis (t : Instant) (ms : Nat) :
    (t.addMillis ms).seconds = (t.total + 1000000 * ms) / 1000000000 := by
  unfold total addMillis
  simp only
  omega

/-- The milliseconds until an instant are the fewest after which it is reached. -/
theorem millisUntil_le_iff : s.millisUntil t ≤ n ↔ t.total ≤ s.total + 1000000 * n := by
  unfold millisUntil total
  omega

/-- A clock does not go back. -/
theorem month_addMillis_mono (t : Instant) : Monotone fun ms => (t.addMillis ms).month := by
  intro ms n later
  have shown := (t.addMillis ms).month_spec.1
  refine le_month_iff.2 (Int.le_trans shown ?_)
  rw [seconds_addMillis, seconds_addMillis]
  omega

/-- A month that follows an instant in it begins at most 31 days later. -/
theorem monthSecond_succ_le (h : monthSecond m ≤ t.seconds) :
    monthSecond (m + 1) ≤ t.seconds + 31 * daySeconds := by
  have := (Month.firstDay_succ m).2
  unfold monthSecond daySeconds at *
  omega

/-- A wait for the first instant of a month is over when the clock shows it. -/
theorem wait_over_iff (near : monthSecond m ≤ (t.addMillis ms).seconds + 31 * daySeconds)
    (later : ms ≤ n) :
    ms + waitLasting ((t.addMillis ms).millisUntil (startOfMonth m)) ≤ n ↔
      ¬ (t.addMillis n).Before (startOfMonth m) := by
  have total_due : (startOfMonth m).total = 1000000000 * monthSecond m := by
    simp [total, startOfMonth]
  have short : (t.addMillis ms).millisUntil (startOfMonth m) ≤ longestWait := by
    rw [millisUntil_le_iff, total_addMillis, total_due]
    rw [seconds_addMillis] at near
    unfold longestWait daySeconds at *
    omega
  have ended : (t.addMillis ms).millisUntil (startOfMonth m) ≤ n - ms ↔
      1000000000 * monthSecond m ≤ t.total + 1000000 * n := by
    rw [millisUntil_le_iff, total_addMillis, total_due]
    omega
  rw [waitLasting_eq_self short, before_startOfMonth_iff, seconds_addMillis]
  omega

end Total

end UsageBilling.Calendar.Instant
