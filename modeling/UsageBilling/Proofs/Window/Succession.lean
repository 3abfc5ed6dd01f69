import UsageBilling.Proofs.Calendar.Month
import UsageBilling.Window

/-!
# Windows of successive months

A scheduled run of a later month bills a later window, as long as two hours
after the creation of the instance are over when the month begins that the
later run bills. For a younger instance the two hours carry the window of the
earlier run to the beginning of that month or beyond it. An instance that was
created in that month is billed for the same moment by both runs.
-/

namespace UsageBilling

open Calendar (Instant Month)

/-! ## Windows on the scale of milliseconds -/

namespace Calendar.Instant

/-- Milliseconds of representable instants fit into the word that stores them. -/
theorem Representable.toInt_millis {t : Instant} (h : t.Representable) :
    (Int64.ofInt t.millis).toInt = t.millis := by
  obtain ⟨low, high, nanos⟩ := h
  rw [firstSecond_eq] at low
  rw [lastSecond_eq] at high
  exact Int64.toInt_ofInt_of_le (by unfold millis; omega) (by unfold millis; omega)

/-- Windows that are stored are in the order of their milliseconds. -/
theorem Representable.start_lt_iff {s t : Instant} (hs : s.Representable) (ht : t.Representable) :
    Int64.ofInt s.millis < Int64.ofInt t.millis ↔ s.millis < t.millis := by
  rw [Int64.lt_iff_toInt_lt, hs.toInt_millis, ht.toInt_millis]

end Calendar.Instant

/-- The usage record of an instance for the window that begins at `start`. -/
def recordFrom (i : ServiceInstance) (ctx : BillingContext) (start : Instant) : UsagePayload where
  planId := i.planId
  instanceId := i.instanceId
  start := Int64.ofInt start.millis
  stop := Int64.ofInt start.millis
  region := i.region
  measured := [⟨instanceMeasure, if ctx.dryRun then 0 else 1⟩]

/-- Where the window of a month begins, for an instance that is `ready` two hours after it was
`created`. -/
def opening (created ready : Instant) (m : Month) : Instant :=
  if (Instant.startOfMonth m).Before created then ready else Instant.startOfMonth m

/-- A window begins where the opening of its month is. -/
theorem windowStart_eq_ok {created ready : Instant}
    (buffered : created.addSeconds? creationBuffer = some ready) (ctx : BillingContext)
    (now : Instant) :
    windowStart created ctx now = .ok (opening created ready (billedMonth ctx now)) := by
  simp only [windowStart, opening, buffered]
  split <;> rfl

/-- Where two hours after the creation can be represented, there is a usage record at any time. -/
theorem usagePayload_eq_ok {i : ServiceInstance} {ready : Instant}
    (buffered : i.created.addSeconds? creationBuffer = some ready) (ctx : BillingContext)
    (now : Instant) :
    usagePayload i ctx now = .ok (recordFrom i ctx (opening i.created ready (billedMonth ctx now))) := by
  rw [usagePayload, windowStart_eq_ok buffered]
  rfl

/-! ## Windows of two months -/

section Opening

variable {created ready : Instant} {m n : Int}

/-- The opening of a month within the calendar can be represented. -/
theorem representable_opening (buffered : ready.Representable) (low : Month.first ≤ m)
    (high : m ≤ Month.last) : (opening created ready m).Representable := by
  unfold opening
  split
  · exact buffered
  · exact Instant.representable_startOfMonth low high

theorem representable_opening_billedMonth {now : Instant} (buffered : ready.Representable)
    (ctx : BillingContext) (within : now.InRange) :
    (opening created ready (billedMonth ctx now)).Representable := by
  rw [billedMonth]
  split
  · exact representable_opening buffered within.month.1 within.month.2
  · exact representable_opening buffered (Month.first_le_previous within.month.1)
      (Int.le_trans (Month.previous_le _) within.month.2)

/-- An instance that was created within the later month is billed from the same moment for both. -/
theorem opening_eq_of_before (months : m ≤ n) (inside : (Instant.startOfMonth n).Before created) :
    opening created ready m = ready ∧ opening created ready n = ready := by
  have begin_before : Instant.monthSecond m ≤ Instant.monthSecond n :=
    Instant.monthSecond_strictMono.monotone months
  have earlier : (Instant.startOfMonth m).Before created := by
    rw [Instant.startOfMonth_before_iff] at inside ⊢
    omega
  exact ⟨if_pos earlier, if_pos inside⟩

/-- The window of a later month begins later exactly if the two hours are over by then. Where there
is no month before the first one, both windows are the same. -/
theorem opening_millis_lt_iff (months : m < n ∨ m = n ∧ n = Month.first)
    (buffered : created.addSeconds? creationBuffer = some ready) :
    (opening created ready m).millis < (opening created ready n).millis ↔
      ready.Before (Instant.startOfMonth n) := by
  obtain ⟨⟨in_range, -, nanos⟩, later⟩ := Instant.addSeconds?_eq_some (by decide) buffered
  rw [Instant.before_startOfMonth_iff, later]
  by_cases inside : (Instant.startOfMonth n).Before created
  · obtain ⟨first, second⟩ := opening_eq_of_before (by omega : m ≤ n) inside
    rw [first, second]
    rw [Instant.startOfMonth_before_iff] at inside
    unfold creationBuffer
    omega
  have second : opening created ready n = Instant.startOfMonth n := if_neg inside
  rw [Instant.startOfMonth_before_iff] at inside
  unfold creationBuffer at *
  rw [second]
  by_cases before : (Instant.startOfMonth m).Before created
  · have first : opening created ready m = ready := if_pos before
    rw [first]
    unfold Instant.millis Instant.startOfMonth
    simp only
    omega
  have first : opening created ready m = Instant.startOfMonth m := if_neg before
  rw [Instant.startOfMonth_before_iff] at before
  rw [first]
  unfold Instant.millis Instant.startOfMonth
  simp only
  rcases months with months | ⟨rfl, rfl⟩
  · have := Instant.monthSecond_add_le months
    unfold Instant.daySeconds at this
    omega
  · unfold Instant.firstSecond at in_range
    omega

end Opening

/-! ## Two scheduled runs -/

/-- Of two scheduled runs in different months, the later one bills a later window exactly if two
hours after the creation are before the month that it bills, the one before its own. Both bill the
same if the instance was created in that month. -/
theorem scheduled_start_lt_iff {i : ServiceInstance} {now₁ now₂ ready : Instant}
    (within₁ : now₁.InRange) (within₂ : now₂.InRange) (earlier : now₁.Before now₂)
    (other_month : now₁.month ≠ now₂.month)
    (buffered : i.created.addSeconds? creationBuffer = some ready) :
    ∃ p₁ p₂, usagePayload i .scheduled now₁ = .ok p₁ ∧ usagePayload i .scheduled now₂ = .ok p₂ ∧
      (p₁.start < p₂.start ↔ ready.Before (Instant.startOfMonth (now₂.month - 1))) ∧
      ((Instant.startOfMonth (now₂.month - 1)).Before i.created → p₁ = p₂) := by
  have low := within₁.month.1
  have months := earlier.month_lt other_month
  have billed : billedMonth .scheduled now₂ = now₂.month - 1 :=
    Month.previous_of_lt (lt_of_le_of_lt low months)
  have order : billedMonth .scheduled now₁ < now₂.month - 1 ∨
      billedMonth .scheduled now₁ = now₂.month - 1 ∧ now₂.month - 1 = Month.first :=
    Month.previous_lt_or low months
  obtain ⟨representable, -⟩ := Instant.addSeconds?_eq_some (by decide) buffered
  have first : (opening i.created ready (billedMonth .scheduled now₁)).Representable :=
    representable_opening_billedMonth representable .scheduled within₁
  have second : (opening i.created ready (now₂.month - 1)).Representable :=
    billed ▸ representable_opening_billedMonth representable .scheduled within₂
  refine ⟨_, _, usagePayload_eq_ok buffered _ _, usagePayload_eq_ok buffered _ _, ?_, ?_⟩
  · rw [billed]
    exact (first.start_lt_iff second).trans (opening_millis_lt_iff order buffered)
  · intro inside
    rw [billed]
    obtain ⟨same, same'⟩ := opening_eq_of_before (order.elim le_of_lt fun h => le_of_eq h.1) inside
    rw [same, same']

/-! ## Instances that are created at the end of a month -/

namespace CreatedLate

/-- Created at 21:59:59 on 2025-05-31. -/
def ready : ServiceInstance := ⟨"", "", "", ⟨1748728799, 0⟩⟩

/-- Created at 23:00:00 on 2025-05-31. -/
def late : ServiceInstance := ⟨"", "", "", ⟨1748732400, 0⟩⟩

/-- The first of June 2025. -/
def june : Instant := ⟨1748736000, 0⟩

/-- The first of July 2025. -/
def july : Instant := ⟨1751328000, 0⟩

theorem ready_in_order : ∃ p₁ p₂, usagePayload ready .scheduled june = .ok p₁ ∧
    usagePayload ready .scheduled july = .ok p₂ ∧ p₁.start < p₂.start := by
  have runs : june.InRange ∧ july.InRange ∧ june.Before july ∧ june.month ≠ july.month := by decide
  obtain ⟨p₁, p₂, first, second, in_order, -⟩ :=
    scheduled_start_lt_iff runs.1 runs.2.1 runs.2.2.1 runs.2.2.2
      (rfl : ready.created.addSeconds? creationBuffer = some ⟨1748735999, 0⟩)
  exact ⟨p₁, p₂, first, second, in_order.2 (by decide)⟩

/-- Both runs come after the creation, and the later one bills an earlier window. -/
theorem late_out_of_order : ¬ june.Before late.created ∧ ¬ july.Before late.created ∧
    june.Before july ∧ june.month ≠ july.month ∧
    (late.created.addSeconds? creationBuffer).isSome ∧
    ∃ p₁ p₂, usagePayload late .scheduled june = .ok p₁ ∧
      usagePayload late .scheduled july = .ok p₂ ∧ ¬ p₁.start < p₂.start :=
  ⟨by decide, by decide, by decide, by decide, by decide, _, _, rfl, rfl, by decide⟩

end CreatedLate

end UsageBilling
