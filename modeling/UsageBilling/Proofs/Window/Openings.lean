import UsageBilling.Proofs.Calendar.Gregorian
import UsageBilling.Proofs.Window.Succession

/-!
# Where windows begin

A window begins with a month of the calendar: the one with the latest first
instant that is not after the present, or for a scheduled run the month before
it, if that can be represented. Where the instance was created later, the window
begins two hours after its creation. The record gives this moment in whole
milliseconds, rounded down, which never takes it back before the creation.
-/

namespace UsageBilling

open Calendar (Instant Month)

namespace Calendar.Instant

/-- The first instant of the month, and the latest of all first instants of months that are not
after `now`. -/
structure IsLatestFirst (t : Instant) (m : Month) (now : Instant) : Prop where
  first : t.IsFirstOf m
  reached : ¬ now.Before t
  latest : ∀ u n, u.IsFirstOf n → ¬ now.Before u → ¬ t.Before u

theorem startOfMonth_before_startOfMonth {m n : Month} :
    (startOfMonth m).Before (startOfMonth n) ↔ m < n := by
  rw [before_startOfMonth_iff]
  exact monthSecond_strictMono.lt_iff_lt

/-- A month has begun by the instants in it and after it. -/
theorem not_before_startOfMonth_iff {m : Month} {t : Instant} :
    ¬ t.Before (startOfMonth m) ↔ m ≤ t.month := by
  rw [before_startOfMonth_iff, le_month_iff, Int.not_lt]

/-- The latest first instant is that of the month in which `now` lies. -/
theorem isLatestFirst_iff {t now : Instant} {m : Month} :
    t.IsLatestFirst m now ↔ m = now.month ∧ t = startOfMonth now.month := by
  constructor
  · rintro ⟨first, reached, latest⟩
    obtain rfl := isFirstOf_iff.1 first
    have not_later : m ≤ now.month := not_before_startOfMonth_iff.1 reached
    have not_earlier : ¬ m < now.month := fun earlier =>
      latest (startOfMonth now.month) now.month (isFirstOf_iff.2 rfl)
        (not_before_startOfMonth_iff.2 (le_refl now.month))
        (startOfMonth_before_startOfMonth.2 earlier)
    have same : m = now.month := le_antisymm not_later (not_lt.1 not_earlier)
    exact ⟨same, by rw [same]⟩
  · rintro ⟨rfl, rfl⟩
    refine ⟨isFirstOf_iff.2 rfl, not_before_startOfMonth_iff.2 (le_refl now.month), ?_⟩
    rintro u n first reached
    obtain rfl := isFirstOf_iff.1 first
    rw [startOfMonth_before_startOfMonth]
    exact not_lt.2 (not_before_startOfMonth_iff.1 reached)

/-- Two hours after an instant. A leap second is over by then. -/
def twoHoursAfter (t : Instant) : Instant where
  seconds := t.seconds + 7200
  nanos := t.nanos % 1000000000

/-- Two hours are added as long as the result can be represented. -/
theorem addSeconds?_twoHours {t : Instant} (h : t.twoHoursAfter.Representable) :
    t.addSeconds? creationBuffer = some t.twoHoursAfter :=
  if_pos ⟨h.1, h.2.1⟩

/-- Whole milliseconds, rounded down, miss less than one millisecond. -/
theorem Representable.ofMillis_millis {t : Instant} (h : t.Representable) :
    ¬ t.Before (ofMillis t.millis) ∧ t.Before (ofMillis (t.millis + 1)) := by
  have nanos := h.2.2
  unfold Before ofMillis millis
  simp only
  omega

/-- Rounding to milliseconds does not change the second. -/
theorem Representable.seconds_ofMillis {t : Instant} (h : t.Representable) :
    (ofMillis t.millis).seconds = t.seconds := by
  have nanos := h.2.2
  unfold ofMillis millis
  simp only
  omega

theorem ofMillis_startOfMonth (m : Month) : ofMillis (startOfMonth m).millis = startOfMonth m := by
  unfold ofMillis millis startOfMonth
  simp

end Calendar.Instant

/-- A window begins here, as long as its instance was not created later. -/
inductive BillsFrom (ctx : BillingContext) (now : Instant) : Instant → Prop where
  | current {t : Instant} {m : Month} (manual : ctx.manual = true)
      (latest : t.IsLatestFirst m now) : BillsFrom ctx now t
  /-- A scheduled run bills the month before. -/
  | preceding {t before : Instant} {m : Month} (scheduled : ctx.manual = false)
      (latest : t.IsLatestFirst m now) (first : before.IsFirstOf (m - 1))
      (possible : before.Representable) : BillsFrom ctx now before
  /-- There is no month before. -/
  | earliest {t before : Instant} {m : Month} (scheduled : ctx.manual = false)
      (latest : t.IsLatestFirst m now) (first : before.IsFirstOf (m - 1))
      (impossible : ¬ before.Representable) : BillsFrom ctx now t

/-- Every month has one before it but the first. -/
theorem representable_startOfMonth_pred_iff {m : Int} (high : m ≤ Month.last) :
    (Instant.startOfMonth (m - 1)).Representable ↔ Month.first < m := by
  constructor
  · intro possible
    have below : Instant.monthSecond Month.first ≤ Instant.monthSecond (m - 1) := possible.1
    exact Int.lt_of_le_sub_one (Instant.monthSecond_strictMono.le_iff_le.1 below)
  · intro above
    exact Instant.representable_startOfMonth (Int.le_sub_one_of_lt above)
      (Int.le_trans (Int.sub_le_self m Int.one_nonneg) high)

/-- A window begins with the month that is billed. -/
theorem billsFrom_iff {ctx : BillingContext} {now t : Instant} (within : now.InRange) :
    BillsFrom ctx now t ↔ t = Instant.startOfMonth (billedMonth ctx now) := by
  have possible_iff := representable_startOfMonth_pred_iff within.month.2
  constructor
  · intro h
    cases h with
    | current manual latest =>
      rw [billedMonth, if_pos manual]
      exact (Instant.isLatestFirst_iff.1 latest).2
    | preceding scheduled latest first possible =>
      obtain ⟨rfl, -⟩ := Instant.isLatestFirst_iff.1 latest
      obtain rfl := Instant.isFirstOf_iff.1 first
      rw [billedMonth, if_neg (by simp [scheduled]), Month.previous_of_lt (possible_iff.1 possible)]
    | earliest scheduled latest first impossible =>
      obtain ⟨rfl, rfl⟩ := Instant.isLatestFirst_iff.1 latest
      obtain rfl := Instant.isFirstOf_iff.1 first
      have lowest : now.month ≤ Month.first := not_lt.1 (mt possible_iff.2 impossible)
      rw [billedMonth, if_neg (by simp [scheduled]), Month.previous, if_pos lowest]
  · rintro rfl
    have latest : (Instant.startOfMonth now.month).IsLatestFirst now.month now :=
      Instant.isLatestFirst_iff.2 ⟨rfl, rfl⟩
    have first : (Instant.startOfMonth (now.month - 1)).IsFirstOf (now.month - 1) :=
      Instant.isFirstOf_iff.2 rfl
    cases manual : ctx.manual with
    | true =>
      rw [billedMonth, if_pos manual]
      exact .current manual latest
    | false =>
      rw [billedMonth, if_neg (by simp [manual])]
      by_cases above : Month.first < now.month
      · rw [Month.previous_of_lt above]
        exact .preceding manual latest first (possible_iff.2 above)
      · rw [Month.previous, if_pos (not_lt.1 above)]
        exact .earliest manual latest first (mt possible_iff.1 above)

/-- The record for a window does not begin before the creation, although it rounds down. -/
theorem ofMillis_opening_not_before {created : Instant} {m : Month}
    (buffered : created.twoHoursAfter.Representable) :
    ¬ (Instant.ofMillis (opening created created.twoHoursAfter m).millis).Before created := by
  unfold opening
  -- after the two hours the whole second is later already; a month begins without a fraction
  split
  · have seconds := buffered.seconds_ofMillis
    unfold Instant.Before
    rw [seconds]
    unfold Instant.twoHoursAfter
    simp only
    omega
  next not_before => rwa [Instant.ofMillis_startOfMonth]

/-- Where two hours after the creation can be represented, the window begins with the month that is
billed, or two hours after the creation if that is later. The record gives this moment, rounded down
to milliseconds, as its start and its end, and it is not before the creation. -/
theorem window_by_calendar {i : ServiceInstance} {now : Instant} (ctx : BillingContext)
    (within : now.InRange) (buffered : i.created.twoHoursAfter.Representable) :
    ∃ first start p, (∀ t, BillsFrom ctx now t ↔ t = first) ∧
      windowStart i.created ctx now = .ok start ∧
      (¬ first.Before i.created → start = first) ∧
      (first.Before i.created → start = i.created.twoHoursAfter) ∧
      usagePayload i ctx now = .ok p ∧ p.stop = p.start ∧
      ¬ start.Before (Instant.ofMillis p.start.toInt) ∧
      start.Before (Instant.ofMillis (p.start.toInt + 1)) ∧
      ¬ (Instant.ofMillis p.start.toInt).Before i.created := by
  have later := Instant.addSeconds?_twoHours buffered
  have representable : (opening i.created _ (billedMonth ctx now)).Representable :=
    representable_opening_billedMonth buffered ctx within
  have stored := representable.toInt_millis
  obtain ⟨reached, missed⟩ := representable.ofMillis_millis
  refine ⟨_, _, _, fun t => billsFrom_iff within, windowStart_eq_ok later ctx now,
    fun not_before => if_neg not_before, fun before => if_pos before,
    usagePayload_eq_ok later ctx now, rfl, ?_, ?_, ?_⟩
  · rwa [recordFrom, stored]
  · rwa [recordFrom, stored]
  · rw [recordFrom, stored]
    exact ofMillis_opening_not_before buffered

/-! ## An instance that was created in the last year before the epoch -/

namespace CreatedBeforeEpoch

/-- Created at 00:00:00.0015 on 1969-12-31. -/
def young : ServiceInstance := ⟨"", "", "", ⟨-86400, 1500000⟩⟩

/-- The first day of 1970. -/
def newYear : Instant := ⟨0, 0⟩

theorem young_window_rounded_down : newYear.InRange ∧ young.created.twoHoursAfter.Representable ∧
    ∃ p, usagePayload young .scheduled newYear = .ok p ∧ p.stop = p.start ∧
      ¬ (Instant.mk (-79200) 1500000).Before (Instant.ofMillis p.start.toInt) ∧
      (Instant.mk (-79200) 1500000).Before (Instant.ofMillis (p.start.toInt + 1)) ∧
      ¬ (Instant.ofMillis p.start.toInt).Before young.created := by
  have within : newYear.InRange := by decide
  have buffered : young.created.twoHoursAfter.Representable := by decide
  obtain ⟨first, start, p, -, window, -, -, billed, same, reached, missed, ready⟩ :=
    window_by_calendar .scheduled within buffered
  have begins : windowStart young.created .scheduled newYear = .ok ⟨-79200, 1500000⟩ := by decide
  obtain rfl := Except.ok.inj (begins.symm.trans window)
  exact ⟨within, buffered, p, billed, same, reached, missed, ready⟩

end CreatedBeforeEpoch

end UsageBilling
