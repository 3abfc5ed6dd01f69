import Mathlib
import UsageBilling.Calendar.Instant

/-!
# Months and their days

The first days of the months ascend, 28 to 31 days apart, and every day lies
between the first day of its month and that of the next one. So a month is not
after the month of an instant exactly if the instant is not before the month's
first second, which is all that windows and fires need to know of the calendar.
-/

namespace UsageBilling.Calendar

namespace Month

/-! ## Months -/

/-- A month has 28 to 31 days. -/
theorem firstDay_succ (m : Int) :
    firstDay m + 28 ≤ firstDay (m + 1) ∧ firstDay (m + 1) ≤ firstDay m + 31 := by
  -- February ends the year that begins in March, so its length is that of the year
  by_cases february : (m - 2) % 12 = 11
  · have year : (m + 1 - 2) / 12 = (m - 2) / 12 + 1 := by omega
    have number : (m + 1 - 2) % 12 = 0 := by omega
    simp only [firstDay, year, number, february, daysToMarch, daysFromMarch]
    omega
  · have year : (m + 1 - 2) / 12 = (m - 2) / 12 := by omega
    have number : (m + 1 - 2) % 12 = (m - 2) % 12 + 1 := by omega
    simp only [firstDay, year, number, daysFromMarch]
    omega

theorem firstDay_strictMono : StrictMono firstDay :=
  strictMono_int_of_lt_succ fun m => by
    have := (firstDay_succ m).1
    omega

/-- A later month begins at least 28 days later. -/
theorem firstDay_add_le {m n : Int} (h : m < n) : firstDay m + 28 ≤ firstDay n := by
  have next : firstDay (m + 1) ≤ firstDay n := firstDay_strictMono.monotone (Int.add_one_le_iff.2 h)
  have := (firstDay_succ m).1
  omega

/-! ## Days -/

/-- A day lies in its year that begins in March. -/
theorem marchYear_spec (z : Int) :
    daysToMarch (marchYear z) ≤ z ∧ z < daysToMarch (marchYear z + 1) := by
  -- 146097 days make 400 years, and the guess from this rate misses by one year at most
  have low : daysToMarch (400 * z / 146097 - 1) ≤ z := by
    unfold daysToMarch
    omega
  have high : z < daysToMarch (400 * z / 146097 + 2) := by
    unfold daysToMarch
    omega
  unfold marchYear
  simp only
  split
  next before => exact ⟨low, by simpa using before⟩
  next =>
    split
    next after => exact ⟨after, by simpa [Int.add_assoc] using high⟩
    next => omega

/-- A day lies in its month. -/
theorem ofDay_spec (day : Int) :
    firstDay (ofDay day) ≤ day ∧ day < firstDay (ofDay day + 1) := by
  obtain ⟨low, high⟩ := marchYear_spec (day + epochOffset)
  have year_length : daysToMarch (marchYear (day + epochOffset) + 1) ≤
      daysToMarch (marchYear (day + epochOffset)) + 366 := by
    unfold daysToMarch
    omega
  unfold ofDay
  simp only
  generalize marchYear (day + epochOffset) = y at *
  generalize date : day + epochOffset - daysToMarch y = d
  have number : 0 ≤ (5 * d + 2) / 153 ∧ (5 * d + 2) / 153 ≤ 11 := by omega
  have this_year : (12 * y + (5 * d + 2) / 153 + 2 - 2) / 12 = y := by omega
  have this_month : (12 * y + (5 * d + 2) / 153 + 2 - 2) % 12 = (5 * d + 2) / 153 := by omega
  refine ⟨?_, ?_⟩
  · simp only [firstDay, this_year, this_month, daysFromMarch]
    omega
  by_cases february : (5 * d + 2) / 153 = 11
  · have year : (12 * y + (5 * d + 2) / 153 + 2 + 1 - 2) / 12 = y + 1 := by omega
    have month : (12 * y + (5 * d + 2) / 153 + 2 + 1 - 2) % 12 = 0 := by omega
    simp only [firstDay, year, month, daysFromMarch]
    omega
  · have year : (12 * y + (5 * d + 2) / 153 + 2 + 1 - 2) / 12 = y := by omega
    have month : (12 * y + (5 * d + 2) / 153 + 2 + 1 - 2) % 12 = (5 * d + 2) / 153 + 1 := by omega
    simp only [firstDay, year, month, daysFromMarch]
    omega

/-- A month is not after the month of a day exactly if it does not begin after the day. -/
theorem le_ofDay_iff {m : Month} {day : Int} : m ≤ ofDay day ↔ firstDay m ≤ day := by
  obtain ⟨low, high⟩ := ofDay_spec day
  constructor
  · intro h
    exact Int.le_trans (firstDay_strictMono.monotone h) low
  · intro h
    exact Int.lt_add_one_iff.1 (firstDay_strictMono.lt_iff_lt.1 (Int.lt_of_le_of_lt h high))

/-! ## Neighbours -/

theorem previous_le (m : Int) : previous m ≤ m := by
  unfold previous
  split
  · exact Int.le_refl m
  · exact Int.sub_le_self m Int.one_nonneg

/-- The month before a representable one is representable. -/
theorem first_le_previous {m : Int} (low : first ≤ m) : first ≤ previous m := by
  unfold previous
  split
  · exact low
  next above => exact Int.le_sub_one_of_lt (Int.not_le.1 above)

/-- The month before is the one that ends where this one begins, unless this one is the first of
all. -/
theorem previous_of_lt {m : Int} (above : first < m) : previous m = m - 1 :=
  if_neg (Int.not_le.2 above)

/-- Different months come after different ones; only the first month has none before it. -/
theorem previous_lt_or {m n : Int} (low : first ≤ m) (months : m < n) :
    previous m < n - 1 ∨ previous m = n - 1 ∧ n - 1 = first := by
  by_cases lowest : m ≤ first
  · have same : previous m = m := if_pos lowest
    rw [same]
    refine (lt_or_eq_of_le (Int.le_sub_one_of_lt months)).imp_right fun last => ⟨last, ?_⟩
    exact last ▸ le_antisymm lowest low
  · rw [previous_of_lt (Int.not_le.1 lowest)]
    exact .inl (Int.sub_lt_sub_right months 1)

end Month

namespace Instant

/-! ## Instants -/

theorem monthSecond_strictMono : StrictMono monthSecond := by
  intro m n h
  have := Month.firstDay_add_le h
  unfold monthSecond daySeconds
  omega

/-- A later month begins at least 28 days later. -/
theorem monthSecond_add_le {m n : Month} (h : m < n) :
    monthSecond m + 28 * daySeconds ≤ monthSecond n := by
  have := Month.firstDay_add_le h
  unfold monthSecond daySeconds
  omega

/-- A month is not after the month of an instant exactly if the instant is not before the month's
first second. -/
theorem le_month_iff {m : Month} {t : Instant} : m ≤ t.month ↔ monthSecond m ≤ t.seconds := by
  rw [month, Month.le_ofDay_iff]
  unfold monthSecond daySeconds
  omega

/-- An instant is in an earlier month exactly if it is before the first second of this one. -/
theorem month_lt_iff {m : Month} {t : Instant} : t.month < m ↔ t.seconds < monthSecond m := by
  rw [← Int.not_le, ← Int.not_le, le_month_iff]

/-- The month of an instant is the one in which it lies. -/
theorem month_eq_iff {m : Month} {t : Instant} :
    t.month = m ↔ monthSecond m ≤ t.seconds ∧ t.seconds < monthSecond (m + 1) := by
  rw [← le_month_iff, ← month_lt_iff, Int.lt_add_one_iff, eq_comm]
  exact le_antisymm_iff

theorem month_spec (t : Instant) :
    monthSecond t.month ≤ t.seconds ∧ t.seconds < monthSecond (t.month + 1) :=
  month_eq_iff.1 rfl

/-- An instant in the years that can be represented; a leap second may be among them. -/
def InRange (t : Instant) : Prop :=
  firstSecond ≤ t.seconds ∧ t.seconds ≤ lastSecond

instance (t : Instant) : Decidable t.InRange :=
  inferInstanceAs (Decidable (_ ∧ _))

theorem firstSecond_eq : firstSecond = -8334601228800 := by decide

theorem lastSecond_eq : lastSecond = 8210266876799 := by decide

/-- The months of the representable years are those from the first to the last one. -/
theorem InRange.month {t : Instant} (h : t.InRange) :
    Month.first ≤ t.month ∧ t.month ≤ Month.last := by
  obtain ⟨low, high⟩ := h
  refine ⟨le_month_iff.2 low, ?_⟩
  exact Int.lt_add_one_iff.1 (month_lt_iff.2 (Int.lt_of_le_sub_one high))

/-- A later instant in another month is in a later month. -/
theorem Before.month_lt {s t : Instant} (h : s.Before t) (other : s.month ≠ t.month) :
    s.month < t.month := by
  refine lt_of_le_of_ne (le_month_iff.2 ?_) other
  have := s.month_spec.1
  unfold Before at h
  omega

/-- The first instant of a month is past once a second of the month is, or a part of one. -/
theorem startOfMonth_before_iff {m : Month} {t : Instant} :
    (startOfMonth m).Before t ↔
      monthSecond m < t.seconds ∨ monthSecond m = t.seconds ∧ 0 < t.nanos := .rfl

theorem before_startOfMonth_iff {m : Month} {t : Instant} :
    t.Before (startOfMonth m) ↔ t.seconds < monthSecond m := by
  simp [Before, startOfMonth]

/-- The first instant of a month can be represented if the month can. -/
theorem representable_startOfMonth {m : Int} (low : Month.first ≤ m) (high : m ≤ Month.last) :
    (startOfMonth m).Representable := by
  have next : monthSecond (m + 1) ≤ monthSecond (Month.last + 1) :=
    monthSecond_strictMono.monotone (Int.add_le_add_right high 1)
  have below : monthSecond m < monthSecond (m + 1) := monthSecond_strictMono (Int.lt_succ m)
  refine ⟨monthSecond_strictMono.monotone low, ?_, Nat.zero_lt_succ _⟩
  show monthSecond m ≤ lastSecond
  unfold lastSecond
  omega

/-- What lies a positive number of seconds later can be represented, and is no leap second. -/
theorem addSeconds?_eq_some {t later : Instant} {n : Nat} (positive : 0 < n)
    (h : t.addSeconds? n = some later) :
    later.Representable ∧ later.seconds = t.seconds + n := by
  unfold addSeconds? at h
  simp only [Nat.ne_of_gt positive, if_false] at h
  split at h
  next range =>
    cases h
    exact ⟨⟨range.1, range.2, Nat.mod_lt _ (by decide)⟩, rfl⟩
  next => cases h

end Instant

end UsageBilling.Calendar
