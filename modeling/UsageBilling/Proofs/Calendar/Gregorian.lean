import UsageBilling.Proofs.Calendar.Month

/-!
# The Gregorian calendar

Months counted by their lengths, on and back from January 1970, which begins
with day 0: 30 days in April, June, September and November, 28 in February or
29 in a leap year, and 31 in the others. The closed form of the first day of a
month agrees with this count for every month, in the years before 0 as well.
-/

namespace UsageBilling.Calendar

namespace Month

/-- Every fourth year is a leap year; of those that end a century only every fourth is. -/
def IsLeap (year : Int) : Prop :=
  year % 4 = 0 ∧ (year % 100 ≠ 0 ∨ year % 400 = 0)

instance (year : Int) : Decidable (IsLeap year) :=
  inferInstanceAs (Decidable (_ ∧ _))

/-- The number of days in a month of a year. -/
def daysIn (year : Int) (number : Nat) : Int :=
  match number with
  | 2 => if IsLeap year then 29 else 28
  | 4 | 6 | 9 | 11 => 30
  | _ => 31

/-- The month begins with this day, counted from the epoch. -/
inductive Begins : Month → Int → Prop where
  | epoch : Begins (ofYear 1970 1) 0
  | next {m : Month} {day : Int} (begins : Begins m day) :
      Begins (m + 1) (day + daysIn m.year m.number)
  | previous {m : Month} {day : Int} (begins : Begins (m + 1) (day + daysIn m.year m.number)) :
      Begins m day

/-- A year that begins in March has a day more if it ends with the February of a leap year. -/
theorem daysToMarch_succ (y : Int) :
    daysToMarch (y + 1) = daysToMarch y + (if IsLeap (y + 1) then 366 else 365) := by
  unfold daysToMarch
  by_cases leap : IsLeap (y + 1)
  · rw [if_pos leap]
    unfold IsLeap at leap
    omega
  · rw [if_neg leap]
    unfold IsLeap at leap
    omega

/-- The first days of successive months are as far apart as the calendar says. -/
theorem firstDay_succ_eq (m : Int) : firstDay (m + 1) = firstDay m + daysIn (year m) (number m) := by
  have split : m = 12 * (m / 12) + m % 12 := by omega
  have low : 0 ≤ m % 12 := by omega
  have high : m % 12 < 12 := by omega
  unfold year number
  generalize m / 12 = y at *
  generalize m % 12 = n at *
  subst split
  by_cases february : n = 1
  · subst february
    have this_year : (12 * y + 1 - 2) / 12 = y - 1 := by omega
    have this_month : (12 * y + 1 - 2) % 12 = 11 := by omega
    have next_year : (12 * y + 1 + 1 - 2) / 12 = y := by omega
    have next_month : (12 * y + 1 + 1 - 2) % 12 = 0 := by omega
    have length := daysToMarch_succ (y - 1)
    rw [Int.sub_add_cancel] at length
    have days : daysIn y 2 = (if IsLeap y then 366 else 365) - 337 := by
      show (if IsLeap y then 29 else 28) = _
      split <;> rfl
    show _ = _ + daysIn y 2
    simp only [firstDay, this_year, this_month, next_year, next_month, daysFromMarch, length, days]
    omega
  · have same_year : (12 * y + n + 1 - 2) / 12 = (12 * y + n - 2) / 12 := by omega
    have next_month : (12 * y + n + 1 - 2) % 12 = (12 * y + n - 2) % 12 + 1 := by omega
    have this_month : (12 * y + n - 2) % 12 = if n < 2 then n + 10 else n - 2 := by
      split <;> omega
    simp only [firstDay, same_year, next_month, this_month, daysFromMarch]
    interval_cases n <;> simp [daysIn] at february ⊢ <;> omega

/-- A month begins with its first day, and with no other one. -/
theorem begins_iff {m : Month} {day : Int} : Begins m day ↔ day = firstDay m := by
  constructor
  · intro h
    induction h with
    | epoch => decide
    | next _ ih => rw [firstDay_succ_eq, ih]
    | @previous m day _ ih =>
      have := firstDay_succ_eq m
      omega
  · rintro rfl
    refine Int.inductionOn' m (ofYear 1970 1) .epoch ?_ ?_
    · intro m _ ih
      exact firstDay_succ_eq m ▸ ih.next
    · intro m _ ih
      have begins : Begins (m - 1 + 1) (firstDay (m - 1 + 1)) := by rwa [Int.sub_add_cancel]
      rw [firstDay_succ_eq] at begins
      exact begins.previous

end Month

namespace Instant

/-- The instant is the first one of the month. -/
def IsFirstOf (t : Instant) (m : Month) : Prop :=
  ∃ day, m.Begins day ∧ t = ⟨daySeconds * day, 0⟩

/-- The instant lies between the first instants of the month and of the next one. -/
def LiesIn (t : Instant) (m : Month) : Prop :=
  ∃ first next, IsFirstOf first m ∧ IsFirstOf next (m + 1) ∧ ¬ t.Before first ∧ t.Before next

/-- A month has one first instant. -/
theorem isFirstOf_iff {t : Instant} {m : Month} : t.IsFirstOf m ↔ t = startOfMonth m := by
  unfold IsFirstOf
  simp only [Month.begins_iff, exists_eq_left]
  rfl

/-- An instant lies in one month, the one that is computed for it. -/
theorem liesIn_iff {t : Instant} {m : Month} : t.LiesIn m ↔ t.month = m := by
  unfold LiesIn
  simp only [isFirstOf_iff, exists_and_left, exists_eq_left, before_startOfMonth_iff, Int.not_lt]
  exact month_eq_iff.symm

end Instant

end UsageBilling.Calendar
