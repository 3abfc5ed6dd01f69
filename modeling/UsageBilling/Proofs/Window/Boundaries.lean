import UsageBilling.Proofs.Window.Fires
import UsageBilling.Proofs.Window.Openings

/-!
# Fires and the boundaries of months

A boundary is the first instant of a month. The next fire after an instant is the
least boundary after it, so it depends on the month of the instant alone and does
not come earlier for a later instant. Fires in a row go from boundary to boundary
and leave none out: the number of boundaries up to a fire is the number of fires.
All this holds as long as the months can be represented.
-/

namespace UsageBilling

open Calendar (Instant Month)

namespace Calendar.Instant

/-- The instant is the first one of a month. -/
def IsBoundary (t : Instant) : Prop :=
  ∃ m, t.IsFirstOf m

/-- The boundaries that come after `now` and not after `t`. -/
def boundariesUntil (now t : Instant) : Set Instant :=
  {u | u.IsBoundary ∧ now.Before u ∧ ¬ t.Before u}

/-- The instant is the boundary number `k` after `now`, counted from 1. -/
structure IsBoundaryAfter (t now : Instant) (k : Nat) : Prop where
  boundary : t.IsBoundary
  counted : (boundariesUntil now t).ncard = k

section Boundaries

variable {now t u : Instant} {m n : Month}

theorem isBoundary_iff : t.IsBoundary ↔ ∃ m, t = startOfMonth m := by
  unfold IsBoundary
  simp only [isFirstOf_iff]

theorem startOfMonth_injective : Function.Injective startOfMonth := by
  intro m n same
  exact monthSecond_strictMono.injective (congrArg Instant.seconds same)

/-- The boundaries up to a month are the first instants of the months after the present one. -/
theorem boundariesUntil_startOfMonth (now : Instant) (n : Month) :
    boundariesUntil now (startOfMonth n) = startOfMonth '' Set.Ioc now.month n := by
  ext u
  simp only [boundariesUntil, Set.mem_ofPred_eq, Set.mem_image, Set.mem_Ioc, isBoundary_iff]
  constructor
  · rintro ⟨⟨m, rfl⟩, after, until_n⟩
    rw [before_startOfMonth_iff, ← month_lt_iff] at after
    rw [startOfMonth_before_startOfMonth, Int.not_lt] at until_n
    exact ⟨m, ⟨after, until_n⟩, rfl⟩
  · rintro ⟨m, ⟨after, until_n⟩, rfl⟩
    refine ⟨⟨m, rfl⟩, ?_, ?_⟩
    · rwa [before_startOfMonth_iff, ← month_lt_iff]
    · rwa [startOfMonth_before_startOfMonth, Int.not_lt]

/-- There are as many boundaries as months in between. -/
theorem ncard_boundariesUntil (now : Instant) (n : Month) :
    (boundariesUntil now (startOfMonth n)).ncard = (n - now.month).toNat := by
  rw [boundariesUntil_startOfMonth, Set.ncard_image_of_injective _ startOfMonth_injective,
    ← Finset.coe_Ioc, Set.ncard_coe_finset, Int.card_Ioc]

/-- Of the boundaries after an instant, each is counted by the months that lie between. -/
theorem isBoundaryAfter_iff {k : Nat} (positive : 0 < k) :
    t.IsBoundaryAfter now k ↔ t = startOfMonth (now.month + k) := by
  constructor
  · rintro ⟨boundary, counted⟩
    obtain ⟨n, rfl⟩ := isBoundary_iff.1 boundary
    rw [ncard_boundariesUntil] at counted
    have same : n = now.month + k := by
      unfold Month at *
      omega
    rw [same]
  · rintro rfl
    refine ⟨isBoundary_iff.2 ⟨_, rfl⟩, ?_⟩
    rw [ncard_boundariesUntil]
    unfold Month at *
    omega

/-- Between an instant and the beginning of the next month there is no boundary. -/
theorem not_boundary_between (boundary : u.IsBoundary) (after : now.Before u) :
    ¬ u.Before (startOfMonth (now.month + 1)) := by
  obtain ⟨m, rfl⟩ := isBoundary_iff.1 boundary
  rw [before_startOfMonth_iff, ← month_lt_iff] at after
  rw [startOfMonth_before_startOfMonth, Int.not_lt]
  exact Int.add_one_le_iff.2 after

theorem before_startOfMonth_succ (t : Instant) : t.Before (startOfMonth (t.month + 1)) := by
  rw [before_startOfMonth_iff]
  exact t.month_spec.2

/-- Months do not go back with time. -/
theorem month_le_of_not_before (h : ¬ t.Before now) : now.month ≤ t.month := by
  rw [le_month_iff]
  have low := now.month_spec.1
  unfold Before at h
  omega

/-- No month past the last one has a first instant that can be represented. -/
theorem le_last_of_representable (possible : (startOfMonth m).Representable) :
    m ≤ Month.last := by
  have below : monthSecond m < monthSecond (Month.last + 1) :=
    Int.lt_of_le_sub_one possible.2.1
  exact Int.lt_add_one_iff.1 (monthSecond_strictMono.lt_iff_lt.1 below)

end Boundaries

end Calendar.Instant

/-! ## Fires -/

theorem Calendar.Month.next_of_lt {m : Month} (below : m < Month.last) : m.next = m + 1 :=
  if_neg (Int.not_le.2 below)

/-- Of two months the later one has the later successor, or the same. -/
theorem Calendar.Month.next_mono : Monotone Month.next := by
  intro m n later
  unfold Month.next
  unfold Month at *
  split <;> split <;> omega

/-- A fire does not come earlier for a later instant. -/
theorem nextFire_mono {s t : Instant} (later : ¬ t.Before s) :
    ¬ (nextFire t).Before (nextFire s) := by
  unfold nextFire
  rw [Instant.startOfMonth_before_startOfMonth, Int.not_lt]
  exact Month.next_mono (Instant.month_le_of_not_before later)

/-- Fires in a row reach the months in a row. -/
theorem iterate_nextFire (now : Instant) (k : Nat) (room : now.month + (k + 1 : Nat) ≤ Month.last) :
    nextFire^[k + 1] now = Instant.startOfMonth (now.month + (k + 1 : Nat)) := by
  induction k with
  | zero =>
    have below : now.month < Month.last := by
      unfold Month at *
      omega
    show Instant.startOfMonth now.month.next = _
    rw [Month.next_of_lt below]
    rfl
  | succ k ih =>
    have earlier : now.month + (k + 1 : Nat) < Month.last := by
      unfold Month at *
      omega
    rw [Function.iterate_succ_apply', ih (le_of_lt earlier)]
    show Instant.startOfMonth (Instant.month _).next = _
    rw [Instant.month_startOfMonth, Month.next_of_lt earlier, Nat.cast_succ (k + 1), add_assoc]

/-- Where the month after that of `now` can be represented, the next fire is its first instant. It is
later than `now`, no boundary of months lies between the two, it is the same for all of the month of
`now`, and it does not come earlier for a later instant. Fires in a row visit the months one by one,
up to the last month that can be represented: fire number `k` is boundary number `k` after `now`. -/
theorem nextFire_least_boundary {now following : Instant} {m : Month} (inside : now.LiesIn m)
    (follows : following.IsFirstOf (m + 1)) (possible : following.Representable) :
    nextFire now = following ∧ now.Before (nextFire now) ∧
    (∀ u, u.IsBoundary → ¬ (now.Before u ∧ u.Before (nextFire now))) ∧
    (∀ s t, ¬ t.Before s → ¬ (nextFire t).Before (nextFire s)) ∧
    (∀ t, t.LiesIn m → nextFire t = nextFire now) ∧
    (∀ (k : Nat) t, 0 < k → t.IsFirstOf (m + k) → t.Representable →
      nextFire^[k] now = t ∧ ∀ u, u.IsBoundaryAfter now k ↔ u = t) := by
  obtain rfl := Instant.liesIn_iff.1 inside
  obtain rfl := Instant.isFirstOf_iff.1 follows
  have room := Instant.le_last_of_representable possible
  have next : nextFire now = Instant.startOfMonth (now.month + 1) := iterate_nextFire now 0 room
  refine ⟨next, ?_, ?_, ?_, ?_, ?_⟩
  · rw [next]
    exact Instant.before_startOfMonth_succ now
  · rintro u boundary ⟨after, before⟩
    rw [next] at before
    exact Instant.not_boundary_between boundary after before
  · intro s t later
    exact nextFire_mono later
  · intro t same_month
    unfold nextFire
    rw [Instant.liesIn_iff.1 same_month]
  · intro k t positive first within
    obtain rfl := Instant.isFirstOf_iff.1 first
    obtain ⟨j, rfl⟩ := Nat.exists_eq_succ_of_ne_zero (Nat.ne_of_gt positive)
    refine ⟨iterate_nextFire now j (Instant.le_last_of_representable within), ?_⟩
    intro u
    exact Instant.isBoundaryAfter_iff positive

/-! ## The last moment of a leap day -/

namespace LeapDay

/-- A nanosecond before the end of 2000-02-29. -/
def endOfDay : Instant := ⟨951868799, 999999999⟩

/-- The first of March 2000. -/
def march : Instant := ⟨951868800, 0⟩

/-- The first of January 2001. -/
def newYear : Instant := ⟨978307200, 0⟩

theorem fires_reach_new_year : endOfDay.LiesIn (Month.ofYear 2000 2) ∧
    march.IsFirstOf (Month.ofYear 2000 2 + 1) ∧ march.Representable ∧
    nextFire endOfDay = march ∧ nextFire^[11] endOfDay = newYear ∧
    newYear.IsBoundaryAfter endOfDay 11 := by
  have inside : endOfDay.LiesIn (Month.ofYear 2000 2) := Instant.liesIn_iff.2 (by decide)
  have follows : march.IsFirstOf (Month.ofYear 2000 2 + 1) := Instant.isFirstOf_iff.2 (by decide)
  have possible : march.Representable := by decide
  obtain ⟨next, -, -, -, -, fires⟩ := nextFire_least_boundary inside follows possible
  have first : newYear.IsFirstOf (Month.ofYear 2000 2 + (11 : Nat)) :=
    Instant.isFirstOf_iff.2 (by decide)
  obtain ⟨reached, counted⟩ := fires 11 newYear (by decide) first (by decide)
  exact ⟨inside, follows, possible, next, reached, (counted newYear).2 rfl⟩

end LeapDay

end UsageBilling
