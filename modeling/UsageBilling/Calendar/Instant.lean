import UsageBilling.Calendar.Month

/-!
# Instants

A moment of Coordinated Universal Time: whole seconds since 1970-01-01T00:00:00Z
and nanoseconds counted forward from there. The representable ones are those of
the years -262143 to 262142. Nanoseconds from `10 ^ 9` on lie in a leap second,
which only a written date can bring in.

A clock that is read several times need not show the same each time, and may be
set back in between. What it shows is given by its readings, first to last.
-/

namespace UsageBilling.Calendar

/-- A moment of Coordinated Universal Time. -/
structure Instant where
  seconds : Int
  nanos : Nat
  deriving DecidableEq, Repr, Inhabited

namespace Instant

/-- Seconds in a day. -/
def daySeconds : Int := 86400

/-- The first second of a month. -/
def monthSecond (m : Month) : Int :=
  daySeconds * m.firstDay

/-- The first representable second. -/
def firstSecond : Int := monthSecond Month.first

/-- The last representable second. -/
def lastSecond : Int := monthSecond (Month.last + 1) - 1

/-- The instant can be represented. -/
def Representable (t : Instant) : Prop :=
  firstSecond ≤ t.seconds ∧ t.seconds ≤ lastSecond ∧ t.nanos < 1000000000

instance (t : Instant) : Decidable t.Representable :=
  inferInstanceAs (Decidable (_ ∧ _ ∧ _))

/-- One instant is before another. -/
def Before (s t : Instant) : Prop :=
  s.seconds < t.seconds ∨ s.seconds = t.seconds ∧ s.nanos < t.nanos

instance (s t : Instant) : Decidable (s.Before t) :=
  inferInstanceAs (Decidable (_ ∨ _ ∧ _))

/-- The instant some milliseconds after 1970-01-01T00:00:00Z. -/
def ofMillis (ms : Int) : Instant where
  seconds := ms / 1000
  nanos := (ms % 1000).toNat * 1000000

/-- Whole milliseconds since 1970-01-01T00:00:00Z, rounded down. -/
def millis (t : Instant) : Int :=
  1000 * t.seconds + t.nanos / 1000000

/-- The month that an instant belongs to. -/
def month (t : Instant) : Month :=
  Month.ofDay (t.seconds / daySeconds)

/-- The first instant of a month. -/
def startOfMonth (m : Month) : Instant where
  seconds := monthSecond m
  nanos := 0

/-- The instant some seconds later, if it can be represented. A second later a leap second is
over. -/
def addSeconds? (t : Instant) (n : Nat) : Option Instant :=
  let s := t.seconds + n
  let nanos := if n = 0 then t.nanos else t.nanos % 1000000000
  if firstSecond ≤ s ∧ s ≤ lastSecond then some ⟨s, nanos⟩ else none

/-- The instant some milliseconds later. -/
def addMillis (t : Instant) (ms : Nat) : Instant :=
  let nanos := t.nanos + ms % 1000 * 1000000
  ⟨t.seconds + ms / 1000 + nanos / 1000000000, nanos % 1000000000⟩

/-- Milliseconds from `s` until `t`, rounded up; none if `t` is not after `s`. -/
def millisUntil (s t : Instant) : Nat :=
  ((1000000000 * (t.seconds - s.seconds) + (t.nanos - s.nanos) + 999999) / 1000000).toNat

end Instant

/-- What a clock shows each time that it is read, by the number of times that it was read before. -/
def Readings := Nat → Instant

namespace Readings

/-- What the clock shows first. -/
def first (r : Readings) : Instant :=
  r 0

/-- What the clock shows once it was read. -/
def later (r : Readings) : Readings :=
  fun k => r (k + 1)

/-- A clock that stands still. -/
def still (t : Instant) : Readings :=
  fun _ => t

instance : Coe Instant Readings := ⟨still⟩

end Readings

end UsageBilling.Calendar
