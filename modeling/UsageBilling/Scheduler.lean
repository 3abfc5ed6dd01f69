import UsageBilling.Wait
import UsageBilling.Window

/-!
# The billing scheduler

A timer wakes at every fire of the monthly schedule and starts a run. Time
passes in milliseconds since some beginning; the timer reads the reference
clock to find out how long to wait, first when it begins and again after each
fire. A fire that is too far off for one wait comes early. A clock that cannot
be read breaks the timer and nothing else.

Stopping is one step: the timer is cancelled and has ended when the answer is
there. Nothing comes between the two, neither a wake that is due by then nor
another start or stop. A timer that was just started has not read the clock yet,
and does so before time passes.
-/

namespace UsageBilling

open Calendar (Instant)

/-- The timer of a running scheduler. -/
inductive Timer where
  /-- Started, but the clock was not read yet. -/
  | fresh
  /-- Wakes `wake` milliseconds after the beginning, for the fire at `due`. -/
  | waiting (due : Instant) (wake : Nat)
  /-- The clock could not be read. -/
  | broken
  deriving DecidableEq, Repr

namespace Timer

/-- A timer that waits for the fire at `due`, set `elapsed` milliseconds after the beginning. -/
def set (due : Instant) (clock : Option Instant) (elapsed : Nat) : Timer :=
  match clock with
  | none => broken
  | some now => waiting due (elapsed + waitLasting (now.millisUntil due))

/-- A timer that begins to wait. -/
def begin (clock : Option Instant) (elapsed : Nat) : Timer :=
  match clock with
  | none => broken
  | some now => set (nextFire now) clock elapsed

/-- When the timer has something to do, as milliseconds after the beginning. -/
def wakes? (elapsed : Nat) : Timer → Option Nat
  | fresh => some elapsed
  | waiting _ wake => some wake
  | broken => none

/-- The timer after it woke, and whether it starts a run. -/
def wake (clock : Option Instant) (elapsed : Nat) : Timer → Timer × Bool
  | fresh => (begin clock elapsed, false)
  | waiting due _ => (set (nextFire due) clock elapsed, true)
  | broken => (broken, false)

end Timer

/-- A scheduler; it runs while it has a timer. -/
structure Scheduler where
  timer : Option Timer := none
  deriving DecidableEq, Repr, Inhabited

namespace Scheduler

/-- The scheduler was started and not stopped. -/
def isRunning (s : Scheduler) : Bool :=
  s.timer.isSome

/-- Start the timer, unless it runs; says whether it did not. -/
def start (s : Scheduler) : Scheduler × Bool :=
  if s.isRunning then (s, false) else (⟨some .fresh⟩, true)

/-- Stop the timer, which is cancelled and awaited in one step; says whether it ran. -/
def stop (s : Scheduler) : Scheduler × Bool :=
  (⟨none⟩, s.isRunning)

/-- When the scheduler has something to do, as milliseconds after the beginning. -/
def wakes? (s : Scheduler) (elapsed : Nat) : Option Nat :=
  s.timer.bind (·.wakes? elapsed)

/-- The scheduler after it woke, and whether it starts a run. -/
def wake (s : Scheduler) (clock : Option Instant) (elapsed : Nat) : Scheduler × Bool :=
  match s.timer with
  | none => (s, false)
  | some timer =>
    let (timer, fires) := timer.wake clock elapsed
    (⟨some timer⟩, fires)

end Scheduler

end UsageBilling
