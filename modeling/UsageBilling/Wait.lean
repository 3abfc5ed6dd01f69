/-!
# Waiting

Nothing waits for ever: a wait that is asked to last longer than thirty years
ends after thirty years. The cut is at the length that was asked for. It does not
matter whether the end of the longer wait could still be told: waits of thirty-one
years and of three hundred million years both last thirty.
-/

namespace UsageBilling

/-- The longest wait in milliseconds: thirty years of 365 days. -/
def longestWait : Nat := 30 * 365 * 86400000

/-- How long a wait of `ms` milliseconds lasts. -/
def waitLasting (ms : Nat) : Nat :=
  min ms longestWait

/-- A wait that is not too long lasts as long as it was asked to. -/
theorem waitLasting_eq_self {ms : Nat} (h : ms ≤ longestWait) : waitLasting ms = ms := by
  unfold waitLasting; omega

end UsageBilling
