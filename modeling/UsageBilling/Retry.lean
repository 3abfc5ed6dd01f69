/-!
# Bounded retry

An operation is attempted until it leaves nothing to retry or the policy's
attempts are used up, with one wait between two attempts and none after the
last. An error ends the attempts at once.
-/

namespace UsageBilling

/-- How often an operation is attempted and how long to wait in between. -/
structure RetryPolicy where
  maxAttempts : Nat
  /-- The wait between two attempts, in milliseconds. -/
  backoff : Nat
  deriving DecidableEq, Repr, Inhabited

/-- What one attempt led to. -/
inductive Attempt (φ : Type) where
  | success
  | retryable (left : φ)
  deriving DecidableEq, Repr

/-- What all attempts together led to. -/
inductive RetryOutcome (φ : Type) where
  | succeeded (attempts : Nat)
  /-- Every attempt left something; `last` is what the last one left. -/
  | exhausted (attempts : Nat) (last : φ)
  deriving DecidableEq, Repr

namespace RetryPolicy

/-- Three attempts, a minute apart. -/
def standard : RetryPolicy := ⟨3, 60000⟩

/-- A policy with at least one attempt. -/
def atLeastOne (maxAttempts backoff : Nat) : RetryPolicy :=
  ⟨max maxAttempts 1, backoff⟩

/-- A single attempt and no wait. -/
def once : RetryPolicy := atLeastOne 1 0

variable {m : Type → Type} [Monad m] {φ ε : Type}

/-- Attempt number `attempt` and, as far as `more` allows, those after it. -/
def attemptsFrom (wait : m Unit) (operation : Nat → m (Except ε (Attempt φ))) :
    (more attempt : Nat) → m (Except ε (RetryOutcome φ))
  | more, attempt => do
    match ← operation attempt with
    | .error e => return .error e
    | .ok .success => return .ok (.succeeded attempt)
    | .ok (.retryable last) =>
      match more with
      | 0 => return .ok (.exhausted attempt last)
      | more + 1 => do
        wait
        attemptsFrom wait operation more (attempt + 1)

/-- Attempt an operation, numbered from 1, as often as the policy says, at least once. -/
def attempts (policy : RetryPolicy) (wait : m Unit)
    (operation : Nat → m (Except ε (Attempt φ))) : m (Except ε (RetryOutcome φ)) :=
  attemptsFrom wait operation (max policy.maxAttempts 1 - 1) 1

end RetryPolicy

end UsageBilling
