import Mathlib.Data.List.Infix
import Mathlib.Order.Bounds.Basic
import Mathlib.Tactic.IntervalCases
import UsageBilling.Retry

/-!
# Attempts after a script

A script says what each attempt leads to. The attempts go on while the script
says so and the policy allows it, so the last one is the least number at which
either ends. What happens until then is one row: the attempts in order, one wait
between each two. The number of an attempt never exceeds what the policy allows,
so it fits wherever the policy's own number does.
-/

namespace UsageBilling.RetryPolicy

/-- What happens while an operation is attempted. -/
inductive Occurrence where
  | attempt (number : Nat)
  /-- A wait of some milliseconds. -/
  | wait (ms : Nat)
  deriving DecidableEq, Repr

/-- Some attempts, numbered from `first` on, with a wait between each two. -/
def row (backoff first count : Nat) : List Occurrence :=
  ((List.range' first count).map .attempt).intersperse (.wait backoff)

/-- How many attempts a policy allows. -/
def allowed (policy : RetryPolicy) : Nat :=
  max policy.maxAttempts 1

section Script

variable {φ ε : Type}

/-- The attempt left something to retry. -/
def Retries : Except ε (Attempt φ) → Prop
  | .ok (.retryable _) => True
  | _ => False

/-- What all attempts come to if attempt `number` is the last one, and led to `result`. -/
def ending (number : Nat) : Except ε (Attempt φ) → Except ε (RetryOutcome φ)
  | .error e => .error e
  | .ok .success => .ok (.succeeded number)
  | .ok (.retryable left) => .ok (.exhausted number left)

/-- An attempt that is the last one allowed, or leaves nothing to retry. -/
def MayEnd (policy : RetryPolicy) (script : Nat → Except ε (Attempt φ)) (number : Nat) : Prop :=
  1 ≤ number ∧ (number = policy.allowed ∨ ¬ Retries (script number))

variable {m : Type → Type} [Monad m]

/-- The operation of a script, each attempt made known. -/
def scripted (perform : Occurrence → m Unit) (script : Nat → Except ε (Attempt φ)) (number : Nat) :
    m (Except ε (Attempt φ)) := do
  perform (.attempt number)
  return script number

/-! ## Rows -/

theorem row_one (backoff first : Nat) : row backoff first 1 = [.attempt first] := rfl

theorem row_succ (backoff first count : Nat) : row backoff first (count + 2) =
    .attempt first :: .wait backoff :: row backoff (first + 1) (count + 1) := rfl

/-- A row tells of attempts in the order of their numbers, and of no others. -/
theorem attempt_mem_row_iff {backoff first count number : Nat} :
    .attempt number ∈ row backoff first (count + 1) ↔ first ≤ number ∧ number ≤ first + count := by
  induction count generalizing first with
  | zero =>
    rw [row_one]
    simp
    omega
  | succ count ih =>
    rw [row_succ]
    simp [ih]
    omega

/-! ## Attempts -/

variable [LawfulMonad m] (perform : Occurrence → m Unit) (script : Nat → Except ε (Attempt φ))

/-- An attempt with nothing to retry, or with no other allowed, is the end. -/
theorem attemptsFrom_last {backoff more first : Nat}
    (last : more = 0 ∨ ¬ Retries (script first)) :
    attemptsFrom (perform (.wait backoff)) (scripted perform script) more first =
      (do forM (row backoff first 1) perform; return ending first (script first)) := by
  rw [row_one]
  unfold attemptsFrom scripted
  simp only [bind_assoc, pure_bind, List.forM_cons, List.forM_nil]
  rcases led : script first with e | _ | left
  · rfl
  · rfl
  · obtain rfl : more = 0 := last.resolve_right (by simp [led, Retries])
    rfl

/-- After an attempt that leaves something there is a wait, and the attempts go on. -/
theorem attemptsFrom_again {backoff more first : Nat} (again : Retries (script first)) :
    attemptsFrom (perform (.wait backoff)) (scripted perform script) (more + 1) first =
      (do
        perform (.attempt first)
        perform (.wait backoff)
        attemptsFrom (perform (.wait backoff)) (scripted perform script) more (first + 1)) := by
  rw [attemptsFrom]
  unfold scripted
  simp only [bind_assoc, pure_bind]
  rcases led : script first with e | _ | left
  · simp [led, Retries] at again
  · simp [led, Retries] at again
  · rfl

/-- The attempts from one on are a row of which each but the last leaves something to retry. -/
theorem attemptsFrom_scripted (backoff more first : Nat) :
    ∃ count, count ≤ more ∧ (∀ j < count, Retries (script (first + j))) ∧
      (count = more ∨ ¬ Retries (script (first + count))) ∧
      attemptsFrom (perform (.wait backoff)) (scripted perform script) more first =
        (do
          forM (row backoff first (count + 1)) perform
          return ending (first + count) (script (first + count))) := by
  induction more generalizing first with
  | zero => exact ⟨0, Nat.le_refl 0, by simp, .inl rfl, attemptsFrom_last perform script (.inl rfl)⟩
  | succ more ih =>
    by_cases again : Retries (script first)
    case neg =>
      exact ⟨0, Nat.zero_le _, by simp, .inr again, attemptsFrom_last perform script (.inr again)⟩
    obtain ⟨count, within, retried, ends, same⟩ := ih (first + 1)
    have shift : first + (count + 1) = first + 1 + count := by omega
    refine ⟨count + 1, by omega, ?_, ?_, ?_⟩
    · intro j below
      cases j with
      | zero => exact again
      | succ j =>
        rw [Nat.add_comm j 1, ← Nat.add_assoc]
        exact retried j (by omega)
    · rw [shift]
      exact ends.imp_left (congrArg (· + 1))
    · rw [attemptsFrom_again perform script again, same, row_succ, shift]
      simp only [List.forM_cons, bind_assoc]

/-- The attempts of a policy after a script end with the least attempt that may be the last. They
are numbered from 1 up to that one, with one wait of the policy between each two, and nothing else
happens; what they come to is what the last one led to. No number exceeds 32 bits if that of the
policy does not. -/
theorem attempts_follow_script (policy : RetryPolicy) :
    ∃ last, IsLeast {number | policy.MayEnd script number} last ∧
      policy.attempts (perform (.wait policy.backoff)) (scripted perform script) =
        (do forM (row policy.backoff 1 last) perform; return ending last (script last)) ∧
      (policy.maxAttempts < UInt32.size →
        ∀ number, .attempt number ∈ row policy.backoff 1 last → number < UInt32.size) := by
  obtain ⟨count, within, retried, ends, same⟩ :=
    attemptsFrom_scripted perform script policy.backoff (policy.allowed - 1) 1
  have positive : 1 ≤ policy.allowed := Nat.le_max_right _ _
  rw [Nat.add_comm 1 count] at ends same
  refine ⟨count + 1, ⟨⟨by omega, ?_⟩, ?_⟩, same, ?_⟩
  · exact ends.imp_left fun all => by omega
  · rintro number ⟨one_le, ended⟩
    -- an earlier attempt is neither the last one allowed nor one with nothing to retry
    by_contra earlier
    have again := retried (number - 1) (by omega)
    rw [Nat.add_sub_cancel' one_le] at again
    rcases ended with all | nothing
    · omega
    · exact nothing again
  · intro fits number occurs
    rw [attempt_mem_row_iff] at occurs
    unfold allowed at within
    unfold UInt32.size at *
    omega

end Script

/-! ## An operation that is denied at its third attempt -/

namespace DeniedAtThird

/-- As many attempts as 32 bits can count, a minute apart. -/
def patient : RetryPolicy := ⟨4294967295, 60000⟩

def script : Nat → Except String (Attempt Nat)
  | 3 => .error "denied"
  | number => .ok (.retryable number)

/-- Keeps an account of what happens. -/
def note (occurrence : Occurrence) : StateM (List Occurrence) Unit :=
  modify (· ++ [occurrence])

/-- Three attempts that all fail wait twice, and the error of the last one comes back. -/
theorem denied_after_two_waits : patient.maxAttempts < UInt32.size ∧
    (patient.attempts (note (.wait 60000)) (scripted note script)).run [] =
      (.error "denied", [.attempt 1, .wait 60000, .attempt 2, .wait 60000, .attempt 3]) ∧
    ∀ number, .attempt number ∈ row 60000 1 3 → number < UInt32.size := by
  have fits : patient.maxAttempts < UInt32.size := by decide
  refine ⟨fits, ?_⟩
  obtain ⟨last, ⟨⟨positive, ends⟩, least⟩, same, bounded⟩ :=
    attempts_follow_script note script patient
  have within : last ≤ 3 := least ⟨by decide, .inr (by simp [script, Retries])⟩
  have third : last = 3 := by
    interval_cases last
    · simp [patient, allowed, script, Retries] at ends
    · simp [patient, allowed, script, Retries] at ends
    · rfl
  subst third
  exact ⟨congrArg (·.run []) same, bounded fits⟩

end DeniedAtThird

end UsageBilling.RetryPolicy
