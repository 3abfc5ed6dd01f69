/-!
# Programs that ask their surroundings

A `Program` is a finite tree. Each inner node asks one question and continues
with the answer; each leaf is a result, or the point where the program broke
down. What the answers are is left to whoever runs it: `Program.run` answers
from a state, `Program.interpret` answers by a program over other questions,
so that one tree can be read alone, step by step, or in the company of others.
-/

namespace UsageBilling

/-- The questions that a program may ask and the type of the answer to each. -/
structure Interface where
  Query : Type
  Answer : Query → Type

/-- Why a program broke down without a result. -/
inductive Crash where
  /-- An instant past the last representable one was computed. -/
  | overflow
  /-- The reference clock could not be read. -/
  | clock
  deriving DecidableEq, Repr

/-- What a breakdown reports. -/
def Crash.message : Crash → String
  | .overflow => "`DateTime + TimeDelta` overflowed"
  | .clock => "the reference clock cannot be read"

/-- A finite tree of questions with results at its leaves. -/
inductive Program (I : Interface) (α : Type) where
  | done (result : α)
  | crash (reason : Crash)
  | ask (query : I.Query) (next : I.Answer query → Program I α)

namespace Program

variable {I J : Interface} {α β σ : Type}

/-- Continue every result of a program with another program. -/
def bind : Program I α → (α → Program I β) → Program I β
  | done a, f => f a
  | crash reason, _ => crash reason
  | ask query next, f => ask query fun answer => (next answer).bind f

instance : Monad (Program I) where
  pure := done
  bind := bind

@[simp] theorem pure_eq (a : α) : (pure a : Program I α) = done a := rfl

@[simp] theorem done_bind (a : α) (f : α → Program I β) : (done a >>= f) = f a := rfl

@[simp] theorem crash_bind (reason : Crash) (f : α → Program I β) :
    ((crash reason : Program I α) >>= f) = crash reason := rfl

@[simp] theorem ask_bind (query : I.Query) (next : I.Answer query → Program I α)
    (f : α → Program I β) : (ask query next >>= f) = ask query fun answer => next answer >>= f :=
  rfl

theorem bind_done (p : Program I α) : (p >>= done) = p := by
  induction p with
  | done => rfl
  | crash => rfl
  | ask query next ih => simp [ih]

theorem bind_bind {γ : Type} (p : Program I α) (f : α → Program I β) (g : β → Program I γ) :
    (p >>= f >>= g) = p >>= fun a => f a >>= g := by
  induction p with
  | done => rfl
  | crash => rfl
  | ask query next ih => simp [ih]

instance : LawfulMonad (Program I) :=
  LawfulMonad.mk' (Program I) bind_done (fun _ _ => rfl) bind_bind

/-- Ask one question and return its answer. -/
def request (query : I.Query) : Program I (I.Answer query) :=
  ask query done

/-- Ask `query` once more when the program ends, however it ends. -/
def ensuring (query : I.Query) : Program I α → Program I α
  | done a => ask query fun _ => done a
  | crash reason => ask query fun _ => crash reason
  | ask q next => ask q fun answer => (next answer).ensuring query

/-- Answer each question by a program over other questions. -/
def interpret (answer : (query : I.Query) → Program J (I.Answer query)) :
    Program I α → Program J α
  | done a => done a
  | crash reason => crash reason
  | ask query next => (answer query).bind fun a => (next a).interpret answer

/-- Answer the questions one after another from a state. -/
def run (answer : (query : I.Query) → σ → I.Answer query × σ) :
    Program I α → σ → Except Crash α × σ
  | done a, s => (.ok a, s)
  | crash reason, s => (.error reason, s)
  | ask query next, s =>
    let (a, s') := answer query s
    (next a).run answer s'

end Program

end UsageBilling
