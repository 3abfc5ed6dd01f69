import UsageBilling.Rehearsal.Stage

/-!
# Performances

A rehearsal is performed in virtual time. The main task does the steps of the
scenario; the scheduler's timer and the runs that it starts go on beside it.
One task is active at a time and keeps the stage until it waits. When all tasks
wait, time jumps to the earliest of them.
-/

namespace UsageBilling.Rehearsal

/-- How far a task comes by itself. -/
inductive Progress (α : Type) where
  | finished (result : α)
  | crashed (reason : Crash)
  /-- It goes on after some milliseconds, more than none. -/
  | waiting (ms : Nat) (rest : Task α)
  /-- It goes on when nothing else is due. -/
  | settling (rest : Task α)

/-- Let a task go on until it waits, and the stage after that. -/
def proceed {α : Type} : Task α → Stage → Progress α × Stage
  | .done a, s => (.finished a, s)
  | .crash reason, s => (.crashed reason, s)
  | .ask .look next, s => proceed (next s) s
  | .ask (.become s') next, _ => proceed (next ()) s'
  | .ask (.wait ms) next, s =>
    if ms = 0 then proceed (next ()) s else (.waiting ms (next ()), s)
  | .ask .settle next, s => (.settling (next ()), s)

/-- A run in the background that goes on at a time. -/
structure Background where
  wake : Nat
  rest : Task Unit

/-- The stage and the runs in the background, in the order in which they were put off. -/
structure Theatre where
  stage : Stage
  runs : List Background := []

namespace Theatre

/-- The earliest time of some background runs. -/
def earliest : List Background → Option Nat
  | [] => none
  | run :: runs => some <| (earliest runs).elim run.wake (min run.wake)

/-- The first run that goes on by a time, and the runs without it. -/
def takeDue (time : Nat) : List Background → Option (Background × List Background)
  | [] => none
  | run :: runs =>
    if run.wake ≤ time then some (run, runs)
    else (takeDue time runs).map fun (due, rest) => (due, run :: rest)

/-- When the next thing happens beside the main task. -/
def nextTime? (t : Theatre) : Option Nat :=
  match t.stage.scheduler.wakes? t.stage.elapsed, earliest t.runs with
  | some a, some b => some (min a b)
  | some a, none => some a
  | none, b => b

/-- Let time pass up to `time`. -/
def passTo (t : Theatre) (time : Nat) : Theatre :=
  { t with stage := { t.stage with elapsed := max t.stage.elapsed time } }

/-- The interludes of one call never nest deeper than the scripts are long. -/
def depth (s : Stage) : Nat :=
  s.submissions.entries.length + s.tokens.entries.length + s.deliveries.entries.length + 4

/-- A run that the scheduler starts. -/
def scheduledRun (s : Stage) : Task Unit := do
  discard <| Task.perform (depth s) .run

/-- Wake the scheduler; a run that it starts comes after the others that are due. -/
def wakeScheduler (t : Theatre) : Theatre :=
  let (scheduler, fires) := t.stage.scheduler.wake t.stage.clock t.stage.elapsed
  { stage := { t.stage with scheduler := scheduler }
    runs := if fires then t.runs ++ [⟨t.stage.elapsed, scheduledRun t.stage⟩] else t.runs }

/-- Let a background run go on; it ends for itself if it breaks down. -/
def wakeRun (t : Theatre) (run : Background) (others : List Background) : Theatre :=
  match proceed run.rest t.stage with
  | (.finished _, s) => ⟨s, others⟩
  | (.crashed _, s) => ⟨s, others⟩
  | (.waiting ms rest, s) => ⟨s, others ++ [⟨s.elapsed + ms, rest⟩]⟩
  | (.settling rest, s) => ⟨s, others ++ [⟨s.elapsed, rest⟩]⟩

/-- Let the next thing beside the main task happen, at `time`. -/
def happen (t : Theatre) (time : Nat) : Theatre :=
  let t := t.passTo time
  if (t.stage.scheduler.wakes? t.stage.elapsed).any (· ≤ t.stage.elapsed) then t.wakeScheduler
  else match takeDue t.stage.elapsed t.runs with
    | some (run, others) => t.wakeRun run others
    | none => t

/-- Let everything beside the main task happen that is `due` at its time, at most `fuel` times. -/
def letHappen (due : Nat → Bool) : Nat → Theatre → Theatre
  | 0, t => t
  | fuel + 1, t =>
    match t.nextTime? with
    | none => t
    | some time => if due time then letHappen due fuel (t.happen time) else t

/-- More than ever happens beside the main task while it waits once. -/
def patience : Nat := 16777216

/-- Do the main task to its end, letting everything else happen while it waits; it waits at
most `fuel` times. -/
def finish {α : Type} : Nat → Task α → Theatre → Except Crash α × Theatre
  | 0, _, t => (.error .clock, t)
  | fuel + 1, task, t =>
    match proceed task t.stage with
    | (.finished a, s) => (.ok a, { t with stage := s })
    | (.crashed reason, s) => (.error reason, { t with stage := s })
    | (.waiting ms rest, s) =>
      let time := s.elapsed + ms
      finish fuel rest ((letHappen (· < time) patience { t with stage := s }).passTo time)
    | (.settling rest, s) =>
      finish fuel rest (letHappen (· ≤ s.elapsed) patience { t with stage := s })

end Theatre

/-- What is seen of one step. -/
structure Report where
  value : Value
  /-- What happened, the earliest first. -/
  events : List Event
  /-- The queue after the step. -/
  queue : List FailureRecord
  /-- A run is active after the step. -/
  active : Bool
  /-- Milliseconds that the step took. -/
  elapsed : Nat

/-- Do the steps of a scenario one after another. -/
def performSteps : Theatre → List Step → Except Crash (List Report × Theatre)
  | t, [] => .ok ([], t)
  | t, step :: steps => do
    let t := { t with stage := { t.stage with events := [] } }
    let (value, t') :=
      Theatre.finish Theatre.patience (Task.perform (Theatre.depth t.stage) step) t
    let report : Report := {
      value := ← value
      events := t'.stage.events.reverse
      queue := t'.stage.queue.rows
      active := t'.stage.runActive
      elapsed := t'.stage.elapsed - t.stage.elapsed }
    let (reports, final) ← performSteps t' steps
    return (report :: reports, final)

/-- The stage at the beginning of a scenario. -/
def Scenario.stage (s : Scenario) : Stage where
  plan := s.plan
  policy := s.policy
  wallClock := s.wallClock
  ticking := s.ticking
  faults := s.faults
  remote := s.remote
  base := s.now
  instances := .ofList s.instances
  submissions := s.submissions
  tokens := s.tokens
  deliveries := s.deliveries

/-- What is seen of a scenario: its steps, and the metrics at the end. -/
def Scenario.perform (s : Scenario) : Except Crash (List Report × Metrics) := do
  let (reports, t) ← performSteps { stage := s.stage } s.steps
  return (reports, t.stage.metrics)

end UsageBilling.Rehearsal
