import UsageBilling.Decimal.Binary

/-!
# Metrics

Labelled counters, one gauge and the number of timed database queries, and
their text for a collector: families by name, samples by label, and a family
without samples left out.
-/

namespace UsageBilling

/-- The samples of one family, ascending by label. -/
abbrev Tally := List (String × Nat)

/-- Add to the sample of a label. A sample is kept with 53 significant bits. -/
def Tally.add (label : String) (n : Nat) : Tally → Tally
  | [] => [(label, Decimal.nearest n)]
  | (l, k) :: rest =>
    if label = l then (l, Decimal.nearest (k + Decimal.nearest n)) :: rest
    else if label < l then (label, Decimal.nearest n) :: (l, k) :: rest
    else (l, k) :: Tally.add label n rest

/-- Something that is counted. -/
inductive Observation where
  /-- A billing run ended in some way. -/
  | run (outcome : String)
  /-- A usage batch was sent, with this status. -/
  | submission (status : String)
  /-- Usage records were not accepted, for this reason. -/
  | failures (reason : String) (n : Nat)
  /-- The failure queue holds this many records. -/
  | depth (n : Nat)
  /-- An escalation was dispatched, with this status. -/
  | escalation (status : String)
  /-- An error of this type occurred. -/
  | error (type : String)
  /-- A database query of this operation was timed. -/
  | query (operation : String)
  deriving DecidableEq, Repr

/-- All counts since the start of the service. -/
structure Metrics where
  runs : Tally := []
  submissions : Tally := []
  failures : Tally := []
  escalations : Tally := []
  errors : Tally := []
  queries : Tally := []
  depth : Nat := 0
  deriving DecidableEq, Repr, Inhabited

namespace Metrics

/-- The counts after one more observation. -/
def observe (m : Metrics) : Observation → Metrics
  | .run outcome => { m with runs := m.runs.add outcome 1 }
  | .submission status => { m with submissions := m.submissions.add status 1 }
  | .failures reason n => { m with failures := m.failures.add reason n }
  | .depth n => { m with depth := min n 9223372036854775807 }
  | .escalation status => { m with escalations := m.escalations.add status 1 }
  | .error type => { m with errors := m.errors.add type 1 }
  | .query operation => { m with queries := m.queries.add operation 1 }

/-- The counts after some more observations. -/
def observeAll (m : Metrics) (os : List Observation) : Metrics :=
  os.foldl observe m

/-- A family of samples as a collector sees it. -/
structure Family where
  name : String
  help : String
  type : String
  /-- What comes after the name of the family in the name of its samples. -/
  suffix : String
  /-- The name of the label, if the samples have one. -/
  label : Option String
  samples : Tally

/-- All families, ascending by name. -/
def families (m : Metrics) : List Family :=
  [⟨"metering_billing_runs_total", "Total number of billing reconciliation runs", "counter", "",
      some "outcome", m.runs⟩,
    ⟨"metering_db_query_duration_seconds", "Database query duration in seconds", "histogram",
      "_count", some "operation", m.queries⟩,
    ⟨"metering_errors_total", "Total number of errors", "counter", "", some "error_type",
      m.errors⟩,
    ⟨"metering_escalations_total", "Total number of billing failure escalations", "counter", "",
      some "status", m.escalations⟩,
    ⟨"metering_failure_queue_depth",
      "Number of outstanding records in the billing failure queue", "gauge", "", none,
      [("", Decimal.nearest m.depth)]⟩,
    ⟨"metering_usage_failures_total", "Total number of usage records that were not accepted",
      "counter", "", some "reason", m.failures⟩,
    ⟨"metering_usage_submissions_total", "Total number of usage batch submissions", "counter",
      "", some "status", m.submissions⟩]

/-- A character of a label's value. -/
def labelChar : Char → List Char
  | '\\' => ['\\', '\\']
  | '"' => ['\\', '"']
  | '\n' => ['\\', 'n']
  | c => [c]

/-- One sample of a family. -/
def Family.sampleLine (f : Family) (sample : String × Nat) : String :=
  let labels := match f.label with
    | some label =>
      "\x7b" ++ label ++ "=\"" ++ String.ofList (sample.1.toList.flatMap labelChar) ++ "\"\x7d"
    | none => ""
  f.name ++ f.suffix ++ labels ++ " " ++ String.ofList (Decimal.shortest sample.2)

/-- The samples of all families, one line each. The timing of queries is left to their count. -/
def lines (m : Metrics) : List String :=
  m.families.flatMap fun f => f.samples.map f.sampleLine

/-- The lines of a family; none without a sample. -/
def Family.lines (f : Family) : List String :=
  if f.samples.isEmpty then []
  else
    ("# HELP " ++ f.name ++ " " ++ f.help) :: ("# TYPE " ++ f.name ++ " " ++ f.type) ::
      f.samples.map f.sampleLine

/-- The metrics as a collector reads them. -/
def text (m : Metrics) : String :=
  String.join (m.families.flatMap fun f => f.lines.map (· ++ "\n"))

end Metrics

end UsageBilling
