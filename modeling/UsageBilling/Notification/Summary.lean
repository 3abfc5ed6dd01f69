import UsageBilling.Failure
import UsageBilling.Text.Markup

/-!
# Summaries of billing failures

What a human is told: a subject with the number of entries, and one line for
each entry, as plain text and as paragraphs of HTML.
-/

namespace UsageBilling

/-- A digest of records that could not be billed. -/
structure Summary where
  subject : String
  text : String
  html : String
  /-- The number of entries. -/
  count : Nat
  deriving DecidableEq, Repr, Inhabited

namespace Summary

/-- A summary of some lines. -/
def ofLines (subject : String) (lines : List String) : Summary where
  subject := subject
  text := String.ofList (lines.flatMap fun line => line.toList ++ ['\n', '\n'])
  html := String.ofList (lines.flatMap fun line => Text.paragraph line.toList)
  count := lines.length

/-- A number as text. -/
def countText (n : Nat) : String :=
  String.ofList (Text.decimal n)

/-- The subject of a summary of failed billings. -/
def failedSubject (product : String) (n : Nat) : String :=
  "[Service Broker " ++ product ++ "] Billing for " ++ countText n ++ " instances failed"

/-- The line of an entry: the instance if it is known, and the reason. -/
def line (instanceId message : String) : String :=
  if instanceId.isEmpty then message else instanceId ++ ": " ++ message

/-- A summary of failures. -/
def ofFailures (product : String) (failures : List UsageFailure) : Summary :=
  ofLines (failedSubject product failures.length) <|
    failures.map fun f => line f.payload.instanceId f.message

/-- The instance of a row, or the empty text if its payload cannot be read. -/
def instanceOf (r : FailureRecord) : String :=
  match r.usagePayload with
  | .ok p => p.instanceId
  | .error _ => ""

/-- A summary of rows; one whose payload cannot be read is listed by its message only. -/
def ofRecords (product : String) (records : List FailureRecord) : Summary :=
  ofLines (failedSubject product records.length) <|
    records.map fun r => line (instanceOf r) r.message

/-- The line of a row that cannot be billed any more, with its raw payload. -/
def undecodableLine (r : FailureRecord) : String :=
  "record " ++ String.ofList (Text.integer r.id) ++ ": " ++ r.message ++ " (stored payload: " ++
    r.payload ++ ")"

/-- A summary of rows whose payload cannot be read. -/
def ofUndecodable (product : String) (records : List FailureRecord) : Summary :=
  ofLines
    ("[Service Broker " ++ product ++ "] " ++ countText records.length ++
      " billing records could not be decoded")
    (records.map undecodableLine)

/-- The two rows of a test notification. -/
def sampleRecords (now : Calendar.Instant) : List FailureRecord :=
  [1, 2].map fun (i : Nat) =>
    ⟨i, "\x7b\x7d", "Billing for instance " ++ countText i ++ " failed", now, now⟩

end Summary

end UsageBilling
