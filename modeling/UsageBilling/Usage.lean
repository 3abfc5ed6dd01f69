import UsageBilling.Json.Printer
import UsageBilling.Json.Record

/-!
# Usage records

What the metering API is told about an instance for one billing window: a plan,
the instance, the window in epoch milliseconds, a region and measured amounts.
The record is stored and sent as JSON.
-/

namespace UsageBilling

/-- The measure of the monthly record of an instance. -/
def instanceMeasure : String := "INSTANCE"

/-- An amount of one measure. -/
structure Measurement where
  measure : String
  quantity : UInt64
  deriving DecidableEq, Repr, Inhabited

/-- A usage record as the metering API accepts it. -/
structure UsagePayload where
  planId : String
  instanceId : String
  /-- Start of the window in epoch milliseconds. -/
  start : Int64
  /-- End of the window in epoch milliseconds. -/
  stop : Int64
  region : String
  measured : List Measurement
  deriving DecidableEq, Repr, Inhabited

namespace Measurement

/-- An amount as JSON. -/
def render (m : Measurement) : List Char :=
  Json.object [("measure", Json.string m.measure), ("quantity", Json.integer m.quantity.toNat)]

/-- The fields of an amount as far as they are read. -/
structure Draft where
  measure : Option String := none
  quantity : Option UInt64 := none

/-- The fields of an amount, in order. -/
def fields : List (Json.Field Draft) :=
  [.required "measure" (·.measure) (fun d s => { d with measure := some s }) Json.text,
    .required "quantity" (·.quantity) (fun d n => { d with quantity := some n }) Json.word]

/-- An amount with all its fields. -/
def Draft.finish (d : Draft) : Option Measurement :=
  return ⟨← d.measure, ← d.quantity⟩

/-- An amount from JSON. -/
def reader : Json.Reader Measurement :=
  Json.record fields {} Draft.finish

end Measurement

namespace UsagePayload

/-- A usage record as JSON characters. -/
def render (p : UsagePayload) : List Char :=
  Json.object [
    ("plan_id", Json.string p.planId),
    ("resource_instance_id", Json.string p.instanceId),
    ("start", Json.integer p.start.toInt),
    ("end", Json.integer p.stop.toInt),
    ("region", Json.string p.region),
    ("measured_usage", Json.array (p.measured.map Measurement.render))]

/-- A usage record as it is stored. -/
def toJson (p : UsagePayload) : String :=
  String.ofList p.render

/-- The fields of a usage record as far as they are read. -/
structure Draft where
  planId : Option String := none
  instanceId : Option String := none
  start : Option Int64 := none
  stop : Option Int64 := none
  region : Option String := none
  measured : Option (List Measurement) := none

/-- The fields of a usage record, in order. -/
def fields : List (Json.Field Draft) :=
  [.required "plan_id" (·.planId) (fun d s => { d with planId := some s }) Json.text,
    .required "resource_instance_id" (·.instanceId) (fun d s => { d with instanceId := some s })
      Json.text,
    .required "start" (·.start) (fun d n => { d with start := some n }) Json.signedWord,
    .required "end" (·.stop) (fun d n => { d with stop := some n }) Json.signedWord,
    .required "region" (·.region) (fun d s => { d with region := some s }) Json.text,
    .required "measured_usage" (·.measured) (fun d m => { d with measured := some m })
      (Json.listOf Measurement.reader)]

/-- A usage record with all its fields. -/
def Draft.finish (d : Draft) : Option UsagePayload :=
  return ⟨← d.planId, ← d.instanceId, ← d.start, ← d.stop, ← d.region, ← d.measured⟩

/-- A usage record from JSON. -/
def reader : Json.Reader UsagePayload :=
  Json.record fields {} Draft.finish

/-- The usage record that a stored text holds. -/
def ofJson (raw : String) : Except Json.Fault UsagePayload :=
  Json.decode reader raw

end UsagePayload

end UsageBilling
