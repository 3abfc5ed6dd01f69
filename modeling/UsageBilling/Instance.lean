import UsageBilling.Calendar.Timestamp
import UsageBilling.Json.Printer
import UsageBilling.Json.Record

/-!
# Service instances

A provisioned instance, which billing only reads, and the store of those that
the monthly run bills.
-/

namespace UsageBilling

open Calendar (Instant Timestamp.render Timestamp.read?)

/-- A provisioned instance. -/
structure ServiceInstance where
  instanceId : String
  planId : String
  region : String
  created : Instant
  deriving DecidableEq, Repr, Inhabited

/-- An instant from a JSON string. -/
def timestampReader : Json.Reader Instant := fun cs => do
  let (s, rest) ← Json.text cs
  match Timestamp.read? s with
  | some t => return (t, rest)
  | none => .error .mismatch

/-- An instant as a JSON string. -/
def renderTimestamp (t : Instant) : List Char :=
  Json.string (Timestamp.render t)

namespace ServiceInstance

/-- An instance as JSON. -/
def toJson (i : ServiceInstance) : String :=
  String.ofList <| Json.object [
    ("instance_id", Json.string i.instanceId),
    ("plan_id", Json.string i.planId),
    ("region", Json.string i.region),
    ("created_utc", renderTimestamp i.created)]

/-- The fields of an instance as far as they are read. -/
structure Draft where
  instanceId : Option String := none
  planId : Option String := none
  region : Option String := none
  created : Option Instant := none

/-- The fields of an instance, in order. -/
def fields : List (Json.Field Draft) :=
  [.required "instance_id" (·.instanceId) (fun d s => { d with instanceId := some s }) Json.text,
    .required "plan_id" (·.planId) (fun d s => { d with planId := some s }) Json.text,
    .required "region" (·.region) (fun d s => { d with region := some s }) Json.text,
    .required "created_utc" (·.created) (fun d t => { d with created := some t })
      timestampReader]

/-- An instance with all its fields. -/
def Draft.finish (d : Draft) : Option ServiceInstance :=
  return ⟨← d.instanceId, ← d.planId, ← d.region, ← d.created⟩

/-- The instance that a text holds. -/
def ofJson (raw : String) : Except Json.Fault ServiceInstance :=
  Json.decode (Json.record fields {} Draft.finish) raw

end ServiceInstance

/-- The active instances, at most one for each id and in ascending order of ids. -/
structure InstanceStore where
  rows : List ServiceInstance := []

namespace InstanceStore

/-- Put an instance in its place, over one with the same id. -/
def place (i : ServiceInstance) : List ServiceInstance → List ServiceInstance
  | [] => [i]
  | j :: rows =>
    if i.instanceId = j.instanceId then i :: rows
    else if i.instanceId < j.instanceId then i :: j :: rows
    else j :: place i rows

/-- The store with one more instance. -/
def insert (store : InstanceStore) (i : ServiceInstance) : InstanceStore :=
  ⟨place i store.rows⟩

/-- The store of some instances, later ones over earlier ones. -/
def ofList (instances : List ServiceInstance) : InstanceStore :=
  instances.foldl insert {}

/-- The instance with an id. -/
def get? (store : InstanceStore) (id : String) : Option ServiceInstance :=
  store.rows.find? fun i => i.instanceId = id

end InstanceStore

end UsageBilling
