import UsageBilling.Instance
import UsageBilling.Program
import UsageBilling.Usage

/-!
# Billing windows and their trigger

The scheduled run bills the previous month and a manual trigger the current
one. A window never starts before its instance existed: it moves to two hours
after the creation instead. The schedule fires at the first instant of every
month.
-/

namespace UsageBilling

open Calendar (Instant Month)

/-- How a billing request was triggered. -/
structure BillingContext where
  manual : Bool
  /-- Bill a quantity of zero. -/
  dryRun : Bool
  deriving DecidableEq, Repr, Inhabited

/-- The trigger of the monthly run. -/
def BillingContext.scheduled : BillingContext := ⟨false, false⟩

/-- The trigger of an administrator or of a deprovisioning. -/
def BillingContext.byHand (dryRun : Bool) : BillingContext := ⟨true, dryRun⟩

/-- Seconds added to the creation of an instance that is younger than its window. -/
def creationBuffer : Nat := 7200

/-- The month that is billed at the instant `now`. -/
def billedMonth (ctx : BillingContext) (now : Instant) : Month :=
  if ctx.manual then now.month else now.month.previous

/-- Start of the billing window of an instance created at `created`, as seen at `now`. -/
def windowStart (created : Instant) (ctx : BillingContext) (now : Instant) :
    Except Crash Instant :=
  let start := Instant.startOfMonth (billedMonth ctx now)
  if start.Before created then
    match created.addSeconds? creationBuffer with
    | some t => .ok t
    | none => .error .overflow
  else .ok start

/-- The monthly usage record of an instance. -/
def usagePayload (i : ServiceInstance) (ctx : BillingContext) (now : Instant) :
    Except Crash UsagePayload := do
  let start := Int64.ofInt (← windowStart i.created ctx now).millis
  return {
    planId := i.planId
    instanceId := i.instanceId
    start := start
    stop := start
    region := i.region
    measured := [⟨instanceMeasure, if ctx.dryRun then 0 else 1⟩] }

/-- The first fire of the monthly schedule after `now`. -/
def nextFire (now : Instant) : Instant :=
  Instant.startOfMonth now.month.next

end UsageBilling
