import UsageBilling.Error.Origin
import UsageBilling.Launch
import UsageBilling.Main
import UsageBilling.Metering.Client
import UsageBilling.Metering.Token
import UsageBilling.Notification.Relay
import UsageBilling.Reconciliation
import UsageBilling.Rehearsal.Performance
import UsageBilling.Settings
import UsageBilling.Surface
import UsageBilling.Proofs.Attempts
import UsageBilling.Proofs.Json.Grammar
import UsageBilling.Proofs.Json.Skipping
import UsageBilling.Proofs.Json.Tokens
import UsageBilling.Proofs.Json.Values
import UsageBilling.Proofs.Payload
import UsageBilling.Proofs.Calendar.Gregorian
import UsageBilling.Proofs.Calendar.Month
import UsageBilling.Proofs.Chronicle
import UsageBilling.Proofs.Courses.Attempt
import UsageBilling.Proofs.Courses.Errors
import UsageBilling.Proofs.Courses.Run
import UsageBilling.Proofs.Courses.Submissions
import UsageBilling.Proofs.History
import UsageBilling.Proofs.Instances
import UsageBilling.Proofs.Metering.Settling
import UsageBilling.Proofs.Metering.Samples
import UsageBilling.Proofs.Metering.Positions
import UsageBilling.Proofs.Requests
import UsageBilling.Proofs.Runs.Aborts
import UsageBilling.Proofs.Runs.Acceptance
import UsageBilling.Proofs.Runs.Accounting
import UsageBilling.Proofs.Runs.Escalation
import UsageBilling.Proofs.Runs.Exclusion
import UsageBilling.Proofs.Runs.Generations
import UsageBilling.Proofs.Runs.Resubmission
import UsageBilling.Proofs.Runs.Single
import UsageBilling.Proofs.Window.Fires
import UsageBilling.Proofs.Window.Succession
import UsageBilling.Proofs.Window.Openings
import UsageBilling.Proofs.Window.Boundaries
import UsageBilling.Proofs.Queue.Walks
import UsageBilling.Proofs.Queue.Histories
import UsageBilling.Proofs.Counting
import UsageBilling.Proofs.Courses.Lockstep
import UsageBilling.Proofs.Runs.Counts
import UsageBilling.Proofs.Runs.Delivery
import UsageBilling.Proofs.Runs.Depth
import UsageBilling.Proofs.Runs.Series
import UsageBilling.Proofs.Runs.Shrinking
import UsageBilling.Proofs.Runs.Samples
import UsageBilling.Proofs.Runs.Progress
import UsageBilling.Proofs.Runs.Aside
import UsageBilling.Proofs.Calendar.Elapse
import UsageBilling.Proofs.Runs.Lifecycle
import UsageBilling.Proofs.Json.Outcomes
import UsageBilling.Proofs.Json.Layouts
import UsageBilling.Proofs.Json.Records
import UsageBilling.Proofs.Payload.Layouts
import UsageBilling.Proofs.Json.Cuts
import UsageBilling.Proofs.Payload.Damage
import UsageBilling.Proofs.Summaries
import UsageBilling.Proofs.Texts
import UsageBilling.Proofs.Calendar.Timestamps
import UsageBilling.Proofs.Documents
import UsageBilling.Proofs.Settings
