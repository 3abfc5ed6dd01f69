import UsageBilling.Proofs.Counting
import UsageBilling.Proofs.Courses.Lockstep
import UsageBilling.Proofs.Runs.Exclusion

/-!
# Delivery of notifications

Whether notifications go out makes no difference to billing. Any calls, one
after another, around collaborators that differ in the delivery of notifications only,
come to the same ends, ask for the same tokens, submit the same batches, leave the
same rows and hand over the same summaries; only the statuses under which
escalations are counted may differ. Each summary that is handed over is counted
once, as sent or failed. The wall clocks may differ as well; rows are then the same
as far as their stamps are seen.
-/

namespace UsageBilling

open Billing
open Calendar (Instant)

/-! ## Calls one after another -/

/-- What a call has come to. -/
structure Ending where
  call : Call
  result : Except Crash (Except ServiceError call.Outcome)

/-- What a call comes back with, as far as stamps are seen. -/
def Call.seen (see : Instant → Instant) : (call : Call) → call.Outcome → call.Outcome
  | scheduled => id
  | byHand => seenRows see

/-- The ending as far as stamps are seen. -/
def Ending.seen (see : Instant → Instant) (e : Ending) : Ending :=
  ⟨e.call, e.result.map (Except.map (e.call.seen see))⟩

/-- The calls are made one after another, and come to these endings in this course. -/
inductive Collaborators.DoesAll (c : Collaborators) (plan : BillingPlan) :
    List Call → Chronicle → List Ending → List Happening → Prop where
  | nil (past : Chronicle) : DoesAll c plan [] past [] []
  | cons {call : Call} {calls : List Call} {past : Chronicle}
      {result : Except Crash (Except ServiceError call.Outcome)} {endings : List Ending}
      {course rest : List Happening} (does : c.Does (call.program plan).run past result course)
      (later : DoesAll c plan calls (past ++ course) endings rest) :
      DoesAll c plan (call :: calls) past (⟨call, result⟩ :: endings) (course ++ rest)

/-! ## What is read off a course -/

/-- A token is asked for or a batch submitted here. -/
def Happening.metered? : Happening → Option Request
  | .exchange .token _ => some .token
  | .exchange (.submit token batch) _ => some (.submit token batch)
  | _ => none

/-- The summary that is handed over here, and to which channel. -/
def Happening.notice? : Happening → Option (Channel × Summary)
  | .exchange (.notify channel summary) _ => some (channel, summary)
  | _ => none

/-- Whether the summary that is handed over here goes out. -/
def Happening.delivery? : Happening → Option String
  | .exchange (.notify _ _) (.ok _) => some "sent"
  | .exchange (.notify _ _) (.error _) => some "failed"
  | _ => none

/-- The status under which an observation counts an escalation. -/
def Observation.escalation? : Observation → Option String
  | .escalation status => some status
  | _ => none

/-- What is counted here, other than an escalation. -/
def Happening.countedElse? (h : Happening) : Option Observation :=
  h.observation?.filter (·.escalation?.isNone)

/-- The tokens that are asked for and the batches that are submitted, in order. -/
def meteredIn (course : List Happening) : List Request :=
  course.filterMap (·.metered?)

/-- The summaries that are handed over, in order. -/
def noticesIn (course : List Happening) : List (Channel × Summary) :=
  course.filterMap (·.notice?)

/-- Whether the summaries that are handed over go out, in order. -/
def deliveriesIn (course : List Happening) : List String :=
  course.filterMap (·.delivery?)

/-- The statuses under which escalations are counted, in order. -/
def escalationsIn (course : List Happening) : List String :=
  course.filterMap fun h => h.observation?.bind Observation.escalation?

/-- The two executions cannot be told apart, as far as stamps are seen, but by how escalations are
counted. -/
structure BillsAlike (see : Instant → Instant) (c c' : Collaborators) (past : Chronicle)
    (endings endings' : List Ending) (course course' : List Happening) : Prop where
  endings : endings.map (·.seen see) = endings'.map (·.seen see)
  metered : meteredIn course = meteredIn course'
  rows : seenRows see (c.queueAt (past ++ course)).rows =
    seenRows see (c'.queueAt (past ++ course')).rows
  notices : noticesIn course = noticesIn course'
  counts : ∀ m : Metrics,
    { m.along course with escalations := [] } = { m.along course' with escalations := [] }

/-- Each summary that is handed over is counted once, under the status of its delivery. -/
structure EscalationsCounted (course : List Happening) : Prop where
  statuses : escalationsIn course = deliveriesIn course
  total : ∀ m : Metrics, m.escalations.total + (noticesIn course).length < 2 ^ 53 →
    (m.along course).escalations.total = m.escalations.total + (noticesIn course).length

/-! ## Two executions -/

section Alike

variable {see : Instant → Instant} {c c' : Collaborators} {plan : BillingPlan} {calls : List Call}
  {past past' : Chronicle} {endings endings' : List Ending} {course course' : List Happening}

/-- Whatever calls are made, they come to some ends. -/
theorem Collaborators.exists_doesAll (c : Collaborators) (plan : BillingPlan) (calls : List Call)
    (past : Chronicle) : ∃ endings course, c.DoesAll plan calls past endings course := by
  induction calls generalizing past with
  | nil => exact ⟨[], [], .nil past⟩
  | cons call calls ih =>
    obtain ⟨result, course, does⟩ := c.exists_does (call.program plan).run past
    obtain ⟨endings, rest, later⟩ := ih (past ++ course)
    exact ⟨_, _, .cons does later⟩

/-- Any call goes in lockstep with itself, as far as stamps are seen. -/
theorem Call.lockstep (plan : BillingPlan) (call : Call) :
    Program.Lockstep see (Except.map (call.seen see)) (call.program plan).run (call.program plan).run := by
  cases call with
  | scheduled => exact lockstep_runScheduled plan
  | byHand => exact lockstep_retryOutstanding plan

/-- Calls one after another come to the same ends in courses that are alike. -/
theorem Collaborators.DoesAll.alike (agree : c.AgreeButForDelivery see c')
    (h : c.DoesAll plan calls past endings course) (h' : c'.DoesAll plan calls past' endings' course')
    (pasts : Alike see past past') :
    endings.map (·.seen see) = endings'.map (·.seen see) ∧ Alike see course course' := by
  induction h generalizing past' endings' course' with
  | nil =>
    cases h'
    exact ⟨rfl, rfl⟩
  | @cons call _ _ _ _ _ _ does _ ih =>
    cases h' with
    | cons does' later' =>
      obtain ⟨same, courses⟩ := (call.lockstep plan).does agree pasts does does'
      obtain ⟨rest_same, rests⟩ := ih later' (pasts.append courses)
      refine ⟨?_, courses.append rests⟩
      rw [List.map_cons, List.map_cons, rest_same]
      exact congrArg (fun result => Ending.mk call result :: _) same

/-- The essence of a happening tells what is asked for, handed over and counted. -/
theorem Happening.read_essence (h : Happening) : (h.essence see).metered? = h.metered? ∧
    (h.essence see).notice? = h.notice? ∧ (h.essence see).countedElse? = h.countedElse? := by
  cases h with
  | exchange r answer =>
    cases r with
    | observe o => cases o <;> exact ⟨rfl, rfl, rfl⟩
    | _ => exact ⟨rfl, rfl, rfl⟩
  | _ => exact ⟨rfl, rfl, rfl⟩

/-- Apart from escalations, the counts are those of the other observations. -/
theorem Metrics.along_unescalated (m : Metrics) (course : List Happening) :
    { m.along course with escalations := [] } =
      Metrics.observeAll { m with escalations := [] } (course.filterMap (·.countedElse?)) := by
  have others (m : Metrics) (os : List Observation) : { m.observeAll os with escalations := [] } =
      Metrics.observeAll { m with escalations := [] } (os.filter (·.escalation?.isNone)) := by
    induction os generalizing m with
    | nil => rfl
    | cons o os ih => cases o <;> exact ih _
  rw [along, others, List.filter_filterMap]
  rfl

theorem Alike.counts_eq (h : Alike see course course') (m : Metrics) :
    { m.along course with escalations := [] } = { m.along course' with escalations := [] } := by
  have same : course.filterMap (·.countedElse?) = course'.filterMap (·.countedElse?) :=
    h.filterMap_eq fun h => h.read_essence.2.2
  rw [Metrics.along_unescalated, Metrics.along_unescalated, same]

/-- Executions around such collaborators bill alike. -/
theorem Collaborators.AgreeButForDelivery.billsAlike (agree : c.AgreeButForDelivery see c')
    (h : c.DoesAll plan calls past endings course) (h' : c'.DoesAll plan calls past endings' course') :
    BillsAlike see c c' past endings endings' course course' := by
  obtain ⟨same, courses⟩ := h.alike agree h' rfl
  have queues := agree.queueAt_seen (Alike.append (rfl : Alike see past past) courses)
  exact ⟨same, courses.filterMap_eq fun h => h.read_essence.1, congrArg (·.rows) queues,
    courses.filterMap_eq fun h => h.read_essence.2.1, courses.counts_eq⟩

end Alike

/-! ## Counting escalations -/

section Escalations

variable {c : Collaborators} {plan : BillingPlan} {past : Chronicle} {course : List Happening}

/-- The status that is still to be counted. -/
def Due.statuses : Option Due → List String
  | some (.escalation status) => [status]
  | _ => []

@[simp] theorem escalationsIn_append (first second : List Happening) :
    escalationsIn (first ++ second) = escalationsIn first ++ escalationsIn second :=
  List.filterMap_append

@[simp] theorem deliveriesIn_append (first second : List Happening) :
    deliveriesIn (first ++ second) = deliveriesIn first ++ deliveriesIn second :=
  List.filterMap_append

/-- A delivery is due to be counted as soon as it is answered. -/
theorem Request.deliveriesIn_eq (r : Request) (answer : r.Answer) :
    deliveriesIn [.exchange r answer] = Due.statuses (r.due answer) := by
  cases r with
  | seed | clear | notify => cases answer <;> rfl
  | _ => rfl

/-- A request counts the escalation that is due, and no other one. -/
theorem Request.Settles.escalationsIn_eq {r : Request} {owed : Option Due} (h : r.Settles owed)
    (answer : r.Answer) : escalationsIn [.exchange r answer] = Due.statuses owed := by
  rcases owed with _ | n | status
  · cases r with
    | observe o => cases o <;> first | rfl | cases h
    | _ => rfl
  · cases h
    rfl
  · cases h
    rfl

theorem Arrivals.escalationsIn {others : List Happening} (h : Arrivals others) :
    escalationsIn others = [] ∧ deliveriesIn others = [] :=
  ⟨h.filterMap_eq_nil fun _ _ _ => rfl, h.filterMap_eq_nil fun _ _ _ => rfl⟩

/-- A prompt program counts each summary that it hands over under the status of its delivery. -/
theorem Collaborators.Does.escalationsIn_eq {α : Type} {p : Action α} {result : Except Crash α}
    {P : Request → Prop} {owed : Option Due} (h : c.Does p past result course)
    (prompt : p.Prompt P owed) : escalationsIn course = Due.statuses owed ++ deliveriesIn course := by
  induction p generalizing past course owed with
  | done a =>
    obtain ⟨-, rfl⟩ := does_done.1 h
    obtain rfl : owed = none := prompt
    rfl
  | crash reason =>
    obtain ⟨-, rfl⟩ := does_crash.1 h
    obtain rfl : owed = none := prompt
    rfl
  | ask r next ih =>
    obtain ⟨answer, rest, -, rfl, continued⟩ := h.ask
    obtain ⟨-, settles, later⟩ := prompt
    have others : Arrivals (c.meanwhile past r) := arrivals_meanwhile r
    obtain ⟨none_counted, none_told⟩ := others.escalationsIn
    rw [List.append_cons, escalationsIn_append, escalationsIn_append, deliveriesIn_append,
      deliveriesIn_append, none_counted, none_told, settles.escalationsIn_eq answer,
      r.deliveriesIn_eq answer, ih answer continued (later answer), List.nil_append, List.nil_append]

/-- Each summary that is handed over goes out or does not. -/
theorem length_deliveriesIn (course : List Happening) :
    (deliveriesIn course).length = (noticesIn course).length := by
  rw [deliveriesIn, noticesIn, List.length_filterMap_eq_countP, List.length_filterMap_eq_countP]
  refine List.countP_congr fun h _ => ?_
  cases h with
  | exchange r answer =>
    cases r with
    | notify => cases answer <;> rfl
    | _ => rfl
  | _ => rfl

/-- Any calls count each summary that they hand over under the status of its delivery. -/
theorem Collaborators.DoesAll.escalationsIn_eq {calls : List Call} {endings : List Ending}
    (h : c.DoesAll plan calls past endings course) : escalationsIn course = deliveriesIn course := by
  induction h with
  | nil => rfl
  | @cons call _ _ _ _ _ _ does _ ih =>
    have prompt := ServiceCall.program_prompt plan (.queued call)
    rw [escalationsIn_append, deliveriesIn_append, ih, does.escalationsIn_eq prompt]
    rfl

/-- The escalations that are counted are as many as summaries were handed over. -/
theorem Collaborators.DoesAll.escalationsCounted {calls : List Call} {endings : List Ending}
    (h : c.DoesAll plan calls past endings course) : EscalationsCounted course where
  statuses := h.escalationsIn_eq
  total m small := by
    have adds : Metrics.IsFamily (·.escalations) Observation.escalation? := fun m o => by
      cases o <;> rfl
    rw [← length_deliveriesIn, ← h.escalationsIn_eq] at small ⊢
    rw [adds.along]
    exact Tally.total_addAll small

end Escalations

/-- Whatever calls are made, whether notifications go out makes no difference to billing, and each
notification is counted. If all is seen of stamps, the executions are the same to the stamp; if nothing
is seen of them, the wall clocks may differ in any way. -/
theorem delivery_never_matters {see : Instant → Instant} {c c' : Collaborators} {plan : BillingPlan}
    {calls : List Call} {past : Chronicle} {endings endings' : List Ending}
    {course course' : List Happening}
    (agree : c.AgreeButForDelivery see c') (h : c.DoesAll plan calls past endings course)
    (h' : c'.DoesAll plan calls past endings' course') :
    BillsAlike see c c' past endings endings' course course' ∧
      EscalationsCounted course ∧ EscalationsCounted course' :=
  ⟨agree.billsAlike h h', h.escalationsCounted, h'.escalationsCounted⟩

/-! ## Notifications that are refused -/

namespace Undelivered

def plan : BillingPlan := ⟨"", ⟨1, 0⟩, 0, false⟩

def unreachable : ServiceError := ErrorKind.email.because "no mail server"

/-- Nothing is seen of a time stamp. -/
def unseen (_ : Instant) : Instant := ⟨0, 0⟩

/-- A row cannot be read, and every batch is turned down. -/
def collaborators (stamp : Instant) (delivery : Except ServiceError Unit) : Collaborators :=
  { Collaborators.obliging (.push {} "" "" stamp) [] ⟨0, 0⟩ (.ok "") (fun _ _ => .ok []) with
    answer := fun past r => match r with
      | .wallClock => .still stamp
      | .submit _ batch => .ok (batch.map (.stamped · "" stamp))
      | .notify _ _ => delivery
      | r => (Collaborators.obliging {} [] ⟨0, 0⟩ (.ok "") fun _ _ => .ok []).answer past r }

/-- The collaborators agree apart from the delivery, and from what is not seen of their clocks. -/
theorem agreeButForDelivery {see : Instant → Instant} {stamp stamp' : Instant}
    (same : see stamp = see stamp') (delivery delivery' : Except ServiceError Unit) :
    (collaborators stamp delivery).AgreeButForDelivery see (collaborators stamp' delivery') where
  queue := by
    rw [show (collaborators stamp delivery).queue = .push {} "" "" stamp from rfl,
      show (collaborators stamp' delivery').queue = .push {} "" "" stamp' from rfl,
      ← FailureQueue.push_seen, same, FailureQueue.push_seen]
  answer r _ _ _ := by
    cases r with
    | submit token batch =>
      refine congrArg (fun rejected => Happening.exchange (.submit token batch) (.ok rejected)) ?_
      have seen (stamp : Instant) : seenFailures see (batch.map (.stamped · "" stamp)) =
          batch.map (.stamped · "" (see stamp)) := by
        rw [seenFailures, List.map_map]
        rfl
      rw [seen, seen, same]
    | wallClock => exact congrArg (fun t => Happening.exchange .wallClock (.still t)) same
    | _ => rfl
  refusal _ _ := rfl
  arrivals _ := rfl

/-- What happens in a call by hand and then a scheduled one. -/
def course (c : Collaborators) : List Happening :=
  (c.perform (Call.scheduled.program plan).run (c.perform (Call.byHand.program plan).run []).2).2

theorem doesAll_course {c : Collaborators} {endings : List Ending} {happened : List Happening}
    (h : c.DoesAll plan [.byHand, .scheduled] [] endings happened) : happened = course c := by
  obtain _ | ⟨does, _ | ⟨does', _ | _⟩⟩ := h
  rw [course, show c.perform (Call.byHand.program plan).run [] = _ from does,
    show c.perform (Call.scheduled.program plan).run _ = _ from does', List.append_nil]
  rfl

/-- Both executions escalate, one in vain. -/
theorem both_escalate : escalationsIn (course (collaborators ⟨0, 0⟩ (.ok ()))) = ["sent"] ∧
    escalationsIn (course (collaborators ⟨1, 0⟩ (.error unreachable))) = ["failed"] := by
  decide +kernel

/-- Calls of which the first tells about the row bill alike, whether or not anybody is told, and
whenever they are made. -/
theorem undelivered_billed_alike : ∃ endings endings' course course',
    (collaborators ⟨0, 0⟩ (.ok ())).DoesAll plan [.byHand, .scheduled] [] endings course ∧
    (collaborators ⟨1, 0⟩ (.error unreachable)).DoesAll plan [.byHand, .scheduled] [] endings' course' ∧
    BillsAlike unseen (collaborators ⟨0, 0⟩ (.ok ()))
      (collaborators ⟨1, 0⟩ (.error unreachable)) [] endings endings' course course' ∧
    deliveriesIn course = ["sent"] ∧ deliveriesIn course' = ["failed"] := by
  obtain ⟨sent, failed⟩ := both_escalate
  obtain ⟨endings, _, does⟩ :=
    (collaborators ⟨0, 0⟩ (.ok ())).exists_doesAll plan [.byHand, .scheduled] []
  obtain ⟨endings', _, does'⟩ :=
    (collaborators ⟨1, 0⟩ (.error unreachable)).exists_doesAll plan [.byHand, .scheduled] []
  obtain rfl := doesAll_course does
  obtain rfl := doesAll_course does'
  have same : unseen ⟨0, 0⟩ = unseen ⟨1, 0⟩ := rfl
  obtain ⟨alike, counted, counted'⟩ :=
    delivery_never_matters (agreeButForDelivery same _ _) does does'
  exact ⟨endings, endings', _, _, does, does', alike, counted.statuses.symm.trans sent,
    counted'.statuses.symm.trans failed⟩

end Undelivered

end UsageBilling
