import UsageBilling.Proofs.History

/-!
# Announced removals

A row that cannot be read leaves the queue when a call writes it. Every write
after a pass, and the write of a manual call that stores the rows anew, comes
after a notification that lists each such row. The write with which a scheduled
call fills the queue comes before any notification, so that the rows that it
removes are announced nowhere.
-/

namespace UsageBilling

open Billing

/-- The text occurs in the other one. -/
def OccursIn (s t : String) : Prop :=
  s.toList <:+: t.toList

/-- A line of a summary occurs in its text. -/
theorem Summary.occursIn_ofLines {subject l : String} {lines : List String} (h : l ∈ lines) :
    OccursIn l (ofLines subject lines).text := by
  rw [OccursIn, ofLines, String.toList_ofList]
  obtain ⟨first, last, rfl⟩ := List.append_of_mem h
  refine ⟨first.flatMap fun line => line.toList ++ ['\n', '\n'],
    ['\n', '\n'] ++ last.flatMap fun line => line.toList ++ ['\n', '\n'], ?_⟩
  simp

/-- A notification about rows that cannot be read was dispatched, delivered or not, and the text of
its summary has the line of this row: its id, its message and its raw payload. -/
def Announced (plan : BillingPlan) (course : List Happening) (r : FailureRecord) : Prop :=
  ∃ records answer, .exchange (.notify .main (.ofUndecodable plan.product records)) answer ∈ course ∧
    r ∈ records ∧ OccursIn (Summary.undecodableLine r) (Summary.ofUndecodable plan.product records).text

/-- The call is a scheduled one that has not asked for a token yet. -/
def FillsQueue (call : Call) (course : List Happening) : Prop :=
  call = .scheduled ∧ tokensIn course = 0

/-- Only a write takes rows out of the queue. -/
theorem FailureQueue.isWrite_of_removed {q : FailureQueue} {h : Happening} {r : FailureRecord}
    (present : r ∈ q.rows) (removed : r ∉ (q.after h).rows) : h.IsWrite := by
  unfold after at removed
  split at removed
  · trivial
  · trivial
  · exact absurd (List.mem_append_left _ present) removed
  · exact absurd present removed

/-- A summary that is dispatched is handed over, delivered or not. -/
theorem Dispatches.mem {summary : Summary} {course : List Happening}
    (h : Dispatches summary course) : ∃ answer, .exchange (.notify .main summary) answer ∈ course := by
  cases h with
  | sent => exact ⟨_, List.mem_cons_self⟩
  | failed e => exact ⟨_, List.mem_cons_self⟩

/-- Rows that are reported are announced. -/
theorem Reports.announced {plan : BillingPlan} {rows : List FailureRecord} {report : List Happening}
    (h : Reports plan rows report) {r : FailureRecord} (member : r ∈ rows) :
    Announced plan report r := by
  cases h with
  | nothing => cases member
  | told _ dispatches =>
    obtain ⟨answer, inside⟩ := dispatches.mem
    exact ⟨rows, answer, inside, member, Summary.occursIn_ofLines (List.mem_map_of_mem member)⟩

theorem Announced.mono {plan : BillingPlan} {first second : List Happening} {r : FailureRecord}
    (h : Announced plan first r) (within : ∀ h ∈ first, h ∈ second) : Announced plan second r := by
  obtain ⟨records, answer, member, rest⟩ := h
  exact ⟨records, answer, within _ member, rest⟩

/-- Without a notification no row is announced. -/
theorem not_announced_of_arrivals {plan : BillingPlan} {others course : List Happening}
    (arrivals : Arrivals others) (silent : ∀ summary answer,
      .exchange (.notify .main summary) answer ∉ course) (r : FailureRecord) :
    ¬ Announced plan (others ++ course) r := by
  rintro ⟨records, answer, member, -⟩
  rcases List.mem_append.1 member with member | member
  · obtain ⟨_, _, _, ended⟩ := arrivals _ member
    cases ended
  · exact silent _ _ member

/-- At a write of a call, the rows that cannot be read have been announced, unless the write fills
the queue of a scheduled call. -/
theorem WritesAt.announced_iff {plan : BillingPlan} {q : FailureQueue} {call : Call}
    {since : List Happening} {write : Happening} (h : WritesAt plan q call since write)
    {r : FailureRecord} (present : r ∈ (q.afterAll since).rows)
    (undecodable : ∃ fault, r.usagePayload = .error fault) :
    Announced plan since r ↔ ¬ FillsQueue call since := by
  cases h with
  | seeding arrivals failures =>
    refine iff_of_false (not_announced_of_arrivals arrivals (by simp) r) (not_not.2 ⟨rfl, ?_⟩)
    rw [tokensIn_append, arrivals.passive.tokensIn]
    rfl
  | @reseeding others asides report clock arrivals quiet reports =>
    refine iff_of_true ?_ (by rintro ⟨ended, -⟩; cases ended)
    have rows : r ∈ (q.afterAll others).rows := by
      simpa [FailureQueue.after, FailureQueue.afterAll_asides quiet, reports.afterAll] using present
    exact (reports.announced (mem_undecodableOf.2 ⟨rows, undecodable⟩)).mono fun h member => by
      simp [member]
  | @refilling _ before pass report token found passes reports =>
    refine iff_of_true ?_ ?_
    · have rows : r ∈ (q.afterAll before).rows := by
        simpa [FailureQueue.after, passes.afterAll, reports.afterAll] using present
      have listed : r ∈ found.undecodable := by
        rw [passes.found_eq rfl]
        exact mem_undecodableOf.2 ⟨rows, undecodable⟩
      exact (reports.announced listed).mono fun h member => by simp [member]
    · rintro ⟨-, no_token⟩
      rw [tokensIn_append, tokensIn_cons_token] at no_token
      omega

/-- Whatever has happened before and whatever a call is answered: a row that cannot be read and that
a write of the call removes has been announced in the call before the write, exactly if this is not
the write with which a scheduled call fills the queue. The row may have been in the queue before the
call, or have been appended by others where the call begins or asks for a token; rows that others
append while it waits for the instances, for a page, a write, a submission or a notification are left
out. -/
theorem removed_announced_iff {c : Collaborators} {plan : BillingPlan} {past : Chronicle}
    {call : Call} {failed : Bool} {course since later : List Happening} {write : Happening}
    {r : FailureRecord} (reachable : c.queue.Reachable) (takes : c.Takes plan past failed course call)
    (unspent : (c.queueAt (past ++ course)).Unspent) (here : course = since ++ write :: later)
    (undecodable : ∃ fault, r.usagePayload = .error fault)
    (present : r ∈ (c.queueAt (past ++ since)).rows)
    (removed : r ∉ (c.queueAt (past ++ (since ++ [write]))).rows) :
    Announced plan since r ↔ ¬ FillsQueue call since := by
  have numbered : (c.queueAt past).Numbered := reachable.numbered.afterAll past
  rw [Collaborators.queueAt_append] at present removed
  have written := throughout_iff.1 (takes.calls numbered unspent).writtenAt since write later here
  refine (written (FailureQueue.isWrite_of_removed present ?_)).announced_iff present undecodable
  simpa using removed

/-! ## A scheduled run on a queue with a row that cannot be read -/

namespace PushedAside

def row : FailureRecord := ⟨1, "", "", ⟨0, 0⟩, ⟨0, 0⟩⟩

def plan : BillingPlan := ⟨"", ⟨1, 0⟩, 0, false⟩

def collaborators : Collaborators :=
  .obliging (FailureQueue.push {} "" "" ⟨0, 0⟩) [] ⟨0, 0⟩ (.ok "") fun _ _ => .ok []

def opening : List Happening :=
  [.exchange .takeGuard true, .exchange .activeInstances (.ok []), .exchange .now (some ⟨0, 0⟩),
    .exchange .wallClock (.still ⟨0, 0⟩)]

def closing : List Happening :=
  [.exchange (.observe (.depth 0)) (), .exchange .token (.ok ""),
    .exchange (.page none 1) (.ok ⟨[], none⟩), .exchange .clear (.ok ()),
    .exchange (.observe (.depth 0)) (), .exchange (.observe (.run "succeeded")) (),
    .exchange .releaseGuard ()]

theorem run_takes : collaborators.Takes plan [] false
    (opening ++ .exchange (.seed []) (.ok ()) :: closing) .scheduled := by
  refine ⟨.ok (.ok (.succeeded 1 0)), ?_, rfl⟩
  unfold Collaborators.Does
  cbv

theorem row_removed_unannounced : ¬ Announced plan opening row := by
  have removed := removed_announced_iff (.push .empty "" "" ⟨0, 0⟩) run_takes
    (by decide : (1 : Int) ≤ Int64.maxValue.toInt) rfl (r := row) ⟨_, rfl⟩ (by decide) (by decide)
  exact fun announced => removed.1 announced ⟨rfl, rfl⟩

end PushedAside

end UsageBilling
