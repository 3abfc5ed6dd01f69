import Mathlib.Data.List.Nodup
import Mathlib.Data.String.Basic
import UsageBilling.Proofs.Queue.Numbering
import UsageBilling.Reconciliation

/-!
# Billed instances

The store lists its instances in ascending order of their ids, each once. Where
every window can be computed, a scheduled run starts with one record for each
listed instance, in that order.
-/

namespace UsageBilling

open Calendar (Instant Readings)

namespace InstanceStore

/-- Ascending by id, no id twice. -/
def Ordered (rows : List ServiceInstance) : Prop :=
  rows.Pairwise (·.instanceId < ·.instanceId)

theorem mem_place {i j : ServiceInstance} {rows : List ServiceInstance} (member : j ∈ place i rows) :
    j = i ∨ j ∈ rows := by
  induction rows with
  | nil => exact .inl (List.mem_singleton.1 member)
  | cons k rows ih =>
    rw [place] at member
    split at member
    · rcases List.mem_cons.1 member with same | member
      · exact .inl same
      · exact .inr (by simp [member])
    · split at member
      · rcases List.mem_cons.1 member with same | member
        · exact .inl same
        · exact .inr member
      · rcases List.mem_cons.1 member with rfl | member
        · exact .inr (by simp)
        · exact (ih member).imp_right fun member => by simp [member]

/-- An instance is placed where the order of ids has it. -/
theorem Ordered.place {rows : List ServiceInstance} (h : Ordered rows) (i : ServiceInstance) :
    Ordered (place i rows) := by
  induction rows with
  | nil => exact List.pairwise_singleton _ _
  | cons j rows ih =>
    obtain ⟨first, others⟩ := List.pairwise_cons.1 h
    rw [InstanceStore.place]
    split
    next same => exact .cons (fun k member => same ▸ first k member) others
    next other =>
      split
      next before =>
        refine .cons (fun k member => ?_) h
        rcases List.mem_cons.1 member with rfl | member
        · exact before
        · exact before.trans (first k member)
      next after =>
        have later : j.instanceId < i.instanceId := lt_of_le_of_ne (not_lt.1 after) (Ne.symm other)
        refine .cons (fun k member => ?_) (ih others)
        rcases mem_place member with rfl | member
        · exact later
        · exact first k member

/-- Placing an instance with a new id loses none. -/
theorem place_perm {i : ServiceInstance} {rows : List ServiceInstance}
    (new : ∀ j ∈ rows, i.instanceId ≠ j.instanceId) : (place i rows).Perm (i :: rows) := by
  induction rows with
  | nil => exact .refl _
  | cons j rows ih =>
    have others := ih fun k member => new k (by simp [member])
    rw [place, if_neg (new j (by simp))]
    split
    · exact .refl _
    · exact (others.cons j).trans (.swap i j rows)

theorem foldl_insert_ordered (instances : List ServiceInstance) {store : InstanceStore}
    (h : Ordered store.rows) : Ordered (instances.foldl insert store).rows := by
  induction instances generalizing store with
  | nil => exact h
  | cons i instances ih => exact ih (h.place i)

/-- The store lists its instances in ascending order. -/
theorem ofList_ordered (instances : List ServiceInstance) : Ordered (ofList instances).rows :=
  foldl_insert_ordered instances .nil

/-- Instances with ids of their own are all kept. -/
theorem foldl_insert_perm {instances : List ServiceInstance} {store : InstanceStore}
    (distinct : ((instances ++ store.rows).map (·.instanceId)).Nodup) :
    (instances.foldl insert store).rows.Perm (instances ++ store.rows) := by
  induction instances generalizing store with
  | nil => exact .refl _
  | cons i instances ih =>
    rw [List.cons_append, List.map_cons, List.nodup_cons] at distinct
    have placed : (store.insert i).rows.Perm (i :: store.rows) := place_perm fun j member same =>
      distinct.1 (List.mem_map.2 ⟨j, List.mem_append_right _ member, same.symm⟩)
    have shifted : (instances ++ (store.insert i).rows).Perm (i :: (instances ++ store.rows)) :=
      (placed.append_left instances).trans List.perm_middle
    refine (ih ?_).trans shifted
    rw [(shifted.map _).nodup_iff, List.map_cons, List.nodup_cons]
    exact distinct

/-- The store lists exactly the instances it was made of, if their ids are distinct. -/
theorem ofList_perm {instances : List ServiceInstance}
    (distinct : (instances.map (·.instanceId)).Nodup) : (ofList instances).rows.Perm instances := by
  simpa [ofList] using @foldl_insert_perm instances {} (by simpa using distinct)

end InstanceStore

/-! ## Records of a scheduled run -/

/-- Two hours after the creation can be represented. -/
def ServiceInstance.Representable (i : ServiceInstance) : Prop :=
  (i.created.addSeconds? creationBuffer).isSome

instance (i : ServiceInstance) : Decidable i.Representable :=
  inferInstanceAs (Decidable (_ = true))

/-- The failure is the record that a scheduled run starts with for the instance. It is stamped when
it is made, which need not be when the others are. -/
structure Initial (now : Instant) (i : ServiceInstance) (f : UsageFailure) : Prop where
  payload : usagePayload i .scheduled now = .ok f.payload
  message : f.message = Billing.initialFailure
  updated : f.updated = f.created

/-- An instance whose periods are in the calendar has a usage record. -/
theorem usagePayload_of_representable {i : ServiceInstance} (h : i.Representable)
    (ctx : BillingContext) (now : Instant) : ∃ p, usagePayload i ctx now = .ok p := by
  obtain ⟨later, representable⟩ := Option.isSome_iff_exists.1 h
  have window : ∃ start, windowStart i.created ctx now = .ok start := by
    simp only [windowStart, representable]
    split <;> exact ⟨_, rfl⟩
  obtain ⟨start, window⟩ := window
  rw [usagePayload, window]
  exact ⟨_, rfl⟩

/-- The usage record is that of the instance. -/
theorem usagePayload_instanceId {i : ServiceInstance} {ctx : BillingContext} {now : Instant}
    {p : UsagePayload} (h : usagePayload i ctx now = .ok p) : p.instanceId = i.instanceId := by
  unfold usagePayload at h
  cases window : windowStart i.created ctx now with
  | error reason => rw [window] at h; cases h
  | ok start =>
    rw [window] at h
    cases h
    rfl

/-- A record measures one instance, and a dry run none. -/
theorem usagePayload_measured {i : ServiceInstance} {ctx : BillingContext} {now : Instant}
    {p : UsagePayload} (h : usagePayload i ctx now = .ok p) :
    p.measured = [⟨instanceMeasure, if ctx.dryRun then 0 else 1⟩] := by
  unfold usagePayload at h
  cases window : windowStart i.created ctx now with
  | error reason => rw [window] at h; cases h
  | ok start =>
    rw [window] at h
    cases h
    rfl

namespace Billing

/-- Every instance gets its usage record, stamped once. -/
theorem scheduledFailures_initial {now : Instant} {clock : Readings}
    {instances : List ServiceInstance} {failures : List UsageFailure}
    (h : scheduledFailures now clock instances = .ok failures) :
    List.Forall₂ (Initial now) instances failures := by
  induction instances generalizing clock failures with
  | nil =>
    cases h
    exact .nil
  | cons i instances ih =>
    rw [scheduledFailures] at h
    cases billed : usagePayload i .scheduled now with
    | error reason => rw [billed] at h; cases h
    | ok p =>
      cases others : scheduledFailures now clock.later instances with
      | error reason => rw [billed, others] at h; cases h
      | ok rest =>
        rw [billed, others] at h
        cases h
        exact .cons ⟨billed, rfl, rfl⟩ (ih others)

/-- The records of a scheduled run are for its instances, in their order. -/
theorem map_instanceId_of_initial {now : Instant} {instances : List ServiceInstance}
    {failures : List UsageFailure} (h : List.Forall₂ (Initial now) instances failures) :
    (failures.map (·.payload)).map (·.instanceId) = instances.map (·.instanceId) := by
  induction h with
  | nil => rfl
  | cons initial _ ih =>
    rw [List.map_cons, List.map_cons, List.map_cons, ih, usagePayload_instanceId initial.payload]

/-- Distinct instances have distinct records. -/
theorem nodup_of_initial {now : Instant} {instances : List ServiceInstance}
    {failures : List UsageFailure} (h : List.Forall₂ (Initial now) instances failures)
    (distinct : (instances.map (·.instanceId)).Nodup) : (failures.map (·.payload)).Nodup := by
  refine List.Nodup.of_map UsagePayload.instanceId ?_
  rwa [map_instanceId_of_initial h]

/-- The usage record of every instance is among the failures. -/
theorem exists_of_initial {now : Instant} {instances : List ServiceInstance}
    {failures : List UsageFailure} (h : List.Forall₂ (Initial now) instances failures)
    {i : ServiceInstance} (member : i ∈ instances) :
    ∃ f ∈ failures, usagePayload i .scheduled now = .ok f.payload := by
  induction h with
  | nil => cases member
  | @cons j f _ failures initial _ ih =>
    rcases List.mem_cons.1 member with rfl | member
    · exact ⟨f, List.mem_cons_self, initial.payload⟩
    · obtain ⟨g, inside, billed⟩ := ih member
      exact ⟨g, List.mem_cons_of_mem _ inside, billed⟩

/-- If every instance has a usage record, all of them have. -/
theorem scheduledFailures_of_representable {instances : List ServiceInstance}
    (h : ∀ i ∈ instances, i.Representable) (now : Instant) (clock : Readings) :
    ∃ failures, scheduledFailures now clock instances = .ok failures := by
  induction instances generalizing clock with
  | nil => exact ⟨[], rfl⟩
  | cons i instances ih =>
    obtain ⟨p, billed⟩ := usagePayload_of_representable (h i (by simp)) .scheduled now
    obtain ⟨failures, others⟩ := ih (fun j member => h j (by simp [member])) clock.later
    rw [scheduledFailures, billed, others]
    exact ⟨_, rfl⟩

theorem initialFailure_storable : isStorable initialFailure = true := by
  decide +kernel

end Billing

/-- The records of a scheduled run can be stored. -/
theorem storable_of_initial {now : Instant} {instances : List ServiceInstance}
    {failures : List UsageFailure} (h : List.Forall₂ (Initial now) instances failures) :
    FailureQueue.Storable failures := by
  induction h with
  | nil => rintro _ ⟨⟩
  | cons initial _ ih =>
    intro f member
    rcases List.mem_cons.1 member with rfl | member
    · rw [initial.message]
      exact Billing.initialFailure_storable
    · exact ih f member

/-! ## Three instances -/

namespace Trio

/-- Three instances, in another order than that of their ids. -/
def instances : List ServiceInstance :=
  [⟨"i-3", "q", "r", ⟨0, 0⟩⟩, ⟨"i-1", "p", "r", ⟨0, 0⟩⟩, ⟨"i-2", "p", "s", ⟨0, 0⟩⟩]

theorem distinct : (instances.map (·.instanceId)).Nodup := by
  decide

theorem representable : ∀ i ∈ instances, i.Representable := by
  decide

end Trio

end UsageBilling
