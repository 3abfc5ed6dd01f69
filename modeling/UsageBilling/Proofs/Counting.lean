import Mathlib
import UsageBilling.Proofs.Chronicle
import UsageBilling.Proofs.Requests

/-!
# Counts along a chronicle

The metrics are at every point what the observations so far have made of them,
one family of samples apart from the others: a family is what the observations
that belong to it have added, label by label. Below 2⁵³ no addition is rounded, so
that the samples of a family together number its observations. What a program
never asks does not occur in its course.
-/

namespace UsageBilling

/-! ## Samples -/

namespace Tally

/-- All samples of a family together. -/
def total (t : Tally) : Nat :=
  (t.map (·.2)).sum

/-- One more sample under each of these labels. -/
def addAll (t : Tally) (labels : List String) : Tally :=
  labels.foldl (fun t label => t.add label 1) t

end Tally

/-- Numbers of 53 bits are not rounded. -/
theorem Decimal.nearest_of_lt {n : Nat} (small : n < 2 ^ 53) : nearest n = n := by
  have fits : excessBits n = 0 := by
    unfold excessBits
    split
    · rfl
    next positive =>
      have bits := (Nat.log2_lt positive).2 small
      omega
  simp [nearest, fits, Nat.mod_one]

/-- A tally grows by what is added to it, as long as it can be counted exactly. -/
theorem Tally.total_add {t : Tally} (label : String) {n : Nat} (small : t.total + n < 2 ^ 53) :
    (t.add label n).total = t.total + n := by
  have exact : Decimal.nearest n = n := Decimal.nearest_of_lt (by omega)
  induction t with
  | nil => simp [add, total, exact]
  | cons sample t ih =>
    obtain ⟨l, k⟩ := sample
    have parts (k : Nat) : total ((l, k) :: t) = k + total t := by simp [total]
    rw [parts] at small ⊢
    rw [add]
    split
    · rw [exact, Decimal.nearest_of_lt (by omega), parts]
      omega
    · split
      · simp [total, exact]
        omega
      · have rest := ih (by omega)
        simp only [total, List.map_cons, List.sum_cons] at rest ⊢
        omega

/-- A tally grows by one for each label, as long as it can be counted exactly. -/
theorem Tally.total_addAll {t : Tally} {labels : List String}
    (small : t.total + labels.length < 2 ^ 53) : (t.addAll labels).total = t.total + labels.length := by
  induction labels generalizing t with
  | nil => rfl
  | cons label labels ih =>
    rw [List.length_cons] at small ⊢
    have first : (t.add label 1).total = t.total + 1 := total_add label (by omega)
    show ((t.add label 1).addAll labels).total = _
    rw [ih (by omega), first]
    omega

/-! ## Observations -/

/-- What is counted here. -/
def Happening.observation? : Happening → Option Observation
  | .exchange (.observe o) _ => some o
  | _ => none

/-- The counts after some happenings. -/
def Metrics.along (m : Metrics) (course : List Happening) : Metrics :=
  m.observeAll (course.filterMap (·.observation?))

namespace Metrics

variable {m : Metrics} {course : List Happening}

@[simp] theorem along_nil : m.along [] = m := rfl

@[simp] theorem along_append (first second : List Happening) :
    m.along (first ++ second) = (m.along first).along second := by
  simp [along, observeAll]

theorem along_cons_of_none {h : Happening} (uncounted : h.observation? = none) :
    m.along (h :: course) = m.along course := by
  rw [along, List.filterMap_cons_none uncounted]
  rfl

theorem along_cons_of_some {h : Happening} {o : Observation} (counted : h.observation? = some o) :
    m.along (h :: course) = (m.observe o).along course := by
  rw [along, List.filterMap_cons_some counted]
  rfl

/-- A family to which an observation adds a sample under its label, if it has one in this family. -/
def IsFamily (family : Metrics → Tally) (label? : Observation → Option String) : Prop :=
  ∀ m o, family (m.observe o) = (family m).addAll (label? o).toList

/-- A family along a course is what the labels of its observations have added. -/
theorem IsFamily.along {family : Metrics → Tally} {label? : Observation → Option String}
    (adds : IsFamily family label?) (m : Metrics) (course : List Happening) :
    family (m.along course) =
      (family m).addAll (course.filterMap fun h => h.observation?.bind label?) := by
  induction course generalizing m with
  | nil => rfl
  | cons h course ih =>
    cases counted : h.observation? with
    | none => rw [along_cons_of_none counted, ih, List.filterMap_cons_none (by rw [counted]; rfl)]
    | some o =>
      rw [along_cons_of_some counted, ih, adds]
      cases label : label? o with
      | none => rw [List.filterMap_cons_none (by rw [counted]; exact label)]; rfl
      | some l => rw [List.filterMap_cons_some (by rw [counted]; exact label)]; rfl

end Metrics

/-! ## What a program never asks -/

/-- What a program asks in its course has every property that all its questions have. -/
theorem Collaborators.Does.asked_only {c : Collaborators} {α : Type} {p : Action α} {past : Chronicle}
    {result : Except Crash α} {course : List Happening} {P : Request → Prop} {r : Request}
    {answer : r.Answer} (h : c.Does p past result course) (only : p.Only P)
    (member : .exchange r answer ∈ course) : P r := by
  induction p generalizing past course with
  | done a =>
    obtain ⟨-, rfl⟩ := does_done.1 h
    cases member
  | crash reason =>
    obtain ⟨-, rfl⟩ := does_crash.1 h
    cases member
  | ask q next ih =>
    obtain ⟨answered, rest, -, rfl, continued⟩ := h.ask
    rcases List.mem_append.1 member with meanwhile | member
    · obtain ⟨_, _, _, arrived, -⟩ := mem_meanwhile meanwhile
      cases arrived
    rcases List.mem_cons.1 member with here | later
    · obtain ⟨rfl, -⟩ := Happening.exchange.inj here
      exact only.1
    · exact ih answered continued (only.2 answered) later

end UsageBilling
