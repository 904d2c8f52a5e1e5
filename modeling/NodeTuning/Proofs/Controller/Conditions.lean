import NodeTuning.Controller.Status
import Mathlib.Data.List.Nodup
import Mathlib.Data.List.Perm.Subperm

/-!
Conditions without their times. A list of conditions counts as unchanged if each new one is among
the old ones but for times. Main statements: this always holds of a list and its own copy, and for
new conditions of different types it holds only if the lists are the same but for times and order.
-/
namespace NodeTuning

namespace Condition

def timeless (condition : Condition) : Condition :=
  { condition with lastTransitionTime := none, lastHeartbeatTime := none }

theorem sameButTimes_iff {first second : Condition} :
    first.sameButTimes second = true ↔ first.timeless = second.timeless := by
  simp [sameButTimes, timeless, and_assoc]

@[simp] theorem timeless_carryTransition (old : List Condition) (condition : Condition) :
    (condition.carryTransition old).timeless = condition.timeless := by
  unfold carryTransition
  dsimp only
  split <;> rfl

@[simp] theorem type_carryTransition (old : List Condition) (condition : Condition) :
    (condition.carryTransition old).type = condition.type :=
  (congrArg Condition.type (timeless_carryTransition old condition) :)

@[simp] theorem status_carryTransition (old : List Condition) (condition : Condition) :
    (condition.carryTransition old).status = condition.status :=
  (congrArg Condition.status (timeless_carryTransition old condition) :)

@[simp] theorem lastHeartbeatTime_carryTransition (old : List Condition) (condition : Condition) :
    (condition.carryTransition old).lastHeartbeatTime = condition.lastHeartbeatTime := by
  unfold carryTransition
  dsimp only
  split <;> rfl

/-- A condition takes its transition time from an old one of its type and status, if there is one
and it has such a time. -/
theorem carryTransition_cases (old : List Condition) (condition : Condition) :
    (∃ other ∈ old, (other.type = condition.type ∧ other.status = condition.status) ∧
      (condition.carryTransition old).lastTransitionTime =
        other.lastTransitionTime.or condition.lastTransitionTime) ∨
    ((∀ other ∈ old, ¬ (other.type = condition.type ∧ other.status = condition.status)) ∧
      condition.carryTransition old = condition) := by
  unfold carryTransition
  cases found : old.find? fun other =>
      other.type = condition.type && other.status = condition.status with
  | none => exact .inr ⟨by simpa using List.find?_eq_none.1 found, rfl⟩
  | some other =>
    refine .inl ⟨other, List.mem_of_find?_eq_some found, by simpa using List.find?_some found, ?_⟩
    cases known : other.lastTransitionTime <;> simp [known]

end Condition

namespace Report

theorem types_conditions (report : Report) (now : Timestamp) :
    (report.conditions now).map Condition.type =
      [.available, .upgradeable, .progressing, .degraded] := by
  cases report <;> rfl

theorem nodup_types (report : Report) (now : Timestamp) :
    ((report.conditions now).map Condition.type).Nodup := by
  rw [report.types_conditions now]
  decide

theorem times_of_mem {report : Report} {now : Timestamp} {condition : Condition}
    (member : condition ∈ report.conditions now) :
    condition.lastTransitionTime = some now ∧ condition.lastHeartbeatTime = some now := by
  have all : ∀ other ∈ report.conditions now,
      other.lastTransitionTime = some now ∧ other.lastHeartbeatTime = some now := by
    cases report <;> simp [conditions, plain, explained]
  exact all condition member

end Report

def timeless (conditions : List Condition) : List Condition := conditions.map Condition.timeless

theorem timeless_carried (old conditions : List Condition) :
    timeless (conditions.map (Condition.carryTransition old)) = timeless conditions := by
  simp [timeless, Function.comp_def]

theorem timeless_nextStatus (settings : Settings) (profile : Profile) (conditions : List Condition)
    (references : References) :
    timeless (nextStatus settings profile conditions references).conditions =
      timeless conditions := by
  cases references <;> exact timeless_carried _ _

theorem conditionsUnchanged_iff {old new : List Condition} :
    conditionsUnchanged old new = true ↔
      (timeless old).length = (timeless new).length ∧ timeless new ⊆ timeless old := by
  simp only [conditionsUnchanged, Bool.and_eq_true, decide_eq_true_eq, List.all_eq_true,
    List.any_eq_true, Condition.sameButTimes_iff, timeless, List.length_map]
  refine and_congr_right fun _ => ⟨fun among => ?_, fun among => ?_⟩
  · intro other member
    obtain ⟨condition, isNew, rfl⟩ := List.mem_map.1 member
    obtain ⟨before, isOld, same⟩ := among condition isNew
    exact List.mem_map.2 ⟨before, isOld, same.symm⟩
  · intro condition isNew
    obtain ⟨before, isOld, same⟩ := List.mem_map.1 (among (List.mem_map_of_mem isNew))
    exact ⟨before, isOld, same.symm⟩

theorem conditionsUnchanged_of_timeless_eq {old new : List Condition}
    (same : timeless old = timeless new) : conditionsUnchanged old new = true := by
  rw [conditionsUnchanged_iff, same]
  exact ⟨rfl, List.Subset.refl _⟩

theorem conditionsUnchanged_carried (conditions : List Condition) : conditionsUnchanged conditions
    (conditions.map (Condition.carryTransition conditions)) = true :=
  conditionsUnchanged_of_timeless_eq (timeless_carried conditions conditions).symm

theorem nodup_timeless {conditions : List Condition}
    (distinct : (conditions.map Condition.type).Nodup) : (timeless conditions).Nodup := by
  apply List.Nodup.of_map Condition.type
  rwa [timeless, List.map_map]

/-- New conditions that differ without their times are the old ones, but for order. -/
theorem perm_of_conditionsUnchanged {old new : List Condition}
    (distinct : (timeless new).Nodup) (unchanged : conditionsUnchanged old new = true) :
    (timeless old).Perm (timeless new) := by
  obtain ⟨length, among⟩ := conditionsUnchanged_iff.1 unchanged
  exact ((List.subperm_of_subset distinct among).perm_of_length_le (Nat.le_of_eq length)).symm

/-- What is to be written leaves the conditions unchanged exactly if the old ones are the new ones,
but for order and times. -/
theorem conditionsUnchanged_nextStatus_iff {settings : Settings} {profile : Profile}
    {old conditions : List Condition} {references : References}
    (distinct : (timeless conditions).Nodup) : conditionsUnchanged old
        (nextStatus settings profile conditions references).conditions = true ↔
      (timeless old).Perm (timeless conditions) := by
  have same := timeless_nextStatus settings profile conditions references
  constructor
  · intro unchanged
    have perm := perm_of_conditionsUnchanged (same.symm ▸ distinct) unchanged
    rwa [same] at perm
  · intro perm
    rw [conditionsUnchanged_iff, same]
    exact ⟨perm.length_eq, perm.symm.subset⟩

end NodeTuning
