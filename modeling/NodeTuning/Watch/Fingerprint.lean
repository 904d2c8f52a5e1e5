import NodeTuning.Object.Pool

/-!
What matters of a pool to the profiles that select it: its labels, and four of its conditions
without their times. A pool in which nothing of this has changed since it was last seen is no news.
-/
namespace NodeTuning

/-- The pool conditions that matter. -/
def watchedConditions : List String := ["Updated", "Degraded", "NodeDegraded", "RenderDegraded"]

/-- A condition without its type and its times. -/
structure ConditionMark where
  status : String
  reason : Option String
  message : Option String
  deriving DecidableEq

structure Fingerprint where
  labels : Labels
  conditions : List (Option ConditionMark)
  deriving DecidableEq

namespace MachineConfigPool

def conditionMark (pool : MachineConfigPool) (type : String) : Option ConditionMark :=
  (pool.condition? type).map fun condition =>
    ⟨condition.status, condition.reason, condition.message⟩

def fingerprint (pool : MachineConfigPool) : Fingerprint :=
  ⟨Resource.labels pool, watchedConditions.map pool.conditionMark⟩

end MachineConfigPool

abbrev Fingerprints := SortedMap Fingerprint

def Fingerprints.observe (seen : Fingerprints) (pool : MachineConfigPool) : Bool × Fingerprints :=
  let name := Resource.displayName pool
  (seen.find? name ≠ some pool.fingerprint, seen.insert name pool.fingerprint)

end NodeTuning
