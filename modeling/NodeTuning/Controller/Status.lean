import NodeTuning.Controller.Conditions
import NodeTuning.Controller.PoolReport
import NodeTuning.Controller.State

/-!
The status of a profile: what its pools say about the roll-out, and writing it when it has changed.
-/
namespace NodeTuning

/-- The pools with at least one of the labels, each once, in the order of their names. -/
def collectPools : List (String × String) → SortedMap MachineConfigPool →
    Cluster.Action (List MachineConfigPool)
  | [], found => return found.values
  | (key, value) :: rest, found => do
    let query := (LabelSelector.ofLabels (SortedMap.empty.insert key value)).query
    let listed ← .ofRead (Cluster.listPools · query)
    collectPools rest (listed.foldl (fun pools pool =>
      pools.insert (Resource.displayName pool) pool) found)

def poolReport (profile : Profile) : Pass (Option Report) := do
  let labels ← Pass.ofSynthesis profile.poolLabels
  let pools ← Pass.onClusterAs .poolStatus (collectPools labels.entries .empty)
  let message := degradedPoolsMessage pools
  return if message.isEmpty then none else some (.degraded "MCPDegraded" message)

inductive References where
  | kept
  | current
  deriving DecidableEq

def nextStatus (settings : Settings) (profile : Profile) (conditions : List Condition)
    (references : References) : ProfileStatus :=
  let old := profile.status.getD {}
  let carried := conditions.map (Condition.carryTransition old.conditions)
  match references with
  | .kept => { old with conditions := carried }
  | .current => {
    conditions := carried
    tuned := some (settings.tunedNamespace ++ "/" ++ tunedName profile.name)
    runtimeClass := some (componentName profile.name) }

def statusUnchanged (old new : ProfileStatus) : Bool :=
  conditionsUnchanged old.conditions new.conditions && old.tuned = new.tuned &&
    old.runtimeClass = new.runtimeClass

/-- Writes the status of a profile, unless nothing but times would change. -/
def writeStatus (settings : Settings) (profile : Profile) (conditions : List Condition)
    (references : References) : Pass Unit :=
  let status := nextStatus settings profile conditions references
  if statusUnchanged (profile.status.getD {}) status then return ()
  else Pass.onCluster (.ofWrite (Cluster.patchStatus · profile.name status))

end NodeTuning
