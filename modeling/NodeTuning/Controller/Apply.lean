import NodeTuning.Component.Set
import NodeTuning.Controller.Merge
import NodeTuning.Controller.State

/-!
Applying the components of a profile: all four are compared with the cluster first, and then those
that differ are written.
-/
namespace NodeTuning

structure Plan where
  machineConfig : Write MachineConfig
  kubeletConfig : Write KubeletConfig
  tuned : Write Tuned
  runtimeClass : Write RuntimeClass

namespace Plan

def isUnchanged (plan : Plan) : Bool :=
  plan.machineConfig.isUnchanged && plan.kubeletConfig.isUnchanged && plan.tuned.isUnchanged &&
    plan.runtimeClass.isUnchanged

def compare {K : Type} [Component K] (desired : K) : Cluster.Action (Write K) := do
  let existing ← Cluster.Action.find? K (storeKey desired)
  return .plan existing desired

def ofComponents (components : Components) : Cluster.Action Plan := do
  let machineConfig ← compare components.machineConfig
  let kubeletConfig ← compare components.kubeletConfig
  let tuned ← compare components.tuned
  let runtimeClass ← compare components.runtimeClass
  return ⟨machineConfig, kubeletConfig, tuned, runtimeClass⟩

end Plan

def Write.perform {K : Type} [Component K] (write : Write K) : Pass Unit := do
  match write with
  | .create object =>
    let _ ← Pass.onCluster (.ofWrite (Cluster.create · object))
    countWrite
  | .update object =>
    let _ ← Pass.onCluster (.ofWrite (Cluster.update · object))
    countWrite
  | .unchanged => return ()
where
  countWrite : Pass Unit := Pass.change fun controller =>
    { controller with metrics := controller.metrics.countApplied (Resource.kind K).name }

/-- Whether a tuned object belongs to the owner of the uid under another name than the current
one. -/
def isOutdated (uid current : String) (tuned : Tuned) : Bool :=
  (Resource.owners tuned).any (·.uid = uid) && Resource.displayName tuned ≠ current

/-- Deletes the tuned objects of a profile that have names it no longer uses. -/
def sweepTuned (profile : Profile) (inNamespace current : String) : Cluster.Action Unit :=
  match profile.metadata.uid with
  | none => return ()
  | some uid => do
    let listed ← .ofRead (Cluster.listTuned · inNamespace)
    (listed.filter (isOutdated uid current)).forM fun tuned =>
      .ensureDeleted Tuned (keyIn (some inNamespace) (Resource.displayName tuned))

/-- Writes the components of a profile that differ from what the cluster holds, and tells whether
there were any. -/
def applyComponents (settings : Settings) (profile : Profile) : Pass Bool := do
  let components ← Pass.ofSynthesis (profile.components settings.tunedNamespace)
  let plan ← Pass.onCluster (Plan.ofComponents components)
  if plan.isUnchanged then return false
  plan.machineConfig.perform
  Pass.onCluster (sweepTuned profile settings.tunedNamespace (tunedName profile.name))
  plan.tuned.perform
  plan.kubeletConfig.perform
  plan.runtimeClass.perform
  return true

end NodeTuning
