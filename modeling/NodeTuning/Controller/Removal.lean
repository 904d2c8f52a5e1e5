import NodeTuning.Cluster.Action
import NodeTuning.Component.Identity

/-!
Removing the components of a profile.
-/
namespace NodeTuning

def tunedKey (tunedNamespace profile : String) : String :=
  keyIn (some tunedNamespace) (tunedName profile)

def deleteComponents (tunedNamespace profile : String) : Cluster.Action Unit := do
  .ensureDeleted Tuned (tunedKey tunedNamespace profile)
  .ensureDeleted KubeletConfig (componentName profile)
  .ensureDeleted RuntimeClass (componentName profile)
  .ensureDeleted MachineConfig (machineConfigName profile)

def isStored (K : Type) [Stored K] (key : String) : Cluster.Action Bool :=
  (·.isSome) <$> Cluster.Action.find? K key

/-- Whether some component of a profile is there. The first one found ends the search. -/
def componentsExist (tunedNamespace profile : String) : Cluster.Action Bool := do
  if ← isStored Tuned (tunedKey tunedNamespace profile) then return true
  if ← isStored KubeletConfig (componentName profile) then return true
  if ← isStored RuntimeClass (componentName profile) then return true
  isStored MachineConfig (machineConfigName profile)

end NodeTuning
