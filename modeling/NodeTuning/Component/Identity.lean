import NodeTuning.Component.Error
import NodeTuning.CpuSet.ListText
import NodeTuning.Object.Profile

/-!
What the components of a profile share: names made from the profile's name, the reference to their
owner, and the labels by which their pools and nodes are found.
-/
namespace NodeTuning

def machineConfigName (profile : String) : String := "50-performance-" ++ profile

def componentName (profile : String) : String := "performance-" ++ profile

def tunedName (profile : String) : String := "openshift-node-performance-" ++ profile

/-- The label by which machine configs are given to pools. -/
def roleLabel : String := "machineconfiguration.openshift.io/role"

def roleOfKey? (key : String) : Option String :=
  let stem := rolePrefix.toList
  let role := key.toList.drop stem.length
  if stem.isPrefixOf key.toList && !role.isEmpty then some (String.ofList role) else none

namespace Profile

/-- The reference that makes the profile the owner of a component. Deleting the profile in the
foreground waits for what it owns. -/
def ownerReference (profile : Profile) : Except SynthesisError OwnerReference :=
  match profile.metadata.name, profile.metadata.uid with
  | some name, some uid =>
    .ok {
      apiVersion := Kind.performanceProfile.apiVersion
      kind := Kind.performanceProfile.name
      name
      uid
      controller := some true
      blockOwnerDeletion := some true }
  | _, _ => .error (.missingOwner profile.name)

/-- The role label for the role that the only key of the node selector names. -/
def roleLabels (profile : Profile) : Except SynthesisError Labels :=
  match profile.spec.nodeSelector.keys with
  | [key] =>
    match roleOfKey? key with
    | some role => .ok (SortedMap.empty.insert roleLabel role)
    | none => .error (.role (.foreignKey key))
  | keys => .error (.role (.labelCount keys.length))

/-- The labels of the machine config, by which also the tuned object is recommended. -/
def machineConfigLabels (profile : Profile) : Except SynthesisError Labels :=
  match profile.spec.machineConfigLabel with
  | some labels => .ok labels
  | none => profile.roleLabels

def poolLabels (profile : Profile) : Except SynthesisError Labels :=
  match profile.spec.machineConfigPoolSelector with
  | some labels => .ok labels
  | none => profile.roleLabels

private def readCpus (list : String) : Except SynthesisError CpuSet :=
  (CpuSet.parse list).mapError .cpuList

def cpuSets (profile : Profile) : Except SynthesisError (CpuSet × CpuSet) := do
  let reserved ← readCpus profile.spec.cpu.reserved
  let isolated ← readCpus profile.spec.cpu.isolated
  return (reserved, isolated)

end Profile
end NodeTuning
