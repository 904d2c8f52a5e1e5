import NodeTuning.Component.HugePages
import NodeTuning.Component.Identity

/-!
The check that a profile passes before components are derived from it. The checks run in a fixed
order and the first one that fails decides.
-/
namespace NodeTuning

/-- The maps of a profile that take at most one label. -/
inductive SingleLabel where
  | nodeSelector
  | machineConfigLabel
  | poolSelector
  deriving DecidableEq

inductive ProfileFault where
  | cpuList (field : String) (fault : CpuError)
  | noCpus (field : String)
  | overlap (cpus : CpuSet)
  | manyLabels (place : SingleLabel) (found : Nat)
  | underivable (fault : SynthesisError)
  deriving DecidableEq

namespace SingleLabel

def name : SingleLabel → String
  | .nodeSelector => "node selector"
  | .machineConfigLabel => "machine config label"
  | .poolSelector => "machine config pool selector label"

end SingleLabel

namespace ProfileFault

def message : ProfileFault → String
  | .cpuList field fault => s!"cpu.{field}: " ++ fault.message
  | .noCpus field => s!"cpu.{field} must not be empty"
  | .overlap cpus => "reserved and isolated CPUs overlap: " ++ cpus.listText
  | .manyLabels place found => "you should provide only 1 " ++ place.name ++ s!", found {found}"
  | .underivable fault => fault.message

end ProfileFault

namespace Profile

def checkCpus (field list : String) : Except ProfileFault CpuSet :=
  match CpuSet.parse list with
  | .error fault => .error (.cpuList field fault)
  | .ok set => if set.isEmpty then .error (.noCpus field) else .ok set

def checkSingle (place : SingleLabel) (labels : Labels) : Except ProfileFault Unit :=
  if 1 < labels.size then .error (.manyLabels place labels.size) else .ok ()

def checkDerivable {α : Type} (result : Except SynthesisError α) : Except ProfileFault Unit :=
  match result with
  | .error fault => .error (.underivable fault)
  | .ok _ => .ok ()

/-- All sizes that a profile names for huge pages, the default one first. -/
def hugePageSizes (profile : Profile) : List String :=
  match profile.spec.hugepages with
  | none => []
  | some hugepages => hugepages.defaultSize.toList ++ hugepages.pages.map (·.size)

def validate (profile : Profile) : Except ProfileFault Unit := do
  let reserved ← checkCpus "reserved" profile.spec.cpu.reserved
  let isolated ← checkCpus "isolated" profile.spec.cpu.isolated
  if !reserved.disjoint isolated then throw (.overlap (reserved.inter isolated))
  checkSingle .nodeSelector profile.spec.nodeSelector
  checkSingle .machineConfigLabel (profile.spec.machineConfigLabel.getD .empty)
  checkSingle .poolSelector (profile.spec.machineConfigPoolSelector.getD .empty)
  checkDerivable profile.machineConfigLabels
  checkDerivable profile.poolLabels
  profile.hugePageSizes.forM fun size => checkDerivable (hugePageKb size)

end Profile
end NodeTuning
