import NodeTuning.Component.HugePages
import NodeTuning.Component.Identity
import NodeTuning.Component.TunedText
import NodeTuning.Object.Tuned

/-!
The tuned object of a profile: one daemon profile and the rule that gives it to the nodes with the
labels of the machine config.
-/
namespace NodeTuning

/-- Priority of the rule. Lower ones win. -/
def recommendationPriority : UInt64 := 20

namespace Profile

/-- The arguments on huge pages without that on the default size, which is given on its own. -/
def hugePagePairs (profile : Profile) : Except SynthesisError String := do
  let arguments ← profile.hugePageArguments
  return Text.join " " (arguments.filter fun argument =>
    !"default_hugepagesz=".toList.isPrefixOf argument.toList)

def tunedOptions (profile : Profile) : Except SynthesisError TunedOptions := do
  let (_, isolated) ← profile.cpuSets
  let pairs ← profile.hugePagePairs
  return {
    isolated := isolated.listText
    staticIsolation := !profile.balanceIsolated
    defaultHugePageSize := profile.spec.hugepages.bind (·.defaultSize)
    hugePageArguments := pairs
    additionalArguments := Text.join " " profile.spec.additionalKernelArgs
    realTime := (profile.spec.workloadHints.bind (·.realTime)).getD false
    highPower := (profile.spec.workloadHints.bind (·.highPowerConsumption)).getD false }

def tuned (profile : Profile) (inNamespace : String) : Except SynthesisError Tuned := do
  let name := tunedName profile.name
  let options ← profile.tunedOptions
  let labels ← profile.machineConfigLabels
  let owner ← profile.ownerReference
  return {
    metadata := {
      name := some name
      inNamespace := some inNamespace
      ownerReferences := some [owner] }
    spec := ⟨[⟨name, options.text⟩], [⟨name, recommendationPriority, labels⟩]⟩ }

end Profile
end NodeTuning
