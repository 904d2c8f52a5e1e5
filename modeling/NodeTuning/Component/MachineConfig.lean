import NodeTuning.Component.BootUnits
import NodeTuning.Component.HugePages
import NodeTuning.Component.Identity
import NodeTuning.CpuSet.Mask
import NodeTuning.Text.Base64

/-!
The machine config of a profile: the kernel's command line, and what nodes write at boot.
-/
namespace NodeTuning

def dataUrl (text : String) : String :=
  "data:text/plain;charset=utf-8;base64," ++
    String.ofList (Text.Base64.encode (Text.Base64.bytes text))

def baseKernelArguments : List String := [
  "nmi_watchdog=0", "audit=0", "mce=off", "processor.max_cstate=1", "idle=poll",
  "intel_idle.max_cstate=0", "intel_iommu=on", "iommu=pt"]

def bootConfigVersion : String := "3.2.0"

def rootFile (path : String) (mode : UInt32) (text : String) : NodeFile :=
  ⟨path, some true, some mode, some "root", dataUrl text⟩

/-- The three files for a list of reserved CPUs. Scripts are for their owner alone to run. -/
def bootFiles (reserved : String) : List NodeFile := [
  rootFile BootFiles.tuningPath 448 BootFiles.tuningScript,
  rootFile BootFiles.allocationPath 448 BootFiles.allocationScript,
  rootFile BootFiles.runtimesPath 420 (BootFiles.runtimes reserved)]

/-- The unit for pages of one node, if they are for one. -/
def HugePage.unit? (page : HugePage) : Except SynthesisError (Option SystemdUnit) :=
  match page.node with
  | none => .ok none
  | some node => do
    let kb ← hugePageKb page.size
    return some (BootUnits.allocation kb page.count node)

namespace Profile

/-- The argument that keeps work off the isolated CPUs. Balanced CPUs are only kept free of managed
interrupts. -/
def isolationArgument (profile : Profile) (isolated : CpuSet) : String :=
  if profile.balanceIsolated then "isolcpus=managed_irq"
  else "isolcpus=domain,managed_irq," ++ isolated.listText

def kernelArguments (profile : Profile) : Except SynthesisError (List String) := do
  let (reserved, isolated) ← profile.cpuSets
  let hugePages ← profile.hugePageArguments
  return baseKernelArguments ++
    [profile.isolationArgument isolated, "systemd.cpu_affinity=" ++ reserved.listText] ++ hugePages

def kernelType (profile : Profile) : String :=
  if profile.realTimeKernelEnabled then "realtime" else "default"

def allocationUnits (profile : Profile) : Except SynthesisError (List SystemdUnit) :=
  match profile.spec.hugepages with
  | none => .ok []
  | some hugepages => do
    let units ← hugepages.pages.mapM HugePage.unit?
    return units.filterMap id

def bootConfig (profile : Profile) : Except SynthesisError BootConfig := do
  let (reserved, _) ← profile.cpuSets
  let allocations ← profile.allocationUnits
  let tuning := BootUnits.tuning reserved.listText reserved.invertedMaskList
  return ⟨bootConfigVersion, some (bootFiles reserved.listText), some (tuning :: allocations)⟩

def machineConfig (profile : Profile) : Except SynthesisError MachineConfig := do
  let config ← profile.bootConfig
  let kernelArguments ← profile.kernelArguments
  let labels ← profile.machineConfigLabels
  let owner ← profile.ownerReference
  return {
    metadata := {
      name := some (machineConfigName profile.name)
      labels := some labels
      ownerReferences := some [owner] }
    spec := ⟨config, kernelArguments, some profile.kernelType⟩ }

end Profile
end NodeTuning
