import NodeTuning.Component.KubeletConfig
import NodeTuning.Component.MachineConfig
import NodeTuning.Component.RuntimeClass
import NodeTuning.Component.Tuned

/-!
The components of a profile: the four objects that are derived from it. The first fault, in the
order of the fields, is the one that is reported.
-/
namespace NodeTuning

structure Components where
  machineConfig : MachineConfig
  kubeletConfig : KubeletConfig
  tuned : Tuned
  runtimeClass : RuntimeClass
  deriving DecidableEq

/-- Derives the components, with the tuned object in the given namespace. -/
def Profile.components (profile : Profile) (tunedNamespace : String) :
    Except SynthesisError Components := do
  let machineConfig ← profile.machineConfig
  let kubeletConfig ← profile.kubeletConfig
  let tuned ← profile.tuned tunedNamespace
  let runtimeClass ← profile.runtimeClass
  return ⟨machineConfig, kubeletConfig, tuned, runtimeClass⟩

end NodeTuning
