import NodeTuning.Component.Identity
import NodeTuning.Object.RuntimeClass

/-!
The runtime class of a profile, for pods on the nodes of the profile.
-/
namespace NodeTuning

def runtimeHandler : String := "high-performance"

def Profile.runtimeClass (profile : Profile) : Except SynthesisError RuntimeClass := do
  let owner ← profile.ownerReference
  return {
    metadata := {
      name := some (componentName profile.name)
      ownerReferences := some [owner] }
    handler := runtimeHandler
    scheduling := some ⟨some profile.spec.nodeSelector, none⟩
    overhead := none }

end NodeTuning
