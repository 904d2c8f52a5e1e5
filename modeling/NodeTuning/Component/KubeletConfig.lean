import NodeTuning.Component.Identity
import NodeTuning.Object.KubeletConfig

/-!
The kubelet config of a profile. The reserved CPUs stand in it as the profile spells them.
-/
namespace NodeTuning

/-- What is kept back on every node, once for the kubelet and once for the system. -/
def reservedResources : Labels := .ofList [("cpu", "1000m"), ("memory", "500Mi")]

namespace Profile

def topologyPolicy (profile : Profile) : String :=
  (profile.spec.numa.bind (·.topologyPolicy)).getD "best-effort"

def kubeletSettings (profile : Profile) : KubeletSettings where
  apiVersion := "kubelet.config.k8s.io/v1beta1"
  kind := "KubeletConfiguration"
  cpuManagerPolicy := some "static"
  cpuManagerReconcilePeriod := some "5s"
  topologyManagerPolicy := some profile.topologyPolicy
  kubeReserved := reservedResources
  systemReserved := reservedResources
  reservedSystemCpus := some profile.spec.cpu.reserved

def kubeletConfig (profile : Profile) : Except SynthesisError KubeletConfig := do
  let labels ← profile.poolLabels
  let owner ← profile.ownerReference
  return {
    metadata := {
      name := some (componentName profile.name)
      ownerReferences := some [owner] }
    spec := ⟨some (.ofLabels labels), some profile.kubeletSettings⟩ }

end Profile
end NodeTuning
