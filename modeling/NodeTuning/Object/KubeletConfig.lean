import NodeTuning.Object.Metadata
import NodeTuning.Object.Selector

/-!
Kubelet configs: CPU manager and topology manager settings for the nodes of some pools.
-/
namespace NodeTuning

structure KubeletSettings where
  apiVersion : String
  kind : String
  cpuManagerPolicy : Option String
  cpuManagerReconcilePeriod : Option String
  topologyManagerPolicy : Option String
  kubeReserved : Labels
  systemReserved : Labels
  reservedSystemCpus : Option String
  deriving DecidableEq

structure KubeletConfigSpec where
  poolSelector : Option LabelSelector
  kubeletConfig : Option KubeletSettings
  deriving DecidableEq

structure KubeletConfig where
  metadata : ObjectMeta
  spec : KubeletConfigSpec
  deriving DecidableEq

instance : JsonCodec KubeletSettings where
  encode settings := .record [
    field "apiVersion" settings.apiVersion,
    field "kind" settings.kind,
    optionalField "cpuManagerPolicy" settings.cpuManagerPolicy,
    optionalField "cpuManagerReconcilePeriod" settings.cpuManagerReconcilePeriod,
    optionalField "topologyManagerPolicy" settings.topologyManagerPolicy,
    labelsField "kubeReserved" settings.kubeReserved,
    labelsField "systemReserved" settings.systemReserved,
    optionalField "reservedSystemCPUs" settings.reservedSystemCpus]
  decode? json := do
    let fields ← json.record? ["apiVersion", "kind", "cpuManagerPolicy",
      "cpuManagerReconcilePeriod", "topologyManagerPolicy", "kubeReserved", "systemReserved",
      "reservedSystemCPUs"]
    let apiVersion ← fields.required "apiVersion"
    let kind ← fields.required "kind"
    let cpuManagerPolicy ← fields.optional "cpuManagerPolicy"
    let cpuManagerReconcilePeriod ← fields.optional "cpuManagerReconcilePeriod"
    let topologyManagerPolicy ← fields.optional "topologyManagerPolicy"
    let kubeReserved ← fields.withDefault "kubeReserved" .empty
    let systemReserved ← fields.withDefault "systemReserved" .empty
    let reservedSystemCpus ← fields.optional "reservedSystemCPUs"
    return ⟨apiVersion, kind, cpuManagerPolicy, cpuManagerReconcilePeriod, topologyManagerPolicy,
      kubeReserved, systemReserved, reservedSystemCpus⟩

instance : JsonCodec KubeletConfigSpec where
  encode spec := .record [
    optionalField "machineConfigPoolSelector" spec.poolSelector,
    optionalField "kubeletConfig" spec.kubeletConfig]
  decode? json := do
    let fields ← json.record? ["machineConfigPoolSelector", "kubeletConfig"]
    let poolSelector ← fields.optional "machineConfigPoolSelector"
    let kubeletConfig ← fields.optional "kubeletConfig"
    return ⟨poolSelector, kubeletConfig⟩

instance : Resource KubeletConfig where
  encode object := manifest .kubeletConfig object.metadata [field "spec" object.spec]
  decode? json := do
    let fields ← json.record? ["metadata", "spec"]
    let metadata ← fields.required "metadata"
    let spec ← fields.required "spec"
    return ⟨metadata, spec⟩
  kind := .kubeletConfig
  metadata := KubeletConfig.metadata
  withMetadata object metadata := { object with metadata }

end NodeTuning
