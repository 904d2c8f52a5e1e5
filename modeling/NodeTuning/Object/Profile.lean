import NodeTuning.Object.Metadata

/-!
Performance profiles: what a user asks for a group of nodes, and what the controller reports about
it.
-/
namespace NodeTuning

/-- How the CPUs of a node are divided. Both lists are kept as they were written. -/
structure CpuSplit where
  reserved : String
  isolated : String
  balanceIsolated : Option Bool
  deriving DecidableEq

structure HugePage where
  size : String
  count : UInt32
  node : Option UInt32
  deriving DecidableEq

structure HugePages where
  defaultSize : Option String
  pages : List HugePage
  deriving DecidableEq

structure RealTimeKernel where
  enabled : Option Bool
  deriving DecidableEq

structure NumaSettings where
  topologyPolicy : Option String
  deriving DecidableEq

structure WorkloadHints where
  realTime : Option Bool
  highPowerConsumption : Option Bool
  deriving DecidableEq

structure ProfileSpec where
  cpu : CpuSplit
  hugepages : Option HugePages
  nodeSelector : Labels
  machineConfigLabel : Option Labels
  machineConfigPoolSelector : Option Labels
  realTimeKernel : Option RealTimeKernel
  additionalKernelArgs : List String
  numa : Option NumaSettings
  workloadHints : Option WorkloadHints
  deriving DecidableEq

inductive ConditionType where
  | available
  | upgradeable
  | progressing
  | degraded
  deriving DecidableEq

inductive ConditionStatus where
  | holds
  | fails
  | unknown
  deriving DecidableEq

structure Condition where
  type : ConditionType
  status : ConditionStatus
  reason : Option String
  message : Option String
  lastTransitionTime : Option Timestamp
  lastHeartbeatTime : Option Timestamp
  deriving DecidableEq

structure ProfileStatus where
  conditions : List Condition := []
  /-- The generated tuned object, as `namespace/name`. -/
  tuned : Option String := none
  runtimeClass : Option String := none
  deriving DecidableEq

structure Profile where
  metadata : ObjectMeta
  spec : ProfileSpec
  status : Option ProfileStatus
  deriving DecidableEq

instance : JsonCodec CpuSplit where
  encode cpu := .record [
    field "reserved" cpu.reserved,
    field "isolated" cpu.isolated,
    optionalField "balanceIsolated" cpu.balanceIsolated]
  decode? json := do
    let fields ← json.record? ["reserved", "isolated", "balanceIsolated"]
    let reserved ← fields.required "reserved"
    let isolated ← fields.required "isolated"
    let balanceIsolated ← fields.optional "balanceIsolated"
    return ⟨reserved, isolated, balanceIsolated⟩

instance : JsonCodec HugePage where
  encode page := .record [
    field "size" page.size,
    field "count" page.count,
    optionalField "node" page.node]
  decode? json := do
    let fields ← json.record? ["size", "count", "node"]
    let size ← fields.required "size"
    let count ← fields.required "count"
    let node ← fields.optional "node"
    return ⟨size, count, node⟩

instance : JsonCodec HugePages where
  encode hugepages := .record [
    optionalField "defaultHugepagesSize" hugepages.defaultSize,
    field "pages" hugepages.pages]
  decode? json := do
    let fields ← json.record? ["defaultHugepagesSize", "pages"]
    let defaultSize ← fields.optional "defaultHugepagesSize"
    let pages ← fields.withDefault "pages" []
    return ⟨defaultSize, pages⟩

instance : JsonCodec RealTimeKernel where
  encode kernel := .record [optionalField "enabled" kernel.enabled]
  decode? json := do
    let fields ← json.record? ["enabled"]
    let enabled ← fields.optional "enabled"
    return ⟨enabled⟩

instance : JsonCodec NumaSettings where
  encode numa := .record [optionalField "topologyPolicy" numa.topologyPolicy]
  decode? json := do
    let fields ← json.record? ["topologyPolicy"]
    let topologyPolicy ← fields.optional "topologyPolicy"
    return ⟨topologyPolicy⟩

instance : JsonCodec WorkloadHints where
  encode hints := .record [
    optionalField "realTime" hints.realTime,
    optionalField "highPowerConsumption" hints.highPowerConsumption]
  decode? json := do
    let fields ← json.record? ["realTime", "highPowerConsumption"]
    let realTime ← fields.optional "realTime"
    let highPowerConsumption ← fields.optional "highPowerConsumption"
    return ⟨realTime, highPowerConsumption⟩

instance : JsonCodec ProfileSpec where
  encode spec := .record [
    field "cpu" spec.cpu,
    optionalField "hugepages" spec.hugepages,
    field "nodeSelector" spec.nodeSelector,
    optionalField "machineConfigLabel" spec.machineConfigLabel,
    optionalField "machineConfigPoolSelector" spec.machineConfigPoolSelector,
    optionalField "realTimeKernel" spec.realTimeKernel,
    listField "additionalKernelArgs" spec.additionalKernelArgs,
    optionalField "numa" spec.numa,
    optionalField "workloadHints" spec.workloadHints]
  decode? json := do
    let fields ← json.record? ["cpu", "hugepages", "nodeSelector", "machineConfigLabel",
      "machineConfigPoolSelector", "realTimeKernel", "additionalKernelArgs", "numa",
      "workloadHints"]
    let cpu ← fields.required "cpu"
    let hugepages ← fields.optional "hugepages"
    let nodeSelector ← fields.withDefault "nodeSelector" .empty
    let machineConfigLabel ← fields.optional "machineConfigLabel"
    let machineConfigPoolSelector ← fields.optional "machineConfigPoolSelector"
    let realTimeKernel ← fields.optional "realTimeKernel"
    let additionalKernelArgs ← fields.withDefault "additionalKernelArgs" []
    let numa ← fields.optional "numa"
    let workloadHints ← fields.optional "workloadHints"
    return ⟨cpu, hugepages, nodeSelector, machineConfigLabel, machineConfigPoolSelector,
      realTimeKernel, additionalKernelArgs, numa, workloadHints⟩

namespace ConditionType

def name : ConditionType → String
  | .available => "Available"
  | .upgradeable => "Upgradeable"
  | .progressing => "Progressing"
  | .degraded => "Degraded"

def ofName? : String → Option ConditionType
  | "Available" => some .available
  | "Upgradeable" => some .upgradeable
  | "Progressing" => some .progressing
  | "Degraded" => some .degraded
  | _ => none

instance : JsonCodec ConditionType where
  encode type := .str type.name
  decode? json := json.caseName?.bind ofName?

end ConditionType

namespace ConditionStatus

def name : ConditionStatus → String
  | .holds => "True"
  | .fails => "False"
  | .unknown => "Unknown"

def ofName? : String → Option ConditionStatus
  | "True" => some .holds
  | "False" => some .fails
  | "Unknown" => some .unknown
  | _ => none

instance : JsonCodec ConditionStatus where
  encode status := .str status.name
  decode? json := json.caseName?.bind ofName?

end ConditionStatus

instance : JsonCodec Condition where
  encode condition := .record [
    field "type" condition.type,
    field "status" condition.status,
    optionalField "reason" condition.reason,
    optionalField "message" condition.message,
    optionalField "lastTransitionTime" condition.lastTransitionTime,
    optionalField "lastHeartbeatTime" condition.lastHeartbeatTime]
  decode? json := do
    let fields ← json.record? ["type", "status", "reason", "message", "lastTransitionTime",
      "lastHeartbeatTime"]
    let type ← fields.required "type"
    let status ← fields.required "status"
    let reason ← fields.optional "reason"
    let message ← fields.optional "message"
    let lastTransitionTime ← fields.optional "lastTransitionTime"
    let lastHeartbeatTime ← fields.optional "lastHeartbeatTime"
    return ⟨type, status, reason, message, lastTransitionTime, lastHeartbeatTime⟩

instance : JsonCodec ProfileStatus where
  encode status := .record [
    listField "conditions" status.conditions,
    optionalField "tuned" status.tuned,
    optionalField "runtimeClass" status.runtimeClass]
  decode? json := do
    let fields ← json.record? ["conditions", "tuned", "runtimeClass"]
    let conditions ← fields.withDefault "conditions" []
    let tuned ← fields.optional "tuned"
    let runtimeClass ← fields.optional "runtimeClass"
    return ⟨conditions, tuned, runtimeClass⟩

instance : Resource Profile where
  encode object := manifest .performanceProfile object.metadata
    [field "spec" object.spec, optionalField "status" object.status]
  decode? json := do
    let fields ← json.fullRecord? ["metadata", "spec", "status"]
    let metadata ← fields.required "metadata"
    let spec ← fields.required "spec"
    let status ← fields.optional "status"
    return ⟨metadata, spec, status⟩
  kind := .performanceProfile
  metadata := Profile.metadata
  withMetadata object metadata := { object with metadata }

namespace Profile

def name (profile : Profile) : String := Resource.displayName profile

/-- Only an explicit `false` takes the isolated CPUs out of load balancing. -/
def balanceIsolated (profile : Profile) : Bool := profile.spec.cpu.balanceIsolated.getD true

/-- Only an explicit `false` keeps the default kernel. -/
def realTimeKernelEnabled (profile : Profile) : Bool :=
  (profile.spec.realTimeKernel.bind (·.enabled)).getD true

/-- Whether the profile is being deleted and no finalizer holds it. -/
def isReleased (profile : Profile) : Bool :=
  profile.metadata.deletionTimestamp.isSome && (Resource.finalizers profile).isEmpty

def conditions (profile : Profile) : List Condition :=
  (profile.status.map (·.conditions)).getD []

end Profile
end NodeTuning
