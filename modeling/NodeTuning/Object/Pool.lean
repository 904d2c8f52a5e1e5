import NodeTuning.Object.Metadata
import NodeTuning.Object.Selector

/-!
Machine config pools: groups of nodes and how far their roll-out has come. The controller only reads
them.
-/
namespace NodeTuning

structure PoolCondition where
  type : String
  status : String
  reason : Option String
  message : Option String
  lastTransitionTime : Option Timestamp
  deriving DecidableEq

structure PoolSpec where
  machineConfigSelector : Option LabelSelector
  nodeSelector : Option LabelSelector
  paused : Bool
  deriving DecidableEq

structure PoolStatus where
  conditions : List PoolCondition
  machineCount : Int32
  updatedMachineCount : Int32
  readyMachineCount : Int32
  degradedMachineCount : Int32
  deriving DecidableEq

structure MachineConfigPool where
  metadata : ObjectMeta
  spec : PoolSpec
  status : Option PoolStatus
  deriving DecidableEq

instance : JsonCodec PoolCondition where
  encode condition := .record [
    field "type" condition.type,
    field "status" condition.status,
    optionalField "reason" condition.reason,
    optionalField "message" condition.message,
    optionalField "lastTransitionTime" condition.lastTransitionTime]
  decode? json := do
    let fields ← json.record? ["type", "status", "reason", "message", "lastTransitionTime"]
    let type ← fields.required "type"
    let status ← fields.required "status"
    let reason ← fields.optional "reason"
    let message ← fields.optional "message"
    let lastTransitionTime ← fields.optional "lastTransitionTime"
    return ⟨type, status, reason, message, lastTransitionTime⟩

instance : JsonCodec PoolSpec where
  encode spec := .record [
    optionalField "machineConfigSelector" spec.machineConfigSelector,
    optionalField "nodeSelector" spec.nodeSelector,
    field "paused" spec.paused]
  decode? json := do
    let fields ← json.record? ["machineConfigSelector", "nodeSelector", "paused"]
    let machineConfigSelector ← fields.optional "machineConfigSelector"
    let nodeSelector ← fields.optional "nodeSelector"
    let paused ← fields.withDefault "paused" false
    return ⟨machineConfigSelector, nodeSelector, paused⟩

instance : JsonCodec PoolStatus where
  encode status := .record [
    listField "conditions" status.conditions,
    field "machineCount" status.machineCount,
    field "updatedMachineCount" status.updatedMachineCount,
    field "readyMachineCount" status.readyMachineCount,
    field "degradedMachineCount" status.degradedMachineCount]
  decode? json := do
    let fields ← json.record? ["conditions", "machineCount", "updatedMachineCount",
      "readyMachineCount", "degradedMachineCount"]
    let conditions ← fields.withDefault "conditions" []
    let machineCount ← fields.withDefault "machineCount" 0
    let updatedMachineCount ← fields.withDefault "updatedMachineCount" 0
    let readyMachineCount ← fields.withDefault "readyMachineCount" 0
    let degradedMachineCount ← fields.withDefault "degradedMachineCount" 0
    return ⟨conditions, machineCount, updatedMachineCount, readyMachineCount,
      degradedMachineCount⟩

instance : Resource MachineConfigPool where
  encode object := manifest .machineConfigPool object.metadata
    [field "spec" object.spec, optionalField "status" object.status]
  decode? json := do
    let fields ← json.fullRecord? ["metadata", "spec", "status"]
    let metadata ← fields.required "metadata"
    let spec ← fields.required "spec"
    let status ← fields.optional "status"
    return ⟨metadata, spec, status⟩
  kind := .machineConfigPool
  metadata := MachineConfigPool.metadata
  withMetadata object metadata := { object with metadata }

namespace MachineConfigPool

def condition? (pool : MachineConfigPool) (type : String) : Option PoolCondition :=
  pool.status.bind fun status => status.conditions.find? fun condition => condition.type = type

end MachineConfigPool
end NodeTuning
