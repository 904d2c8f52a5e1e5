import NodeTuning.Object.Metadata

/-!
Machine configs: kernel type and arguments, and the files and units that a node writes at boot.
-/
namespace NodeTuning

structure SystemdUnit where
  name : String
  enabled : Option Bool
  contents : Option String
  deriving DecidableEq

structure NodeFile where
  path : String
  overwrite : Option Bool
  mode : Option UInt32
  user : Option String
  source : String
  deriving DecidableEq

structure BootConfig where
  version : String
  files : Option (List NodeFile)
  units : Option (List SystemdUnit)
  deriving DecidableEq

structure MachineConfigSpec where
  config : BootConfig
  kernelArguments : List String
  kernelType : Option String
  deriving DecidableEq

structure MachineConfig where
  metadata : ObjectMeta
  spec : MachineConfigSpec
  deriving DecidableEq

instance : JsonCodec SystemdUnit where
  encode unit := .record [
    field "name" unit.name,
    optionalField "enabled" unit.enabled,
    optionalField "contents" unit.contents]
  decode? json := do
    let fields ← json.record? ["name", "enabled", "contents"]
    let name ← fields.required "name"
    let enabled ← fields.optional "enabled"
    let contents ← fields.optional "contents"
    return ⟨name, enabled, contents⟩

/-- An object with a single field. -/
structure Wrapped (name : String) (α : Type) where
  value : α
  deriving DecidableEq

instance {name : String} {α : Type} [JsonCodec α] : JsonCodec (Wrapped name α) where
  encode wrapped := .record [field name wrapped.value]
  decode? json := do
    let fields ← json.record? [name]
    let value ← fields.required name
    return ⟨value⟩

/-- An object with a single list, which is empty when missing. -/
structure WrappedList (name : String) (α : Type) where
  values : List α
  deriving DecidableEq

instance {name : String} {α : Type} [JsonCodec α] : JsonCodec (WrappedList name α) where
  encode wrapped := .record [field name wrapped.values]
  decode? json := do
    let fields ← json.record? [name]
    let values ← fields.withDefault name []
    return ⟨values⟩

instance : JsonCodec NodeFile where
  encode file := .record [
    field "path" file.path,
    optionalField "overwrite" file.overwrite,
    optionalField "mode" file.mode,
    optionalField "user" (file.user.map fun name => (⟨name⟩ : Wrapped "name" String)),
    field "contents" (⟨file.source⟩ : Wrapped "source" String)]
  decode? json := do
    let fields ← json.record? ["path", "overwrite", "mode", "user", "contents"]
    let path ← fields.required "path"
    let overwrite ← fields.optional "overwrite"
    let mode ← fields.optional "mode"
    let user : Option (Wrapped "name" String) ← fields.optional "user"
    let contents : Wrapped "source" String ← fields.required "contents"
    return ⟨path, overwrite, mode, user.map (·.value), contents.value⟩

instance : JsonCodec BootConfig where
  encode config := .record [
    field "ignition" (⟨config.version⟩ : Wrapped "version" String),
    optionalField "storage"
      (config.files.map fun files => (⟨files⟩ : WrappedList "files" NodeFile)),
    optionalField "systemd"
      (config.units.map fun units => (⟨units⟩ : WrappedList "units" SystemdUnit))]
  decode? json := do
    let fields ← json.record? ["ignition", "storage", "systemd"]
    let ignition : Wrapped "version" String ← fields.required "ignition"
    let storage : Option (WrappedList "files" NodeFile) ← fields.optional "storage"
    let systemd : Option (WrappedList "units" SystemdUnit) ← fields.optional "systemd"
    return ⟨ignition.value, storage.map (·.values), systemd.map (·.values)⟩

instance : JsonCodec MachineConfigSpec where
  encode spec := .record [
    field "config" spec.config,
    listField "kernelArguments" spec.kernelArguments,
    optionalField "kernelType" spec.kernelType]
  decode? json := do
    let fields ← json.record? ["config", "kernelArguments", "kernelType"]
    let config ← fields.required "config"
    let kernelArguments ← fields.withDefault "kernelArguments" []
    let kernelType ← fields.optional "kernelType"
    return ⟨config, kernelArguments, kernelType⟩

instance : Resource MachineConfig where
  encode object := manifest .machineConfig object.metadata [field "spec" object.spec]
  decode? json := do
    let fields ← json.record? ["metadata", "spec"]
    let metadata ← fields.required "metadata"
    let spec ← fields.required "spec"
    return ⟨metadata, spec⟩
  kind := .machineConfig
  metadata := MachineConfig.metadata
  withMetadata object metadata := { object with metadata }

end NodeTuning
