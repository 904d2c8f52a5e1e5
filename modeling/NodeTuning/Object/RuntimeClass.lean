import NodeTuning.Object.Metadata

/-!
Runtime classes: a container runtime handler and the nodes whose pods may use it.
-/
namespace NodeTuning

structure Toleration where
  effect : Option String
  key : Option String
  operator : Option String
  tolerationSeconds : Option Int64
  value : Option String
  deriving DecidableEq

structure Scheduling where
  nodeSelector : Option Labels
  tolerations : Option (List Toleration)
  deriving DecidableEq

/-- An amount of a resource. It may be given as a whole number and is kept as text. -/
structure Quantity where
  text : String
  deriving DecidableEq

/-- What a pod of a class takes on top of its containers. -/
structure Overhead where
  podFixed : Option (SortedMap Quantity)
  deriving DecidableEq

structure RuntimeClass where
  metadata : ObjectMeta
  handler : String
  scheduling : Option Scheduling
  overhead : Option Overhead
  deriving DecidableEq

instance : JsonCodec Toleration where
  encode toleration := .record [
    optionalField "effect" toleration.effect,
    optionalField "key" toleration.key,
    optionalField "operator" toleration.operator,
    optionalField "tolerationSeconds" toleration.tolerationSeconds,
    optionalField "value" toleration.value]
  decode? json := do
    let fields ← json.members?
    let effect ← fields.optional "effect"
    let key ← fields.optional "key"
    let operator ← fields.optional "operator"
    let tolerationSeconds ← fields.optional "tolerationSeconds"
    let value ← fields.optional "value"
    return ⟨effect, key, operator, tolerationSeconds, value⟩

instance : JsonCodec Scheduling where
  encode scheduling := .record [
    optionalField "nodeSelector" scheduling.nodeSelector,
    optionalField "tolerations" scheduling.tolerations]
  decode? json := do
    let fields ← json.members?
    let nodeSelector ← fields.optional "nodeSelector"
    let tolerations ← fields.optional "tolerations"
    return ⟨nodeSelector, tolerations⟩

instance : JsonCodec Quantity where
  encode quantity := .str quantity.text
  decode?
    | .str text => some ⟨text⟩
    | .int value => some ⟨toString value⟩
    | _ => none

instance : JsonCodec Overhead where
  encode overhead := .record [optionalField "podFixed" overhead.podFixed]
  decode? json := do
    let fields ← json.members?
    let podFixed ← fields.optional "podFixed"
    return ⟨podFixed⟩

instance : Resource RuntimeClass where
  encode object := manifest .runtimeClass object.metadata [
    field "handler" object.handler,
    optionalField "overhead" object.overhead,
    optionalField "scheduling" object.scheduling]
  decode? json := do
    let fields ← json.members?
    if fields.saysOnly "apiVersion" Kind.runtimeClass.apiVersion &&
        fields.saysOnly "kind" Kind.runtimeClass.name then
      let metadata ← fields.orElse "metadata" {}
      let handler ← fields.orElse "handler" ""
      let scheduling ← fields.optional "scheduling"
      let overhead ← fields.optional "overhead"
      return ⟨metadata, handler, scheduling, overhead⟩
    else none
  kind := .runtimeClass
  metadata := RuntimeClass.metadata
  withMetadata object metadata := { object with metadata }

end NodeTuning
