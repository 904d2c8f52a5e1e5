import NodeTuning.Json.Codec
import NodeTuning.Object.Kind
import NodeTuning.Time.Rfc3339

/-!
What all objects have in common: names, labels, annotations, finalizers and owners. An empty list or
map is not the same as an absent one.
-/
namespace NodeTuning

structure OwnerReference where
  apiVersion : String
  kind : String
  name : String
  uid : String
  controller : Option Bool
  blockOwnerDeletion : Option Bool
  deriving DecidableEq

instance : JsonCodec OwnerReference where
  encode owner := .record [
    field "apiVersion" owner.apiVersion,
    optionalField "blockOwnerDeletion" owner.blockOwnerDeletion,
    optionalField "controller" owner.controller,
    field "kind" owner.kind,
    field "name" owner.name,
    field "uid" owner.uid]
  decode? json := do
    let fields ← json.members?
    let apiVersion ← fields.orElse "apiVersion" ""
    let kind ← fields.orElse "kind" ""
    let name ← fields.orElse "name" ""
    let uid ← fields.orElse "uid" ""
    let controller ← fields.optional "controller"
    let blockOwnerDeletion ← fields.optional "blockOwnerDeletion"
    return ⟨apiVersion, kind, name, uid, controller, blockOwnerDeletion⟩

/-- The metadata that something depends on. A document may also have `creationTimestamp`,
`deletionGracePeriodSeconds`, `managedFields` and `selfLink`, which are left out. -/
structure ObjectMeta where
  name : Option String := none
  generateName : Option String := none
  inNamespace : Option String := none
  uid : Option String := none
  resourceVersion : Option String := none
  generation : Option Int64 := none
  deletionTimestamp : Option Timestamp := none
  labels : Option Labels := none
  annotations : Option Labels := none
  finalizers : Option (List String) := none
  ownerReferences : Option (List OwnerReference) := none
  deriving DecidableEq

instance : Inhabited ObjectMeta := ⟨{}⟩

instance : JsonCodec ObjectMeta where
  encode metadata := .record [
    optionalField "annotations" metadata.annotations,
    ("deletionTimestamp", metadata.deletionTimestamp.map fun time => .str time.wholeText),
    optionalField "finalizers" metadata.finalizers,
    optionalField "generateName" metadata.generateName,
    optionalField "generation" metadata.generation,
    optionalField "labels" metadata.labels,
    optionalField "name" metadata.name,
    optionalField "namespace" metadata.inNamespace,
    optionalField "ownerReferences" metadata.ownerReferences,
    optionalField "resourceVersion" metadata.resourceVersion,
    optionalField "uid" metadata.uid]
  decode? json := do
    let fields ← json.members?
    let name ← fields.optional "name"
    let generateName ← fields.optional "generateName"
    let inNamespace ← fields.optional "namespace"
    let uid ← fields.optional "uid"
    let resourceVersion ← fields.optional "resourceVersion"
    let generation ← fields.optional "generation"
    let deletionTimestamp ← fields.optional "deletionTimestamp"
    let labels ← fields.optional "labels"
    let annotations ← fields.optional "annotations"
    let finalizers ← fields.optional "finalizers"
    let ownerReferences ← fields.optional "ownerReferences"
    return {
      name, generateName, inNamespace, uid, resourceVersion, generation, deletionTimestamp,
      labels, annotations, finalizers, ownerReferences }

class Resource (K : Type) extends JsonCodec K where
  kind : Kind
  metadata : K → ObjectMeta
  withMetadata : K → ObjectMeta → K

namespace Resource
variable {K : Type} [Resource K]

/-- The name by which an object is shown: its own, or else the stem from which one is made. -/
def displayName (object : K) : String :=
  let own := metadata object
  (own.name.or own.generateName).getD ""

def labels (object : K) : Labels := (metadata object).labels.getD .empty

def annotations (object : K) : Labels := (metadata object).annotations.getD .empty

def finalizers (object : K) : List String := (metadata object).finalizers.getD []

def owners (object : K) : List OwnerReference := (metadata object).ownerReferences.getD []

end Resource

/-- The document of an object: its type, its metadata and the parts of its own. -/
def manifest (kind : Kind) (metadata : ObjectMeta) (parts : List (String × Option Json)) : Json :=
  .record ([field "apiVersion" kind.apiVersion, field "kind" kind.name, field "metadata" metadata]
    ++ parts)

end NodeTuning
