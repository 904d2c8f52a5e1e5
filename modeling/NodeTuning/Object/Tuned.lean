import NodeTuning.Object.Metadata

/-!
Tuned objects: profiles for the node tuning daemon and the rules by which nodes get them.
-/
namespace NodeTuning

structure TunedProfile where
  name : String
  data : String
  deriving DecidableEq

structure TunedRecommendation where
  profile : String
  priority : UInt64
  machineConfigLabels : Labels
  deriving DecidableEq

structure TunedSpec where
  profiles : List TunedProfile
  recommendations : List TunedRecommendation
  deriving DecidableEq

structure Tuned where
  metadata : ObjectMeta
  spec : TunedSpec
  deriving DecidableEq

instance : JsonCodec TunedProfile where
  encode profile := .record [field "name" profile.name, field "data" profile.data]
  decode? json := do
    let fields ← json.record? ["name", "data"]
    let name ← fields.required "name"
    let data ← fields.required "data"
    return ⟨name, data⟩

instance : JsonCodec TunedRecommendation where
  encode recommendation := .record [
    field "profile" recommendation.profile,
    field "priority" recommendation.priority,
    labelsField "machineConfigLabels" recommendation.machineConfigLabels]
  decode? json := do
    let fields ← json.record? ["profile", "priority", "machineConfigLabels"]
    let profile ← fields.required "profile"
    let priority ← fields.required "priority"
    let machineConfigLabels ← fields.withDefault "machineConfigLabels" .empty
    return ⟨profile, priority, machineConfigLabels⟩

instance : JsonCodec TunedSpec where
  encode spec := .record [
    field "profile" spec.profiles,
    field "recommend" spec.recommendations]
  decode? json := do
    let fields ← json.record? ["profile", "recommend"]
    let profiles ← fields.withDefault "profile" []
    let recommendations ← fields.withDefault "recommend" []
    return ⟨profiles, recommendations⟩

instance : Resource Tuned where
  encode object := manifest .tuned object.metadata [field "spec" object.spec]
  decode? json := do
    let fields ← json.record? ["metadata", "spec"]
    let metadata ← fields.required "metadata"
    let spec ← fields.required "spec"
    return ⟨metadata, spec⟩
  kind := .tuned
  metadata := Tuned.metadata
  withMetadata object metadata := { object with metadata }

end NodeTuning
