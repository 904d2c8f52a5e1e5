import NodeTuning.Controller.Merge
import NodeTuning.Proofs.Cluster.Orderly

/-!
What merging an object with a desired one gives. The spec is the desired one, a label has the
desired value if there is one, and all other metadata but the version stays. Main statements: this
holds of a merged object, and of what is stored after a planned write.
-/
namespace NodeTuning

namespace Component

/-- Replacing all of an object but its metadata. -/
class Lawful (K : Type) [Component K] [Stored.Lawful K] : Prop where
  metadata_withSpecOf (object other : K) :
    Resource.metadata (withSpecOf object other) = Resource.metadata object := by intros; rfl
  withSpecOf_self (object : K) : withSpecOf object object = object := by intros; rfl
  withSpecOf_withSpecOf (object first second : K) :
    withSpecOf (withSpecOf object first) second = withSpecOf object second := by intros; rfl
  withSpecOf_withMetadata (object other : K) (metadata : ObjectMeta) :
    withSpecOf (Resource.withMetadata object metadata) other =
      Resource.withMetadata (withSpecOf object other) metadata := by intros; rfl

instance : Lawful MachineConfig where

instance : Lawful KubeletConfig where

instance : Lawful Tuned where

instance : Lawful RuntimeClass where

end Component

theorem find?_mergeLabels (existing desired : Option Labels) (key : String) :
    ((mergeLabels existing desired).getD .empty).find? key =
      ((desired.getD .empty).find? key).or ((existing.getD .empty).find? key) := by
  unfold mergeLabels
  cases desired with
  | none => simp
  | some labels =>
    simp only [Option.getD_some]
    split
    · rename_i empty
      have absent : labels.find? key = none := by
        rw [SortedMap.isEmpty, List.isEmpty_iff] at empty
        rw [SortedMap.find?, empty]
        rfl
      simp [absent]
    · simp [SortedMap.find?_extend]

def ObjectMeta.constant (metadata : ObjectMeta) : ObjectMeta :=
  { metadata with labels := none, annotations := none, resourceVersion := none }

section Objects
variable {K : Type} [Component K] [Stored.Lawful K] [Component.Lawful K]

omit [Stored.Lawful K] [Component.Lawful K] in
theorem mutated?_eq_some {existing desired updated : K}
    (changed : mutated? existing desired = some updated) : updated = merged existing desired := by
  unfold mutated? at changed
  dsimp only at changed
  split at changed
  · cases changed
  · exact (Option.some.inj changed).symm

omit [Stored.Lawful K] [Component.Lawful K] in
theorem mutated?_eq_none {existing desired : K} (same : mutated? existing desired = none) :
    merged existing desired = existing := by
  unfold mutated? at same
  dsimp only at same
  split at same
  · assumption
  · cases same

theorem metadata_merged (existing desired : K) : Resource.metadata (merged existing desired) =
    (Resource.metadata existing).merge (Resource.metadata desired) := by
  rw [merged, Component.Lawful.metadata_withSpecOf, Stored.Lawful.metadata_withMetadata]

/-- An object is what the desired one asks for, and otherwise as it was before, if it was. -/
structure Realizes (before : Option K) (desired stored : K) : Prop where
  spec : Component.withSpecOf stored desired = stored
  labels : ∀ key, (Resource.labels stored).find? key =
    ((Resource.labels desired).find? key).or
      (before.bind fun object => (Resource.labels object).find? key)
  annotations : ∀ key, (Resource.annotations stored).find? key =
    ((Resource.annotations desired).find? key).or
      (before.bind fun object => (Resource.annotations object).find? key)
  constant : ∀ object, before = some object →
    (Resource.metadata stored).constant = (Resource.metadata object).constant

theorem realizes_merged (existing desired : K) :
    Realizes (some existing) desired (merged existing desired) where
  spec := Component.Lawful.withSpecOf_withSpecOf ..
  labels key := by
    rw [Resource.labels, metadata_merged]
    exact find?_mergeLabels ..
  annotations key := by
    rw [Resource.annotations, metadata_merged]
    exact find?_mergeLabels ..
  constant object same := by
    cases same
    rw [metadata_merged]
    rfl

theorem realizes_desired (desired : K) : Realizes none desired desired where
  spec := Component.Lawful.withSpecOf_self desired
  labels key := by simp
  annotations key := by simp
  constant object impossible := by cases impossible

theorem Realizes.withMetadata {before : Option K} {desired stored : K}
    (realizes : Realizes before desired stored) {metadata : ObjectMeta}
    (labels : metadata.labels = (Resource.metadata stored).labels)
    (annotations : metadata.annotations = (Resource.metadata stored).annotations)
    (constant : before ≠ none → metadata.constant = (Resource.metadata stored).constant) :
    Realizes before desired (Resource.withMetadata stored metadata) where
  spec := by rw [Component.Lawful.withSpecOf_withMetadata, realizes.spec]
  labels key := by
    rw [← realizes.labels key, Resource.labels, Stored.Lawful.metadata_withMetadata, labels]
    rfl
  annotations key := by
    rw [← realizes.annotations key, Resource.annotations, Stored.Lawful.metadata_withMetadata,
      annotations]
    rfl
  constant object present := by
    rw [Stored.Lawful.metadata_withMetadata, constant (by simp [present])]
    exact realizes.constant object present

theorem realizes_asCreated (cluster : Cluster) (desired : K) :
    Realizes none desired (cluster.asCreated desired) :=
  (realizes_desired desired).withMetadata rfl rfl fun impossible => absurd rfl impossible

theorem realizes_asUpdated (existing desired : K) :
    Realizes (some existing) desired (Cluster.asUpdated existing (merged existing desired)) := by
  refine (realizes_merged existing desired).withMetadata rfl rfl fun _ => ?_
  rw [metadata_merged]
  rfl

theorem realizes_unchanged {existing desired : K} (same : mutated? existing desired = none) :
    Realizes (some existing) desired existing := by
  have realizes := realizes_merged existing desired
  rwa [mutated?_eq_none same] at realizes

namespace Write

omit [Stored.Lawful K] [Component.Lawful K] in
theorem plan_eq_create {existing : Option K} {desired object : K}
    (planned : plan existing desired = .create object) : existing = none ∧ desired = object := by
  cases existing with
  | none =>
    cases planned
    exact ⟨rfl, rfl⟩
  | some existing =>
    cases changed : mutated? existing desired <;> simp [plan, changed] at planned

omit [Stored.Lawful K] [Component.Lawful K] in
theorem plan_eq_update {existing : Option K} {desired object : K}
    (planned : plan existing desired = .update object) :
    ∃ stored, existing = some stored ∧ object = merged stored desired := by
  cases existing with
  | none => cases planned
  | some existing =>
    cases changed : mutated? existing desired with
    | none => simp [plan, changed] at planned
    | some updated =>
      simp only [plan, changed, update.injEq] at planned
      exact ⟨existing, rfl, planned ▸ mutated?_eq_some changed⟩

omit [Stored.Lawful K] [Component.Lawful K] in
theorem plan_of_merged_eq {existing desired : K} (same : merged existing desired = existing) :
    plan (some existing) desired = .unchanged := by
  have idle : mutated? existing desired = none := by
    unfold mutated?
    exact if_pos same
  simp only [plan, idle]

omit [Stored.Lawful K] [Component.Lawful K] in
theorem plan_of_merged_ne {existing desired : K} (other : merged existing desired ≠ existing) :
    plan (some existing) desired = .update (merged existing desired) := by
  have changed : mutated? existing desired = some (merged existing desired) := by
    unfold mutated?
    exact if_neg other
  simp only [plan, changed]

def Targets (write : Write K) (key : String) : Prop :=
  match write with
  | .create object | .update object => (Resource.metadata object).BelongsUnder key
  | .unchanged => True

theorem plan_targets {existing : Option K} {desired : K} {key : String}
    (belongs : (Resource.metadata desired).BelongsUnder key)
    (stored : ∀ object, existing = some object → (Resource.metadata object).BelongsUnder key) :
    (plan existing desired).Targets key := by
  cases existing with
  | none => exact belongs
  | some existing =>
    cases changed : mutated? existing desired with
    | none => simp only [plan, changed, Targets]
    | some updated =>
      simp only [plan, changed, Targets]
      rw [mutated?_eq_some changed, metadata_merged]
      exact stored existing rfl

end Write
end Objects
end NodeTuning
