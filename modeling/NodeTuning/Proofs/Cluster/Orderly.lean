import NodeTuning.Proofs.Cluster.Footprint

/-!
Clusters in which every object of some kinds has a name and sits under its own key. The operations
of a cluster keep this, and a status then goes to the profile that it is meant for.
-/
namespace NodeTuning

def ObjectMeta.BelongsUnder (metadata : ObjectMeta) (key : String) : Prop :=
  metadata.name.isSome ∧ keyIn metadata.inNamespace (metadata.name.getD "") = key

namespace AnyObject

@[simp] theorem metadata_bare (object : AnyObject) : object.bare.metadata = object.metadata := by
  cases object <;> rfl

end AnyObject

namespace Cluster
open Stored Steps

/-- Every object of the kinds has a name and sits under its own key. -/
def Orderly (kinds : Kind → Prop) (cluster : Cluster) : Prop :=
  ∀ kind key object, kinds kind → cluster.peekAny kind key = some object →
    object.metadata.BelongsUnder key

variable {kinds : Kind → Prop} {cluster : Cluster} {K : Type} [Stored K] [Lawful K]

namespace Orderly

theorem empty : Orderly kinds {} := by
  intro kind key object _ found
  cases kind <;> cases found

theorem peek (orderly : cluster.Orderly kinds) (managed : kinds (Resource.kind K)) {key : String}
    {object : K} (found : cluster.peek K key = some object) :
    (Resource.metadata object).BelongsUnder key := by
  rw [← Lawful.metadata_toAny]
  apply orderly (Resource.kind K) key (toAny object) managed
  rw [Lawful.peekAny_kind, found]
  rfl

theorem name_of_stored (orderly : cluster.Orderly kinds) (managed : kinds (Resource.kind K))
    {key : String} {object : K} (found : cluster.peek K key = some object)
    (unspaced : (Resource.metadata object).inNamespace = none) :
    (Resource.metadata object).name = some key := by
  obtain ⟨named, under⟩ := orderly.peek managed found
  obtain ⟨name, known⟩ := Option.isSome_iff_exists.1 named
  rw [unspaced, known] at under
  subst under
  exact known

theorem name_of_peek (orderly : cluster.Orderly kinds) (managed : kinds .performanceProfile)
    {key : String} {profile : Profile} (found : cluster.peek Profile key = some profile)
    (unspaced : profile.metadata.inNamespace = none) : profile.metadata.name = some key :=
  orderly.name_of_stored managed found unspaced

theorem of_objects {after : Cluster} (orderly : cluster.Orderly kinds)
    (same : ∀ kind key, after.peekAny kind key = cluster.peekAny kind key) :
    after.Orderly kinds := by
  intro kind key object managed found
  rw [same] at found
  exact orderly kind key object managed found

theorem record (orderly : cluster.Orderly kinds) (verb : Verb) (kind : Kind) (key : String) :
    (cluster.record verb kind key).Orderly kinds :=
  orderly.of_objects (peekAny_record cluster verb kind key)

theorem put (orderly : cluster.Orderly kinds) {object : K}
    (named : (Resource.metadata object).name.isSome) : (cluster.put object).Orderly kinds := by
  intro kind key other managed found
  rw [peekAny_put] at found
  split at found
  · rename_i here
    obtain ⟨_, rfl⟩ := here
    cases found
    rw [Lawful.metadata_toAny]
    exact ⟨named, rfl⟩
  · exact orderly kind key other managed found

theorem remove (orderly : cluster.Orderly kinds) (key : String) :
    (cluster.remove K key).Orderly kinds := by
  intro kind other object managed found
  rw [peekAny_remove] at found
  split at found
  · cases found
  · exact orderly kind other object managed found

theorem deletion (orderly : cluster.Orderly kinds) (key : String) :
    (Action.deletion K cluster key).Orderly kinds := by
  unfold Action.deletion
  split
  · unfold discard
    split
    · exact orderly.of_objects fun kind other => by simp
    · exact (orderly.remove key).record _ _ _
  · exact orderly

end Orderly

section Within
variable {footprint : Footprint} {before after : Cluster}

/-- Where no write is allowed, only the status of a profile can have changed. -/
theorem Within.metadata_eq (within : Within footprint before after) {kind : Kind} {key : String}
    {object : AnyObject} (unwritten : ¬ footprint.writes (kind, key))
    (found : after.peekAny kind key = some object) :
    ∃ old, before.peekAny kind key = some old ∧ old.metadata = object.metadata := by
  rcases within.objects kind key with same | written | ⟨_, gone⟩ | ⟨_, same⟩
  · exact ⟨object, same ▸ found, rfl⟩
  · exact absurd written unwritten
  · rw [gone] at found
    cases found
  · rw [found, Option.map_some] at same
    obtain ⟨old, stored, bare⟩ := Option.map_eq_some_iff.1 same.symm
    refine ⟨old, stored, ?_⟩
    rw [← AnyObject.metadata_bare, bare, AnyObject.metadata_bare]

theorem Orderly.within (orderly : before.Orderly kinds) (within : Within footprint before after)
    (unwritten : ∀ place, kinds place.1 → ¬ footprint.writes place) : after.Orderly kinds := by
  intro kind key object managed found
  obtain ⟨old, stored, same⟩ := within.metadata_eq (unwritten (kind, key) managed) found
  rw [← same]
  exact orderly kind key old managed stored

end Within

namespace Action
variable {α : Type} {footprint : Footprint}

theorem orderly_ofWrite {operation : Cluster → Except ClusterError (α × Cluster)}
    (kept : ∀ cluster value after, cluster.Orderly kinds → operation cluster = .ok (value, after) →
      after.Orderly kinds) (keeps : Keeps (Within footprint) (ofWrite operation)) :
    Keeps (Guarded (Orderly kinds) (Within footprint)) (ofWrite operation) := by
  refine Keeps.guarded (fun cluster orderly => ?_) keeps
  obtain ⟨value, after, ok, run⟩ | ⟨fault, _, run⟩ := run_ofWrite_cases operation cluster
  · rw [run]
    exact kept cluster value after orderly ok
  · rw [run]
    exact orderly

theorem orderly_create {object : K} (named : (Resource.metadata object).name.isSome)
    (written : footprint.writes (Resource.kind K, storeKey object)) :
    Keeps (Guarded (Orderly kinds) (Within footprint)) (ofWrite (Cluster.create · object)) := by
  refine orderly_ofWrite (fun cluster created after orderly ok => ?_) (keeps_create object written)
  obtain ⟨_, _, rfl, rfl⟩ := create_eq_ok_iff.1 ok
  have counted := orderly.of_objects (peekAny_countUid cluster object)
  refine (counted.put ?_).record _ _ _
  rw [asCreated, Lawful.metadata_withMetadata]
  exact named

theorem orderly_update {object : K} (named : (Resource.metadata object).name.isSome)
    (written : footprint.writes (Resource.kind K, storeKey object)) :
    Keeps (Guarded (Orderly kinds) (Within footprint)) (ofWrite (Cluster.update · object)) := by
  refine orderly_ofWrite (fun cluster updated after orderly ok => ?_) (keeps_update object written)
  obtain ⟨_, existing, _, rfl, rfl⟩ := update_eq_ok_iff.1 ok
  refine (orderly.put ?_).record _ _ _
  rw [asUpdated, Lawful.metadata_withMetadata]
  exact named

theorem orderly_ensureDeleted {key : String} (removed : footprint.removes (Resource.kind K, key)) :
    Keeps (Guarded (Orderly kinds) (Within footprint)) (ensureDeleted K key) := by
  refine Keeps.guarded (fun cluster orderly => ?_) (keeps_ensureDeleted removed)
  cases allowed : cluster.check .delete (Resource.kind K) with
  | ok =>
    rw [run_ensureDeleted_ok allowed]
    exact orderly.deletion key
  | error fault =>
    rw [run_ensureDeleted_error allowed]
    exact orderly

theorem orderly_updateProfile {profile : Profile} (named : profile.metadata.name.isSome)
    (stored : footprint.writes (.performanceProfile, storeKey profile))
    (own : footprint.writes (.performanceProfile, profile.name)) :
    Keeps (Guarded (Orderly kinds) (Within footprint))
      (ofWrite (Cluster.updateProfile · profile)) := by
  refine orderly_ofWrite (fun cluster updated after orderly ok => ?_)
    (keeps_updateProfile profile stored own)
  obtain ⟨_, existing, _, rfl, rfl⟩ := updateProfile_eq_ok_iff.1 ok
  split
  · exact (orderly.remove profile.name).record _ _ _
  · exact (orderly.put named).record _ _ _

/-- In an orderly cluster only the status of the profile under the key changes. -/
theorem orderly_patchStatus (managed : kinds .performanceProfile) (key : String)
    (status : ProfileStatus) (reported : footprint.reports (.performanceProfile, key)) :
    Keeps (Guarded (Orderly kinds) (Within footprint))
      (ofWrite (Cluster.patchStatus · key status)) := by
  intro cluster orderly
  obtain ⟨_, after, ok, run⟩ | ⟨fault, _, run⟩ :=
    run_ofWrite_cases (Cluster.patchStatus · key status) cluster
  · obtain ⟨_, existing, found, rfl⟩ := patchStatus_eq_ok_iff.1 ok
    have belongs := orderly.peek managed found
    have named : (Resource.metadata { existing with status := some status }).name.isSome :=
      belongs.1
    rw [run]
    exact ⟨(orderly.put named).record _ _ _, Within.report status found belongs.2 reported⟩
  · rw [run]
    exact ⟨orderly, Within.refl footprint cluster⟩

end Action
end Cluster
end NodeTuning
