import NodeTuning.Proofs.Cluster.Footprint

/-!
What holds of every stored profile. Work that touches no profile keeps any such property, and a
write of a profile keeps it if it holds of what is then stored.
-/
namespace NodeTuning
open Steps

/-- The property holds of every stored profile and the key that it is under. -/
def Cluster.Profiles (property : String → Profile → Prop) (cluster : Cluster) : Prop :=
  ∀ key profile, cluster.peek Profile key = some profile → property key profile

/-- The work on everything but profiles. -/
def Footprint.objects : Footprint where
  writes := (·.1 ≠ .performanceProfile)
  removes := (·.1 ≠ .performanceProfile)

/-- The work on everything but profiles and pools. -/
def Footprint.components : Footprint where
  writes place := place.1 ≠ .performanceProfile ∧ place.1 ≠ .machineConfigPool
  removes place := place.1 ≠ .performanceProfile ∧ place.1 ≠ .machineConfigPool

theorem Footprint.components_below_objects : Footprint.components.Below .objects where
  writes _ apart := apart.1
  reports _ := id
  removes _ apart := apart.1

/-- Where a profile says that it belongs, as one of a kind that has no namespaces. -/
structure Profile.Under (key : String) (profile : Profile) : Prop where
  named : profile.metadata.name = some key
  unspaced : profile.metadata.inNamespace = none

theorem Profile.Under.storeKey_eq {key : String} {profile : Profile} (under : profile.Under key) :
    storeKey profile = key := by
  simp [storeKey, Resource.metadata, under.named, under.unspaced, keyIn]

theorem Profile.Under.name_eq {key : String} {profile : Profile} (under : profile.Under key) :
    profile.name = key := by
  simp [Profile.name, Resource.displayName, Resource.metadata, under.named]

namespace Cluster
variable {property : String → Profile → Prop} {cluster after : Cluster}

namespace Profiles

theorem imp {other : String → Profile → Prop} (profiles : cluster.Profiles property)
    (weaker : ∀ key profile, property key profile → other key profile) :
    cluster.Profiles other :=
  fun key profile found => weaker key profile (profiles key profile found)

theorem congr (profiles : cluster.Profiles property)
    (same : ∀ key, after.peek Profile key = cluster.peek Profile key) :
    after.Profiles property :=
  fun key profile found => profiles key profile (same key ▸ found)

theorem put {profile : Profile} (profiles : cluster.Profiles property)
    (holds : property (storeKey profile) profile) : (cluster.put profile).Profiles property := by
  intro key other found
  rw [peek_put] at found
  split at found
  · rename_i here
    cases found
    exact here ▸ holds
  · exact profiles key other found

theorem remove (profiles : cluster.Profiles property) (key : String) :
    (cluster.remove Profile key).Profiles property := by
  intro other profile found
  rw [peek_remove] at found
  split at found
  · cases found
  · exact profiles other profile found

theorem record (profiles : cluster.Profiles property) (verb : Verb) (kind : Kind) (key : String) :
    (cluster.record verb kind key).Profiles property :=
  profiles.congr fun _ => peek_record ..

theorem within (profiles : cluster.Profiles property) (within : cluster.Within .objects after) :
    after.Profiles property :=
  profiles.congr fun _ => within.peek_eq (by simp [Footprint.Touches, Footprint.objects])

end Profiles

namespace Action
variable {α : Type}

theorem preservesProfiles_of_within {steps : Action α}
    (keeps : Keeps (Within .objects) steps) :
    Keeps (Preserving (Cluster.Profiles property)) steps :=
  fun cluster profiles => profiles.within (keeps cluster)

theorem preservesProfiles_updateProfile {profile : Profile}
    (kept : ∀ existing, property profile.name existing →
      property (storeKey profile) { profile with status := existing.status }) :
    Keeps (Preserving (Cluster.Profiles property))
      (ofWrite (Cluster.updateProfile · profile)) := by
  apply keeps_ofWrite
  intro cluster updated after ok profiles
  obtain ⟨_, existing, found, rfl, rfl⟩ := updateProfile_eq_ok_iff.1 ok
  split
  · exact (profiles.remove profile.name).record _ _ _
  · exact (profiles.put (kept existing (profiles _ _ found))).record _ _ _

theorem preservesProfiles_patchStatus {key : String} {status : ProfileStatus}
    (kept : ∀ existing, property key existing →
      property (storeKey existing) { existing with status := some status }) :
    Keeps (Preserving (Cluster.Profiles property)) (ofWrite (Cluster.patchStatus · key status)) := by
  apply keeps_ofWrite
  intro cluster _ after ok profiles
  obtain ⟨_, existing, found, rfl⟩ := patchStatus_eq_ok_iff.1 ok
  exact (profiles.put (kept existing (profiles _ _ found))).record _ _ _

end Action
end Cluster
end NodeTuning
