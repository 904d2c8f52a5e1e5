import NodeTuning.Proofs.Controller.Branches
import NodeTuning.Proofs.Controller.Interruption

/-!
Who owns the components that have been applied. A component is created with the profile as its
owner, and merging leaves the owners of an object as they are. Main statement: what is stored is
owned by the profile alone where there was nothing before, and by its owners of before elsewhere.
-/
namespace NodeTuning
open Stored Steps Cluster.Action

/-- The profile is the only owner of all its components. -/
structure Components.OwnedBy (components : Components) (owner : OwnerReference) : Prop where
  machineConfig : components.machineConfig.metadata.ownerReferences = some [owner]
  kubeletConfig : components.kubeletConfig.metadata.ownerReferences = some [owner]
  tuned : components.tuned.metadata.ownerReferences = some [owner]
  runtimeClass : components.runtimeClass.metadata.ownerReferences = some [owner]

theorem Profile.ownedBy_of_components {profile : Profile} {tunedNamespace : String}
    {components : Components} {owner : OwnerReference}
    (derived : profile.components tunedNamespace = .ok components)
    (owned : profile.ownerReference = .ok owner) : components.OwnedBy owner := by
  obtain ⟨machineConfig, kubeletConfig, tuned, runtimeClass⟩ := components_eq_ok_iff.1 derived
  simp only [Profile.machineConfig, owned, except_bind_eq_ok_iff] at machineConfig
  simp only [Profile.kubeletConfig, owned, except_bind_eq_ok_iff] at kubeletConfig
  simp only [Profile.tuned, owned, except_bind_eq_ok_iff] at tuned
  simp only [Profile.runtimeClass, owned, except_bind_eq_ok_iff] at runtimeClass
  constructor
  · obtain ⟨_, _, _, _, _, _, _, same, done⟩ := machineConfig
    cases same
    rw [← Except.ok.inj done]
  · obtain ⟨_, _, _, same, done⟩ := kubeletConfig
    cases same
    rw [← Except.ok.inj done]
  · obtain ⟨_, _, _, _, _, same, done⟩ := tuned
    cases same
    rw [← Except.ok.inj done]
  · obtain ⟨_, same, done⟩ := runtimeClass
    cases same
    rw [← Except.ok.inj done]

section Settled
variable {K : Type} [Component K] [Lawful K] [Component.Lawful K]
variable {start now : Cluster} {key : String} {desired : K}

/-- What an object comes to has the owners it had, or those of the desired one if it is new. -/
theorem ownerReferences_mergedInto (existing : Option K) (desired : K) :
    (Resource.metadata (mergedInto existing desired)).ownerReferences =
      (Resource.metadata (existing.getD desired)).ownerReferences := by
  cases existing with
  | none => rfl
  | some existing =>
    rw [mergedInto, metadata_merged]
    rfl

theorem Cluster.Settled.ownerReferences {owner : OwnerReference}
    (settled : start.Settled now key desired)
    (owned : (Resource.metadata desired).ownerReferences = some [owner]) :
    ∃ object, now.peekAny (Resource.kind K) key = some object ∧
      object.metadata.ownerReferences = ((start.peekAny (Resource.kind K) key).map
        (·.metadata.ownerReferences)).getD (some [owner]) := by
  obtain ⟨stored, found, reached⟩ := settled
  have unchanged : ∀ object : K, (Resource.metadata (unversioned object)).ownerReferences =
      (Resource.metadata object).ownerReferences := by
    intro object
    rw [unversioned, Lawful.metadata_withMetadata]
    rfl
  have owners : (Resource.metadata stored).ownerReferences =
      (Resource.metadata ((start.peek K key).getD desired)).ownerReferences := by
    rw [← ownerReferences_mergedInto, ← unchanged, reached, unchanged]
  refine ⟨toAny stored, by rw [Lawful.peekAny_kind, found, Option.map_some], ?_⟩
  rw [Lawful.peekAny_kind, Lawful.metadata_toAny, owners]
  cases start.peek K key with
  | none => exact owned
  | some earlier => simp [Lawful.metadata_toAny]

end Settled

theorem Components.SettledAt.ownerReferences {components : Components}
    {tunedNamespace name : String} {start now : Cluster} {place : Place} {owner : OwnerReference}
    (settled : components.SettledAt tunedNamespace name start now place)
    (owned : components.OwnedBy owner) :
    ∃ object, now.peekAny place.1 place.2 = some object ∧
      object.metadata.ownerReferences = ((start.peekAny place.1 place.2).map
        (·.metadata.ownerReferences)).getD (some [owner]) := by
  cases settled with
  | machineConfig settled => exact settled.ownerReferences owned.machineConfig
  | kubeletConfig settled => exact settled.ownerReferences owned.kubeletConfig
  | tuned settled => exact settled.ownerReferences owned.tuned
  | runtimeClass settled => exact settled.ownerReferences owned.runtimeClass

/-- The reference by which the profile of a name and a uid controls what it owns. -/
def profileReference (name uid : String) : OwnerReference where
  apiVersion := "performance.openshift.io/v2"
  kind := "PerformanceProfile"
  name
  uid
  controller := some true
  blockOwnerDeletion := some true

theorem Profile.ownerReference_eq_ok {profile : Profile} {name uid : String}
    (named : profile.metadata.name = some name) (identified : profile.metadata.uid = some uid) :
    profile.ownerReference = .ok (profileReference name uid) := by
  rw [ownerReference, named, identified]
  rfl

theorem derived_of_applyComponents {settings : Settings} {profile : Profile}
    {controller after : Controller} {written : Bool}
    (run : (applyComponents settings profile).run controller = (.ok written, after)) :
    ∃ components, profile.components settings.tunedNamespace = .ok components := by
  cases derived : profile.components settings.tunedNamespace with
  | ok components => exact ⟨components, rfl⟩
  | error fault =>
    rw [run_applyComponents_underivable derived] at run
    cases run

/-- Once the components of a profile have been applied, whatever is made to fail, all four are
stored. Where nothing was stored before, the profile is the only owner; what was there before keeps
its owners. So a component has the profile as its owner exactly if it had it before or is new. -/
theorem applyComponents_owners {settings : Settings} {profile : Profile}
    {controller after : Controller} {written : Bool} {name uid : String}
    (named : profile.metadata.name = some name) (identified : profile.metadata.uid = some uid)
    (orderly : controller.cluster.Orderly fun _ => True)
    (run : (applyComponents settings profile).run controller = (.ok written, after)) :
    ∀ place ∈ componentPlaces settings.tunedNamespace name,
      ∃ object, after.cluster.peekAny place.1 place.2 = some object ∧
        (controller.cluster.peekAny place.1 place.2 = none →
          object.metadata.ownerReferences = some [profileReference name uid]) ∧
        (∀ earlier, controller.cluster.peekAny place.1 place.2 = some earlier →
          object.metadata.ownerReferences = earlier.metadata.ownerReferences) ∧
        (profileReference name uid ∈ object.metadata.ownerReferences.getD [] ↔
          ∀ earlier, controller.cluster.peekAny place.1 place.2 = some earlier →
            profileReference name uid ∈ earlier.metadata.ownerReferences.getD []) := by
  obtain ⟨components, derived⟩ := derived_of_applyComponents run
  have shown : profile.name = name := by
    simp [Profile.name, Resource.displayName, Resource.metadata, named]
  have owned := Profile.ownedBy_of_components derived
    (Profile.ownerReference_eq_ok named identified)
  intro place member
  rw [← shown] at member
  obtain ⟨object, found, owners⟩ :=
    (settled_applyComponents derived orderly run place member).ownerReferences owned
  refine ⟨object, found, ?_⟩
  rw [owners]
  cases controller.cluster.peekAny place.1 place.2 with
  | none => simp
  | some earlier => simp

/-- A runtime class under the name of a component. -/
def earlierClass (owners : Option (List OwnerReference)) : RuntimeClass where
  metadata := { name := some "performance-small", ownerReferences := owners }
  handler := "runc"
  scheduling := none
  overhead := none

section Earlier
variable (owners : Option (List OwnerReference))

private theorem orderly_earlierClass :
    (Cluster.put {} (earlierClass owners)).Orderly fun _ => True := by
  have empty : Cluster.Orderly (fun _ => True) {} := .empty
  exact empty.put (K := RuntimeClass) rfl

private theorem run_earlierClass : ∃ components written after,
    smallProfile.components ({} : Settings).tunedNamespace = .ok components ∧
      (applyComponents {} smallProfile).run { cluster := Cluster.put {} (earlierClass owners) } =
        (.ok written, after) := by
  obtain ⟨components, derived⟩ : ∃ components,
      smallProfile.components ({} : Settings).tunedNamespace = .ok components :=
    except_isOk_iff.1 (by decide +kernel)
  let start : Controller := { cluster := Cluster.put {} (earlierClass owners) }
  have calm : start.cluster.failures = .empty := rfl
  have orderly : start.cluster.Orderly fun _ => True := orderly_earlierClass owners
  obtain ⟨written, after, run, -⟩ := run_applyComponents derived calm orderly fun _ _ => trivial
  exact ⟨components, written, after, derived, run⟩

private theorem peek_earlierClass : (Cluster.put {} (earlierClass owners)).peekAny .runtimeClass
    "performance-small" = some (.runtimeClass (earlierClass owners)) := rfl

end Earlier

/-- A new machine config, and a runtime class that something else owns. -/
theorem applyComponents_owners_small :
    let other : OwnerReference := ⟨"v1", "ConfigMap", "settings", "9", none, none⟩
    let start : Controller := { cluster := Cluster.put {} (earlierClass (some [other])) }
    start.cluster.Orderly (fun _ => True) ∧
    ∃ written after config runtimeClass,
      (applyComponents {} smallProfile).run start = (.ok written, after) ∧
      after.cluster.peekAny .machineConfig "50-performance-small" = some config ∧
      config.metadata.ownerReferences = some [profileReference "small" "1"] ∧
      after.cluster.peekAny .runtimeClass "performance-small" = some runtimeClass ∧
      runtimeClass.metadata.ownerReferences = some [other] := by
  intro other start
  have orderly := orderly_earlierClass (some [other])
  obtain ⟨_, written, after, -, run⟩ := run_earlierClass (some [other])
  have owners := applyComponents_owners rfl rfl orderly run
  obtain ⟨config, stored, fresh, -⟩ :=
    owners (.machineConfig, machineConfigName "small") (by simp [componentPlaces])
  obtain ⟨runtimeClass, kept, -, same, -⟩ :=
    owners (.runtimeClass, componentName "small") (by simp [componentPlaces])
  exact ⟨orderly, written, after, config, runtimeClass, run, stored, fresh rfl, kept,
    same _ (peek_earlierClass _)⟩

/-- A runtime class without owners stays without one, though its components have been applied. -/
theorem applyComponents_leaves_unowned :
    let start : Controller := { cluster := Cluster.put {} (earlierClass none) }
    start.cluster.Orderly (fun _ => True) ∧
    smallProfile.metadata.name = some "small" ∧ smallProfile.metadata.uid = some "1" ∧
    ∃ written after object, (applyComponents {} smallProfile).run start = (.ok written, after) ∧
      after.cluster.peekAny .runtimeClass "performance-small" = some object ∧
      object.metadata.ownerReferences = none ∧
      profileReference "small" "1" ∉ object.metadata.ownerReferences.getD [] := by
  intro start
  have orderly := orderly_earlierClass none
  obtain ⟨components, written, after, derived, run⟩ := run_earlierClass none
  have reference : smallProfile.ownerReference = .ok (profileReference "small" "1") :=
    Profile.ownerReference_eq_ok rfl rfl
  have owned := Profile.ownedBy_of_components derived reference
  have settled := settled_applyComponents derived orderly run
    (.runtimeClass, componentName smallProfile.name) (by simp [componentPlaces])
  obtain ⟨object, found, owners⟩ := settled.ownerReferences owned
  have none : object.metadata.ownerReferences = none := owners
  exact ⟨orderly, rfl, rfl, written, after, object, run, found, none, by simp [none]⟩

end NodeTuning
