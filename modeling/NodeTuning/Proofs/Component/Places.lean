import NodeTuning.Component.Set
import NodeTuning.Controller.Removal
import NodeTuning.Proofs.Cluster.Orderly
import NodeTuning.Proofs.Cluster.Removing

/-!
Where the components of a profile are stored. The places of different profiles are different, and
the components that are derived from a profile belong there.
-/
namespace NodeTuning

def componentPlaces (tunedNamespace profile : String) : List Place := [
  (.machineConfig, machineConfigName profile), (.kubeletConfig, componentName profile),
  (.tuned, tunedKey tunedNamespace profile), (.runtimeClass, componentName profile)]

def profilePlaces (tunedNamespace name : String) : List Place :=
  (.performanceProfile, name) :: componentPlaces tunedNamespace name

theorem machineConfigName_inj {first second : String} :
    machineConfigName first = machineConfigName second ↔ first = second := by
  unfold machineConfigName
  rw [String.append_right_inj]

theorem componentName_inj {first second : String} :
    componentName first = componentName second ↔ first = second := by
  unfold componentName
  rw [String.append_right_inj]

theorem keyIn_inj {inNamespace first second : String} :
    keyIn (some inNamespace) first = keyIn (some inNamespace) second ↔ first = second := by
  unfold keyIn
  rw [String.append_right_inj]

theorem tunedKey_inj {tunedNamespace first second : String} :
    tunedKey tunedNamespace first = tunedKey tunedNamespace second ↔ first = second := by
  unfold tunedKey tunedName
  rw [keyIn_inj, String.append_right_inj]

/-- No place is shared by components of different profiles. -/
theorem eq_of_mem_componentPlaces {tunedNamespace first second : String} {place : Place}
    (one : place ∈ componentPlaces tunedNamespace first)
    (two : place ∈ componentPlaces tunedNamespace second) : first = second := by
  simp only [componentPlaces, List.mem_cons, List.not_mem_nil, or_false] at one two
  rcases one with rfl | rfl | rfl | rfl <;>
    simpa [machineConfigName_inj, componentName_inj, tunedKey_inj] using two

theorem kind_of_mem_componentPlaces {tunedNamespace profile : String} {place : Place}
    (member : place ∈ componentPlaces tunedNamespace profile) :
    place.1 ≠ .performanceProfile ∧ place.1 ≠ .machineConfigPool := by
  simp only [componentPlaces, List.mem_cons, List.not_mem_nil, or_false] at member
  rcases member with rfl | rfl | rfl | rfl <;> simp

theorem eq_of_mem_profilePlaces {tunedNamespace first second : String} {place : Place}
    (one : place ∈ profilePlaces tunedNamespace first)
    (two : place ∈ profilePlaces tunedNamespace second) : first = second := by
  rw [profilePlaces, List.mem_cons] at one two
  rcases one with rfl | one
  · rcases two with same | two
    · exact congrArg Prod.snd same
    · exact absurd rfl (kind_of_mem_componentPlaces two).1
  · rcases two with rfl | two
    · exact absurd rfl (kind_of_mem_componentPlaces one).1
    · exact eq_of_mem_componentPlaces one two

theorem tuned_of_mem_profilePlaces {tunedNamespace name : String} {place : Place}
    (own : place ∈ profilePlaces tunedNamespace name) (kind : place.1 = .tuned) :
    place = (.tuned, tunedKey tunedNamespace name) := by
  simp only [profilePlaces, componentPlaces, List.mem_cons, List.not_mem_nil, or_false] at own
  rcases own with rfl | rfl | rfl | rfl | rfl
  · cases kind
  · cases kind
  · cases kind
  · rfl
  · cases kind

namespace Components

/-- The components have names and belong at the places of the profile. -/
structure Placed (components : Components) (tunedNamespace profile : String) : Prop where
  machineConfig : components.machineConfig.metadata.BelongsUnder (machineConfigName profile)
  kubeletConfig : components.kubeletConfig.metadata.BelongsUnder (componentName profile)
  tuned : components.tuned.metadata.BelongsUnder (tunedKey tunedNamespace profile)
  runtimeClass : components.runtimeClass.metadata.BelongsUnder (componentName profile)

end Components

namespace Profile
variable {profile : Profile}

private theorem machineConfig_placed {object : MachineConfig}
    (ok : profile.machineConfig = .ok object) :
    object.metadata.BelongsUnder (machineConfigName profile.name) := by
  simp only [Profile.machineConfig, except_bind_eq_ok_iff] at ok
  obtain ⟨_, _, _, _, _, _, _, _, done⟩ := ok
  cases done
  exact ⟨rfl, rfl⟩

private theorem kubeletConfig_placed {object : KubeletConfig}
    (ok : profile.kubeletConfig = .ok object) :
    object.metadata.BelongsUnder (componentName profile.name) := by
  simp only [Profile.kubeletConfig, except_bind_eq_ok_iff] at ok
  obtain ⟨_, _, _, _, done⟩ := ok
  cases done
  exact ⟨rfl, rfl⟩

private theorem tuned_placed {tunedNamespace : String} {object : Tuned}
    (ok : profile.tuned tunedNamespace = .ok object) :
    object.metadata.BelongsUnder (tunedKey tunedNamespace profile.name) := by
  simp only [Profile.tuned, except_bind_eq_ok_iff] at ok
  obtain ⟨_, _, _, _, _, _, done⟩ := ok
  cases done
  exact ⟨rfl, rfl⟩

private theorem runtimeClass_placed {object : RuntimeClass}
    (ok : profile.runtimeClass = .ok object) :
    object.metadata.BelongsUnder (componentName profile.name) := by
  simp only [Profile.runtimeClass, except_bind_eq_ok_iff] at ok
  obtain ⟨_, _, done⟩ := ok
  cases done
  exact ⟨rfl, rfl⟩

theorem components_eq_ok_iff {tunedNamespace : String} {components : Components} :
    profile.components tunedNamespace = .ok components ↔
      profile.machineConfig = .ok components.machineConfig ∧
      profile.kubeletConfig = .ok components.kubeletConfig ∧
      profile.tuned tunedNamespace = .ok components.tuned ∧
      profile.runtimeClass = .ok components.runtimeClass := by
  simp only [Profile.components, except_bind_eq_ok_iff]
  constructor
  · rintro ⟨_, one, _, two, _, three, _, four, done⟩
    cases done
    exact ⟨one, two, three, four⟩
  · rintro ⟨one, two, three, four⟩
    exact ⟨_, one, _, two, _, three, _, four, rfl⟩

theorem components_placed {tunedNamespace : String} {components : Components}
    (ok : profile.components tunedNamespace = .ok components) :
    components.Placed tunedNamespace profile.name := by
  obtain ⟨one, two, three, four⟩ := components_eq_ok_iff.1 ok
  exact ⟨machineConfig_placed one, kubeletConfig_placed two, tuned_placed three,
    runtimeClass_placed four⟩

theorem poolLabels_of_components {tunedNamespace : String} {components : Components}
    (ok : profile.components tunedNamespace = .ok components) :
    ∃ labels, profile.poolLabels = .ok labels := by
  have kubeletConfig := (components_eq_ok_iff.1 ok).2.1
  simp only [Profile.kubeletConfig, except_bind_eq_ok_iff] at kubeletConfig
  obtain ⟨labels, labelled, _⟩ := kubeletConfig
  exact ⟨labels, labelled⟩

end Profile
end NodeTuning
