import NodeTuning.Proofs.Component.Spelling
import NodeTuning.Proofs.Controller.Owning
import NodeTuning.Proofs.Controller.Recovery

/-!
Applying the components of a profile that has been edited without asking for anything else. Main
statement: once they have been applied, another spelling of the profile writes nothing, but for the
kubelet config if the reserved CPUs are spelled in another way.
-/
namespace NodeTuning
open Stored Steps Cluster.Action

namespace KubeletConfig

theorem reserving_eq_self_iff {config : KubeletConfig} {own : String} (cpus : String)
    (reserved : config.spec.kubeletConfig.bind (·.reservedSystemCpus) = some own) :
    config.reserving cpus = config ↔ cpus = own := by
  obtain ⟨metadata, selector, settings⟩ := config
  cases settings with
  | none => cases reserved
  | some settings =>
    obtain ⟨_, _, _, _, _, _, _, listed⟩ := settings
    have text : listed = some own := reserved
    simp [reserving, text]

/-- Over a config that is as desired, other reserved CPUs change these alone. -/
theorem merged_reserving {stored desired : KubeletConfig} (same : merged stored desired = stored)
    (cpus : String) : merged stored (desired.reserving cpus) = stored.reserving cpus := by
  have whole : (⟨stored.metadata.merge desired.metadata, desired.spec⟩ : KubeletConfig) = stored :=
    same
  have metadata : stored.metadata.merge desired.metadata = stored.metadata :=
    congrArg KubeletConfig.metadata whole
  have spec : desired.spec = stored.spec := (congrArg KubeletConfig.spec whole :)
  change (⟨stored.metadata.merge desired.metadata, (desired.reserving cpus).spec⟩ :
    KubeletConfig) = _
  rw [metadata, reserving, spec]
  rfl

end KubeletConfig

theorem Cluster.Settled.plan_eq_unchanged {K : Type} [Component K] [Lawful K] [Component.Lawful K]
    [Plain K] {start now : Cluster} {key : String} {desired : K}
    (settled : start.Settled now key desired)
    (belongs : (Resource.metadata desired).BelongsUnder key) :
    Write.plan (now.peek K (storeKey desired)) desired = .unchanged := by
  obtain ⟨_, rfl⟩ := belongs
  obtain ⟨stored, found, same⟩ := settled.merged_eq
  rw [show now.peek K (storeKey desired) = some stored from found]
  exact Write.plan_of_merged_eq same

section Applied
variable {settings : Settings} {profile : Profile} {components : Components}
variable {controller after : Controller} {written : Bool}
  (derived : profile.components settings.tunedNamespace = .ok components)
  (orderly : controller.cluster.Orderly fun _ => True)
  (run : (applyComponents settings profile).run controller = (.ok written, after))
include derived orderly run

/-- What has been applied needs at most other reserved CPUs in the kubelet config. -/
theorem plan_reserving (cpus : String) : ∃ config,
    after.cluster.peek KubeletConfig (componentName profile.name) = some config ∧
    config.spec.kubeletConfig.bind (·.reservedSystemCpus) = some profile.spec.cpu.reserved ∧
    Plan.ofCluster (components.reserving cpus) after.cluster = {
      machineConfig := .unchanged
      kubeletConfig :=
        if cpus = profile.spec.cpu.reserved then .unchanged else .update (config.reserving cpus)
      tuned := .unchanged
      runtimeClass := .unchanged } := by
  have placed := Profile.components_placed derived
  have settled := settled_applyComponents derived orderly run
  simp only [componentPlaces, List.forall_mem_cons] at settled
  obtain ⟨machineConfig, kubeletConfig, tuned, runtimeClass, -⟩ := settled
  cases machineConfig with | machineConfig machineConfig => ?_
  cases kubeletConfig with | kubeletConfig kubeletConfig => ?_
  cases tuned with | tuned tuned => ?_
  cases runtimeClass with | runtimeClass runtimeClass => ?_
  obtain ⟨config, found, same⟩ := kubeletConfig.merged_eq
  have reserved : config.spec.kubeletConfig.bind (·.reservedSystemCpus) =
      some profile.spec.cpu.reserved := by
    have text := Profile.reservedSystemCpus_of_kubeletConfig
      (Profile.components_eq_ok_iff.1 derived).2.1
    rw [← same]
    exact text
  refine ⟨config, found, reserved, ?_⟩
  have planned : Write.plan (after.cluster.peek KubeletConfig
      (storeKey (components.kubeletConfig.reserving cpus)))
      (components.kubeletConfig.reserving cpus) =
      if cpus = profile.spec.cpu.reserved then .unchanged
      else .update (config.reserving cpus) := by
    have own : storeKey (components.kubeletConfig.reserving cpus) = componentName profile.name :=
      placed.kubeletConfig.2
    have whole := KubeletConfig.merged_reserving same cpus
    rw [own, found]
    split
    · rename_i equal
      have kept := (KubeletConfig.reserving_eq_self_iff cpus reserved).2 equal
      exact Write.plan_of_merged_eq (whole.trans kept)
    · rename_i other
      have changed : merged config (components.kubeletConfig.reserving cpus) ≠ config := by
        rw [whole]
        exact fun kept => other ((KubeletConfig.reserving_eq_self_iff cpus reserved).1 kept)
      rw [Write.plan_of_merged_ne changed, whole]
  unfold Plan.ofCluster Components.reserving
  rw [machineConfig.plan_eq_unchanged placed.machineConfig, planned,
    tuned.plan_eq_unchanged placed.tuned, runtimeClass.plan_eq_unchanged placed.runtimeClass]

end Applied

section Respelled
variable {settings : Settings} {first second : Profile}

/-- A plan that only updates the kubelet config makes one call, if nothing is outdated. -/
theorem run_perform_kubeletConfig {config existing : KubeletConfig} {controller : Controller}
    (calm : controller.cluster.failures = .empty)
    (orderly : controller.cluster.Orderly fun _ => True)
    (current : ∀ place, ¬ controller.cluster.Outdated settings.tunedNamespace second place)
    (found : controller.cluster.peek KubeletConfig (storeKey config) = some existing) :
    ∃ later, (Plan.perform settings second ⟨.unchanged, .update config, .unchanged, .unchanged⟩).run
        controller = (.ok true, later) ∧
      later.cluster.calls =
        controller.cluster.calls ++ [⟨.update, .kubeletConfig, storeKey config⟩] := by
  have swept := Pass.run_onCluster
    (sweepTuned second settings.tunedNamespace (tunedName second.name)) controller
  rw [Cluster.run_sweepTuned_idle orderly trivial (Cluster.check_of_calm calm _ _) current] at swept
  obtain ⟨later, run, reached⟩ := Write.run_update (Cluster.check_of_calm calm _ _) found
  refine ⟨later, ?_, ?_⟩
  · have idle : ∀ {K : Type} [Component K] (controller : Controller),
        (Write.unchanged (K := K)).perform.run controller = (.ok (), controller) := fun _ => rfl
    rw [Plan.perform, run_bind_ok (idle controller), run_bind_ok swept,
      run_bind_ok (idle controller), run_bind_ok run, run_bind_ok (idle later)]
    rfl
  · rw [reached]
    rfl

/-- Components can be derived from both of two spellings of a profile or from neither, and they
differ only in the text of the reserved CPUs for the kubelet. So once those of the one have been
applied, whatever was made to fail, applying those of the other without failures writes nothing if
the reserved CPUs are spelled alike. If they are not, then it updates the kubelet config and writes
nothing else, unless an outdated tuned object is left to delete. -/
theorem applyComponents_respelled (respells : first.Respells second) (settings : Settings) :
    ((∃ components, first.components settings.tunedNamespace = .ok components) ↔
      ∃ components, second.components settings.tunedNamespace = .ok components) ∧
    (∀ one two, first.components settings.tunedNamespace = .ok one →
      second.components settings.tunedNamespace = .ok two →
        one.Respelled two first.spec.cpu.reserved second.spec.cpu.reserved) ∧
    ∀ (controller after : Controller) (written : Bool),
      controller.cluster.Orderly (fun _ => True) →
      (applyComponents settings first).run controller = (.ok written, after) →
        let again := (applyComponents settings second).run after.clearFailures
        (second.spec.cpu.reserved = first.spec.cpu.reserved →
          again = (.ok false, after.clearFailures)) ∧
        (second.spec.cpu.reserved ≠ first.spec.cpu.reserved →
          (∀ place, ¬ after.cluster.Outdated settings.tunedNamespace second place) →
          again.1 = .ok true ∧ again.2.cluster.calls =
            after.cluster.calls ++ [⟨.update, .kubeletConfig, componentName second.name⟩]) := by
  refine ⟨respells.derivable_iff _, fun _ _ => respells.respelled, ?_⟩
  intro controller after written orderly run again
  obtain ⟨components, derived⟩ := derived_of_applyComponents run
  obtain ⟨config, found, reserved, planned⟩ :=
    plan_reserving derived orderly run second.spec.cpu.reserved
  have calm : after.clearFailures.cluster.failures = .empty := rfl
  have tidy : after.clearFailures.cluster.Orderly fun _ => True := by
    have halfway := halfway_applyComponents derived orderly
    rw [run] at halfway
    exact halfway.orderly.of_objects after.cluster.peekAny_clearFailures
  have same : Plan.ofCluster (components.reserving second.spec.cpu.reserved)
      after.clearFailures.cluster = _ := planned
  have outcomes := run_applyComponents_cases (respells.components derived) after.clearFailures
  rw [same] at outcomes
  constructor
  · intro equal
    rw [if_pos equal] at outcomes
    obtain ⟨⟨_, blocked⟩, _⟩ | ⟨_, run⟩ | ⟨changed, _⟩ := outcomes
    · exact absurd (Cluster.check_of_calm calm _ _) blocked
    · exact run
    · cases changed
  · intro other current
    rw [if_neg other] at outcomes
    obtain ⟨⟨_, blocked⟩, _⟩ | ⟨unchanged, _⟩ | ⟨_, run⟩ := outcomes
    · exact absurd (Cluster.check_of_calm calm _ _) blocked
    · cases unchanged
    · have key : storeKey (config.reserving second.spec.cpu.reserved) =
          componentName second.name := by
        rw [respells.name_eq derived]
        exact (tidy.peek trivial found).2
      have current : ∀ place, ¬ after.clearFailures.cluster.Outdated settings.tunedNamespace second
          place :=
        fun place outdated => current place
          (outdated.congr (after.cluster.peekAny_clearFailures ..).symm)
      obtain ⟨later, performed, logged⟩ := run_perform_kubeletConfig calm tidy current
        (key ▸ respells.name_eq derived ▸ found)
      have whole : again = (.ok true, later) := run.trans performed
      rw [whole]
      exact ⟨rfl, key ▸ logged⟩

/-- The small profile with its lists spelled in another way, a label and a status. -/
def respelledProfile : Profile where
  metadata := { smallProfile.metadata with
    labels := some (SortedMap.empty.insert "team" "edge")
    finalizers := none }
  spec := smallProfile.spec.spelled "1,0" "2,3"
  status := some {}

theorem applyComponents_respelled_small :
    let start : Controller := {}
    let after := ((applyComponents {} smallProfile).run start).2
    let again := (applyComponents {} respelledProfile).run after.clearFailures
    smallProfile.Respells respelledProfile ∧
    start.cluster.Orderly (fun _ => True) ∧
    (∀ place, ¬ after.cluster.Outdated ({} : Settings).tunedNamespace respelledProfile place) ∧
    (applyComponents {} smallProfile).run start = (.ok true, after) ∧
    again.1 = .ok true ∧ again.2.cluster.calls =
      after.cluster.calls ++ [⟨.update, .kubeletConfig, "performance-small"⟩] := by
  intro start after again
  have orderly : start.cluster.Orderly fun _ => True := .empty
  have reserved : CpuSet.parse "1,0" = CpuSet.parse "0-1" := by decide +kernel
  have isolated : CpuSet.parse "2,3" = CpuSet.parse "2-3" := by decide +kernel
  have respells : smallProfile.Respells respelledProfile := {
    name := rfl
    uid := rfl
    spec := rfl
    reserved := fun cpus => iff_of_eq (congrArg (· = Except.ok cpus) reserved.symm)
    isolated := fun cpus => iff_of_eq (congrArg (· = Except.ok cpus) isolated.symm) }
  have run : (applyComponents {} smallProfile).run start = (.ok true, after) :=
    Prod.ext (by decide +kernel) rfl
  have current : ∀ place,
      ¬ after.cluster.Outdated ({} : Settings).tunedNamespace respelledProfile place := by
    rintro place ⟨_, uid, tuned, known, found, spaced, outdated⟩
    cases known
    have listed := Cluster.mem_outdatedTuned.2 ⟨⟨_, found⟩, spaced, outdated⟩
    have none : after.cluster.outdatedTuned ({} : Settings).tunedNamespace "1"
        (tunedName respelledProfile.name) = [] := by decide +kernel
    rw [none] at listed
    cases listed
  obtain ⟨_, _, applied⟩ := applyComponents_respelled respells {}
  obtain ⟨_, updated⟩ := applied start after true orderly run
  have other : respelledProfile.spec.cpu.reserved ≠ smallProfile.spec.cpu.reserved := by
    decide +kernel
  have key : componentName respelledProfile.name = "performance-small" := by decide +kernel
  rw [key] at updated
  have last := updated other current
  refine ⟨respells, orderly, current, run, ?_⟩
  rwa [show again = (applyComponents {} respelledProfile).run after.clearFailures from rfl]

end Respelled
end NodeTuning
