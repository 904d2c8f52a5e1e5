import NodeTuning.Proofs.Controller.Applied
import NodeTuning.Proofs.Controller.Reporting

/-!
One pass brings a cluster to what a profile asks for, from wherever it starts. Main statement: where
nothing is made to fail, a pass over a profile that is accepted and not paused succeeds, its
components are then stored as they should be, and its status says what the pools give reason to
report.
-/
namespace NodeTuning
open Steps Cluster.Action

namespace Cluster

theorem Within.poolsReport_eq {footprint : Footprint} {before after : Cluster}
    (within : Within footprint before after)
    (apart : ∀ key, ¬ footprint.Touches (.machineConfigPool, key)) (labels : Labels) :
    after.poolsReport labels = before.poolsReport labels := by
  have pools : after.pools = before.pools :=
    SortedMap.ext_find? fun key => within.peek_eq (K := MachineConfigPool) (apart key)
  have listed : after.poolsWith = before.poolsWith := by
    funext label
    simp only [poolsWith, pools]
  unfold poolsReport poolsFor
  rw [listed]

end Cluster

/-- The components are stored as they should be, each with all that it had before. -/
structure Converged (tunedNamespace profile : String) (components : Components)
    (before after : Cluster) : Prop where
  machineConfig : ∃ object, after.peek MachineConfig (machineConfigName profile) = some object ∧
    object.spec = components.machineConfig.spec ∧
    Realizes (before.peek MachineConfig (machineConfigName profile)) components.machineConfig object
  kubeletConfig : ∃ object, after.peek KubeletConfig (componentName profile) = some object ∧
    object.spec = components.kubeletConfig.spec ∧
    Realizes (before.peek KubeletConfig (componentName profile)) components.kubeletConfig object
  tuned : ∃ object, after.peek Tuned (tunedKey tunedNamespace profile) = some object ∧
    object.spec = components.tuned.spec ∧
    Realizes (before.peek Tuned (tunedKey tunedNamespace profile)) components.tuned object
  runtimeClass : ∃ object, after.peek RuntimeClass (componentName profile) = some object ∧
    object.handler = components.runtimeClass.handler ∧
    object.scheduling = components.runtimeClass.scheduling ∧
    object.overhead = components.runtimeClass.overhead ∧
    Realizes (before.peek RuntimeClass (componentName profile)) components.runtimeClass object

theorem Applied.later {tunedNamespace profile : String} {components : Components}
    {footprint : Footprint} {before middle after : Cluster}
    (applied : Applied tunedNamespace profile components before middle)
    (within : middle.Within footprint after)
    (apart : ∀ place : Place, place.1 ≠ .performanceProfile → ¬ footprint.Touches place) :
    Applied tunedNamespace profile components before after where
  machineConfig := applied.machineConfig.later within (apart _ (by simp))
  kubeletConfig := applied.kubeletConfig.later within (apart _ (by simp))
  tuned := applied.tuned.later within (apart _ (by simp))
  runtimeClass := applied.runtimeClass.later within (apart _ (by simp))

theorem Applied.converged {tunedNamespace profile : String} {components : Components}
    {before after : Cluster} (applied : Applied tunedNamespace profile components before after) :
    Converged tunedNamespace profile components before after := by
  obtain ⟨machineConfig, foundMachine, realizesMachine⟩ := applied.machineConfig
  obtain ⟨kubeletConfig, foundKubelet, realizesKubelet⟩ := applied.kubeletConfig
  obtain ⟨tuned, foundTuned, realizesTuned⟩ := applied.tuned
  obtain ⟨runtimeClass, foundClass, realizesClass⟩ := applied.runtimeClass
  refine ⟨⟨machineConfig, foundMachine, ?_, realizesMachine⟩,
    ⟨kubeletConfig, foundKubelet, ?_, realizesKubelet⟩, ⟨tuned, foundTuned, ?_, realizesTuned⟩,
    ⟨runtimeClass, foundClass, ?_, ?_, ?_, realizesClass⟩⟩
  · exact (congrArg MachineConfig.spec realizesMachine.spec).symm
  · exact (congrArg KubeletConfig.spec realizesKubelet.spec).symm
  · exact (congrArg Tuned.spec realizesTuned.spec).symm
  · exact (congrArg RuntimeClass.handler realizesClass.spec).symm
  · exact (congrArg RuntimeClass.scheduling realizesClass.spec).symm
  · exact (congrArg RuntimeClass.overhead realizesClass.spec).symm

section Pass
variable (settings : Settings) (now : Timestamp) {profile : Profile} {components : Components}
variable {controller : Controller}

def rollOutFootprint (tunedNamespace profile : String) : Footprint where
  writes := (· ∈ componentPlaces tunedNamespace profile)
  removes := (·.1 = .tuned)

theorem run_rollOut (controller : Controller)
    (derived : profile.components settings.tunedNamespace = .ok components)
    (calm : controller.cluster.failures = .empty)
    (orderly : controller.cluster.Orderly fun _ => True) :
    ∃ written after, (rollOut settings now profile).run controller = (.ok written, after) ∧
      controller.cluster.Within (rollOutFootprint settings.tunedNamespace profile.name)
        after.cluster ∧
      Applied settings.tunedNamespace profile.name components controller.cluster after.cluster := by
  have keeps : Keeps (Pass.Clusters (Guarded (Cluster.Orderly fun _ => True)
      (Cluster.Within (rollOutFootprint settings.tunedNamespace profile.name))))
      (applyComponents settings profile) :=
    orderly_applyComponents settings profile (fun _ _ => trivial) (fun _ => id) fun _ => rfl
  have within := (keeps controller orderly).2
  obtain ⟨written, after, run, applied⟩ :=
    run_applyComponents derived calm orderly fun _ _ => trivial
  rw [run] at within
  exact ⟨written, _, run_rollOut_applied run, within, applied⟩

theorem run_reportPools {labels : Labels} (labelled : profile.poolLabels = .ok labels)
    (calm : controller.cluster.failures = .empty)
    (found : controller.cluster.peek Profile profile.name = some profile)
    (own : storeKey profile = profile.name) (written : Bool) :
    ∃ after status, (reportPools settings now profile written).run controller =
        (.ok .done, after) ∧
      controller.cluster.Within { reports := (· = (.performanceProfile, profile.name)) }
        after.cluster ∧
      after.cluster.peek Profile profile.name = some { profile with status := some status } ∧
      status.Conveys settings.tunedNamespace profile.name
        (controller.cluster.poolsReport labels) := by
  obtain ⟨reported, pools, report⟩ := run_poolReport (Cluster.listable_of_calm calm _) labelled
  obtain ⟨after, status, run, within, stored, conveys⟩ := run_writeReport settings now calm
    found own (reported.getD .available)
  refine ⟨after, status, ?_, within, stored, report ▸ conveys⟩
  rw [run_reportPools_read written pools run]
  cases written <;> rfl

theorem storeKey_of_name {name : String} (named : profile.metadata.name = some name)
    (unspaced : profile.metadata.inNamespace = none) : storeKey profile = name := by
  simp [storeKey, Resource.metadata, named, unspaced, keyIn]

end Pass

/-- Where nothing is made to fail and every object sits under its own name, one pass over a profile
that is accepted and not paused succeeds, whatever the cluster held before. Its components are then
stored as they should be, and its status says what its pools give reason to report. -/
theorem reconcile_converges (settings : Settings) (now : Timestamp) (name : String)
    (controller : Controller) (profile : Profile) (components : Components)
    (calm : controller.cluster.failures = .empty)
    (orderly : controller.cluster.Orderly fun _ => True)
    (found : controller.cluster.peek Profile name = some profile)
    (unspaced : profile.metadata.inNamespace = none) (accepts : settings.Accepts profile)
    (unpaused : profile.isPaused = false)
    (derived : profile.components settings.tunedNamespace = .ok components) :
    let pass := controller.reconcile settings now name
    pass.1 = .ok .done ∧
    Converged settings.tunedNamespace name components controller.cluster pass.2.cluster ∧
    ∃ labels status, profile.poolLabels = .ok labels ∧
      pass.2.cluster.peek Profile name = some { profile with status := some status } ∧
      status.Conveys settings.tunedNamespace name (controller.cluster.poolsReport labels) := by
  intro pass
  obtain ⟨result, cluster, _⟩ := Controller.reconcile_passed settings now name controller
  have named := orderly.name_of_peek trivial found unspaced
  have own := storeKey_of_name named unspaced
  obtain rfl : profile.name = name := Profile.name_of_metadata named
  obtain ⟨labels, labelled⟩ := Profile.poolLabels_of_components derived
  have read : controller.cluster.read Profile profile.name = .ok profile :=
    Cluster.read_eq_ok_iff.2 ⟨Cluster.check_of_calm calm _ _, found⟩
  obtain ⟨written, middle, rolled, toMiddle, applied⟩ :=
    run_rollOut settings now controller.counted derived calm orderly
  have kept : middle.cluster.peek Profile profile.name = some profile :=
    (toMiddle.peek_eq (by simp [Footprint.Touches, rollOutFootprint, componentPlaces])).trans found
  obtain ⟨after, status, reported, toAfter, stored, conveys⟩ := run_reportPools settings now
    labelled (toMiddle.failures.trans calm) kept own written
  have passed : controller.passed settings now profile.name = (.ok .done, after) := by
    rw [Controller.passed_found settings now read, reconcileProfile_accepted now accepts unpaused,
      run_bind_ok rolled, reported]
  rw [passed] at result cluster
  have report : middle.cluster.poolsReport labels = controller.cluster.poolsReport labels :=
    toMiddle.poolsReport_eq
      (by simp [Footprint.Touches, rollOutFootprint, componentPlaces]) labels
  refine ⟨result, ?_, labels, status, labelled, cluster ▸ stored, report ▸ conveys⟩
  have still : Applied settings.tunedNamespace profile.name components controller.cluster
      after.cluster := by
    apply applied.later toAfter
    intro place other
    simp only [Footprint.Touches, false_or, or_false]
    rintro rfl
    exact other rfl
  exact cluster ▸ still.converged

/-- A cluster with a component of the profile that others have changed. -/
def drifted : Cluster :=
  let labels := SortedMap.empty.insert "team" "blue"
  let component : RuntimeClass :=
    ⟨{ name := some (componentName "small"), labels }, "other", none, none⟩
  (Cluster.put {} component).put smallProfile

theorem reconcile_converges_drifted :
    let controller : Controller := { cluster := drifted }
    ∃ components, smallProfile.components Config.defaultTunedNamespace = .ok components ∧
      drifted.Orderly (fun _ => True) ∧ ({} : Settings).Accepts smallProfile ∧
      Converged Config.defaultTunedNamespace "small" components drifted
        (controller.reconcile {} default "small").2.cluster := by
  intro controller
  have orderly : drifted.Orderly fun _ => True := (Cluster.Orderly.empty.put rfl).put rfl
  have accepts : ({} : Settings).Accepts smallProfile := ⟨rfl, rfl, by decide +kernel⟩
  cases derived : smallProfile.components Config.defaultTunedNamespace with
  | error fault =>
    have ok : (smallProfile.components Config.defaultTunedNamespace).isOk = true := by
      decide +kernel
    rw [derived] at ok
    cases ok
  | ok components =>
    have converges := reconcile_converges {} default "small" controller smallProfile components
      rfl orderly rfl rfl accepts rfl derived
    exact ⟨components, rfl, orderly, accepts, converges.2.1⟩

end NodeTuning
