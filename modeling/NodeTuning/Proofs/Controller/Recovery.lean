import NodeTuning.Proofs.Controller.Branches
import NodeTuning.Proofs.Controller.Interruption

/-!
Applying components again after it has failed. Main statement: the next run without failures ends
where one from the start would have ended, but for outdated tuned objects if the failed run left
nothing to write.
-/
namespace NodeTuning
open Stored Steps Cluster.Action

section Runs
variable {settings : Settings} {profile : Profile} {components : Components}
variable {controller after : Controller}

theorem Plan.swept_of_perform {plan : Plan} {written : Bool}
    (targets : plan.Targets settings.tunedNamespace profile.name)
    (orderly : controller.cluster.Orderly fun _ => True)
    (immediate : controller.cluster.deferredDeletion = false)
    (run : (plan.perform settings profile).run controller = (.ok written, after)) :
    written = true ∧ ∀ place,
      controller.cluster.Outdated settings.tunedNamespace profile place →
        after.cluster.peekAny place.1 place.2 = none := by
  obtain ⟨rfl, one, two, three, four, stages⟩ := Plan.stages_of_perform targets orderly run
  refine ⟨rfl, fun place outdated => ?_⟩
  have foreign := outdated.unowned orderly trivial
  have apart : ∀ own ∈ componentPlaces settings.tunedNamespace profile.name,
      ¬ Footprint.Touches { writes := (· = own) } place := by
    intro own member touched
    have here : place = own := by simpa [Footprint.Touches] using touched
    exact foreign (here ▸ List.mem_cons_of_mem _ member)
  -- The first write leaves what is outdated alone, the sweep takes it, and nothing brings it back.
  have early : one.cluster.Outdated settings.tunedNamespace profile place :=
    outdated.congr (stages.toOne.peekAny_eq (apart _ (by simp [componentPlaces])))
  have gone := stages.swept.taken (stages.toOne.deferredDeletion.trans immediate) place early
  have afterTuned :=
    (stages.toThree.peekAny_eq (apart _ (by simp [componentPlaces]))).trans gone
  have afterKubelet :=
    (stages.toFour.peekAny_eq (apart _ (by simp [componentPlaces]))).trans afterTuned
  exact (stages.toAfter.peekAny_eq (apart _ (by simp [componentPlaces]))).trans afterKubelet

/-- What a run that goes through leaves, and whether it has written anything. -/
structure Components.RolledOut (components : Components) (tunedNamespace : String)
    (profile : Profile) (written : Bool) (start after : Cluster) : Prop where
  own : ∀ place ∈ componentPlaces tunedNamespace profile.name,
    components.SettledAt tunedNamespace profile.name start after place
  swept : written = true → ∀ place, start.Outdated tunedNamespace profile place →
    after.peekAny place.1 place.2 = none
  stays : ∀ place, place ∉ componentPlaces tunedNamespace profile.name →
    written = false ∨ ¬ start.Outdated tunedNamespace profile place →
      after.peekAny place.1 place.2 = start.peekAny place.1 place.2

/-- A run without failures goes through. It writes if some component differs. -/
theorem run_applyComponents_calm (controller : Controller)
    (derived : profile.components settings.tunedNamespace = .ok components)
    (calm : controller.cluster.failures = .empty)
    (orderly : controller.cluster.Orderly fun _ => True)
    (immediate : controller.cluster.deferredDeletion = false) :
    let written := !(Plan.ofCluster components controller.cluster).isUnchanged
    ∃ after, (applyComponents settings profile).run controller = (.ok written, after) ∧
      components.RolledOut settings.tunedNamespace profile written controller.cluster
        after.cluster := by
  intro written
  have placed := Profile.components_placed derived
  obtain ⟨result, after, run, -⟩ :=
    run_applyComponents derived calm orderly fun _ _ => trivial
  have halfway := halfway_applyComponents derived orderly
  rw [run] at halfway
  have own := settled_applyComponents derived orderly run
  obtain ⟨⟨_, blocked⟩, _⟩ | ⟨unchanged, quiet⟩ | ⟨changed, performed⟩ :=
    run_applyComponents_cases derived controller
  · exact absurd (Cluster.check_of_calm calm _ _) blocked
  · rw [run] at quiet
    cases quiet
    have nothing : written = false := by simp [written, unchanged]
    rw [nothing]
    exact ⟨_, run, own, fun impossible => absurd impossible (by simp), fun _ _ _ => rfl⟩
  · have targets := Plan.ofCluster_targets placed (fun _ _ => trivial) orderly
    rw [run] at performed
    obtain ⟨rfl, gone⟩ := Plan.swept_of_perform targets orderly immediate performed.symm
    have something : written = true := by simp [written, changed]
    rw [something]
    refine ⟨after, run, own, fun _ => gone, fun place foreign spared => ?_⟩
    rcases halfway.rest place foreign with same | ⟨outdated, _⟩
    · exact same
    · exact absurd outdated (spared.resolve_left (by simp))

end Runs

theorem Cluster.peekAny_clearFailures (cluster : Cluster) (kind : Kind) (key : String) :
    cluster.clearFailures.peekAny kind key = cluster.peekAny kind key := by
  cases kind <;> rfl

namespace Components
variable {components : Components} {tunedNamespace : String} {profile : Profile}
variable {written intended : Bool} {start failed again direct : Cluster}

theorem RolledOut.of_clearFailures
    (rolled : components.RolledOut tunedNamespace profile written start.clearFailures again) :
    components.RolledOut tunedNamespace profile written start again := by
  have same := start.peekAny_clearFailures
  refine ⟨fun place own => (rolled.own place own).rebase (.inl (same ..)), ?_, ?_⟩
  · exact fun wrote place outdated => rolled.swept wrote place (outdated.congr (same ..))
  · intro place foreign spared
    have still : written = false ∨
        ¬ start.clearFailures.Outdated tunedNamespace profile place :=
      spared.imp_right fun kept outdated => kept (outdated.congr (same ..).symm)
    exact (rolled.stays place foreign still).trans (same ..)

/-- Where a run from halfway and a run from the start end, place by place. A run from the start with
nothing to write gets nowhere before it fails. -/
theorem Halfway.meets (halfway : components.Halfway tunedNamespace profile start failed)
    (rolled : components.RolledOut tunedNamespace profile written failed again)
    (meant : components.RolledOut tunedNamespace profile intended start direct)
    (idle : intended = false → written = false ∧ failed = start) (place : Place) :
    (again.peekAny place.1 place.2).map AnyObject.unversioned =
        (direct.peekAny place.1 place.2).map AnyObject.unversioned ∨
      written = false ∧ intended = true ∧ failed.Outdated tunedNamespace profile place ∧
        again.peekAny place.1 place.2 = failed.peekAny place.1 place.2 := by
  by_cases own : place ∈ componentPlaces tunedNamespace profile.name
  · have settled := (rolled.own place own).rebase (halfway.own place own)
    exact .inl (settled.agree (meant.own place own))
  -- Elsewhere the runs differ only in which of them has swept what is outdated.
  rcases halfway.rest place own with kept | ⟨outdated, gone⟩
  · by_cases outdated : start.Outdated tunedNamespace profile place
    · cases wrote : written with
      | true =>
        have wanted : intended = true := by
          by_contra nothing
          have none := (idle (by simpa using nothing)).1
          rw [wrote] at none
          cases none
        rw [rolled.swept wrote place (outdated.congr kept), meant.swept wanted place outdated]
        exact .inl rfl
      | false =>
        have left := rolled.stays place own (.inl wrote)
        cases wanted : intended with
        | true => exact .inr ⟨rfl, rfl, outdated.congr kept, left⟩
        | false =>
          rw [left, kept, meant.stays place own (.inl wanted)]
          exact .inl rfl
    · have spared : ¬ failed.Outdated tunedNamespace profile place :=
        fun reached => outdated (reached.congr kept.symm)
      rw [rolled.stays place own (.inr spared), kept, meant.stays place own (.inr outdated)]
      exact .inl rfl
  · have spared : ¬ failed.Outdated tunedNamespace profile place := by
      intro reached
      have held := Cluster.holds_of_outdated reached
      simp [Cluster.holds, gone] at held
    have wanted : intended = true := by
      by_contra nothing
      have same := (idle (by simpa using nothing)).2
      exact spared (same ▸ outdated)
    rw [rolled.stays place own (.inr spared), gone, meant.swept wanted place outdated]
    exact .inl rfl

end Components

def Controller.clearFailures (controller : Controller) : Controller :=
  { controller with cluster := controller.cluster.clearFailures }

theorem failed_eq_of_isUnchanged {settings : Settings} {profile : Profile} {components : Components}
    {controller failed : Controller} {fault : ControllerError}
    (derived : profile.components settings.tunedNamespace = .ok components)
    (run : (applyComponents settings profile).run controller = (.error fault, failed))
    (unchanged : (Plan.ofCluster components controller.cluster).isUnchanged = true) :
    failed = controller := by
  obtain ⟨_, _, unread⟩ | ⟨_, quiet⟩ | ⟨changed, _⟩ := run_applyComponents_cases derived controller
  · rw [run] at unread
    cases unread
    rfl
  · rw [run] at quiet
    cases quiet
  · rw [unchanged] at changed
    cases changed

/-- Once a run has failed, the next run without failures goes through and leaves what a run from the
start would have left without failures, but for uids and versions. The one exception are outdated
tuned objects if the failed run has left nothing to write: then the next run leaves them there. -/
theorem applyComponents_recovers (settings : Settings) (profile : Profile) (components : Components)
    (controller failed : Controller) (fault : ControllerError)
    (orderly : controller.cluster.Orderly fun _ => True)
    (immediate : controller.cluster.deferredDeletion = false)
    (derived : profile.components settings.tunedNamespace = .ok components)
    (run : (applyComponents settings profile).run controller = (.error fault, failed)) :
    ∃ written again intended direct,
      (applyComponents settings profile).run failed.clearFailures = (.ok written, again) ∧
      (applyComponents settings profile).run controller.clearFailures = (.ok intended, direct) ∧
      ∀ place, (again.cluster.peekAny place.1 place.2).map AnyObject.unversioned =
          (direct.cluster.peekAny place.1 place.2).map AnyObject.unversioned ∨
        written = false ∧ intended = true ∧
          failed.cluster.Outdated settings.tunedNamespace profile place ∧
          again.cluster.peekAny place.1 place.2 = failed.cluster.peekAny place.1 place.2 := by
  have halfway := halfway_applyComponents derived orderly
  rw [run] at halfway
  obtain ⟨again, retried, rolled⟩ := run_applyComponents_calm failed.clearFailures derived rfl
    (halfway.orderly.of_objects failed.cluster.peekAny_clearFailures)
    (halfway.deferredDeletion.trans immediate)
  obtain ⟨direct, straight, meant⟩ := run_applyComponents_calm controller.clearFailures derived rfl
    (orderly.of_objects controller.cluster.peekAny_clearFailures) immediate
  refine ⟨_, again, _, direct, retried, straight, fun place => ?_⟩
  refine halfway.meets rolled.of_clearFailures meant.of_clearFailures (fun nothing => ?_) place
  have unchanged : (!(Plan.ofCluster components controller.cluster).isUnchanged) = false := nothing
  have idle := failed_eq_of_isUnchanged derived run (by simpa using unchanged)
  subst idle
  exact ⟨nothing, rfl⟩

/-- All components but the machine config are there, and so is a tuned object of an old name. Tuned
objects can't be listed. -/
def Components.unswept (components : Components) : Cluster :=
  let tuneds := (Cluster.put {} components.tuned).put formerTuned
  let others := (tuneds.put components.kubeletConfig).put components.runtimeClass
  others.failOn (operationName .list .tuned) "down"

private theorem exists_components : ∃ components,
    smallProfile.components Config.defaultTunedNamespace = .ok components := by
  apply except_isOk_iff.1
  decide +kernel

section Unswept
variable {components : Components}

private theorem orderly_unswept
    (placed : components.Placed Config.defaultTunedNamespace smallProfile.name) :
    components.unswept.Orderly fun _ => True := by
  have named : (Resource.metadata formerTuned).name.isSome := rfl
  have empty : Cluster.Orderly (fun _ => True) {} := .empty
  have tuneds := (empty.put (K := Tuned) placed.tuned.1).put named
  have others :=
    (tuneds.put (K := KubeletConfig) placed.kubeletConfig.1).put (K := RuntimeClass)
      placed.runtimeClass.1
  refine others.of_objects fun kind key => ?_
  cases kind <;> rfl

private theorem check_unswept {verb : Verb} {kind : Kind}
    (different : operationName verb kind ≠ operationName .list .tuned) :
    components.unswept.check verb kind = .ok () := by
  have undisturbed : components.unswept.failures.find? (operationName verb kind) = none :=
    (SortedMap.find?_insert_of_ne _ _ different).trans (SortedMap.find?_empty _)
  unfold Cluster.check
  rw [undisturbed]

private theorem list_unswept :
    components.unswept.check .list .tuned = .error (.failed "down") := by
  have disturbed : components.unswept.failures.find? (operationName .list .tuned) = some "down" :=
    SortedMap.find?_insert_self ..
  unfold Cluster.check
  rw [disturbed]

/-- As long as only the machine config is written, the other components need no change. -/
private theorem plan_unswept {after : Cluster}
    (placed : components.Placed Config.defaultTunedNamespace smallProfile.name)
    (within : components.unswept.Within
      { writes := (· = (.machineConfig, machineConfigName "small")) } after) :
    Plan.ofCluster components after = {
      machineConfig := .plan (after.peek MachineConfig (storeKey components.machineConfig))
        components.machineConfig
      kubeletConfig := .unchanged
      tuned := .unchanged
      runtimeClass := .unchanged } := by
  have kubeletConfig : after.peek KubeletConfig (storeKey components.kubeletConfig) =
      some components.kubeletConfig :=
    (within.peek_eq (by simp [Footprint.Touches])).trans (SortedMap.find?_insert_self ..)
  have runtimeClass : after.peek RuntimeClass (storeKey components.runtimeClass) =
      some components.runtimeClass :=
    (within.peek_eq (by simp [Footprint.Touches])).trans (SortedMap.find?_insert_self ..)
  have tuned : after.peek Tuned (storeKey components.tuned) = some components.tuned := by
    have own : storeKey components.tuned = tunedKey Config.defaultTunedNamespace "small" :=
      placed.tuned.2
    have apart : storeKey components.tuned ≠ storeKey formerTuned := by
      rw [own]
      decide +kernel
    refine (within.peek_eq (by simp [Footprint.Touches])).trans ?_
    exact (SortedMap.find?_insert_of_ne _ _ apart).trans (SortedMap.find?_insert_self ..)
  unfold Plan.ofCluster
  rw [kubeletConfig, runtimeClass, tuned, (realizes_desired _).plan_eq_unchanged,
    (realizes_desired _).plan_eq_unchanged, (realizes_desired _).plan_eq_unchanged]

private theorem changed_unswept
    (placed : components.Placed Config.defaultTunedNamespace smallProfile.name) :
    (Plan.ofCluster components components.unswept).isUnchanged = false := by
  have absent : components.unswept.peek MachineConfig (storeKey components.machineConfig) = none :=
    SortedMap.find?_empty _
  rw [plan_unswept placed (.refl ..), absent]
  rfl

/-- The machine config is created before the listing fails, and then nothing is left to write. -/
private theorem run_unswept
    (derived : smallProfile.components Config.defaultTunedNamespace = .ok components) :
    ∃ fault failed, (applyComponents {} smallProfile).run { cluster := components.unswept } =
        (.error fault, failed) ∧
      components.unswept.Within { writes := (· = (.machineConfig, machineConfigName "small")) }
        failed.cluster ∧
      (Plan.ofCluster components failed.cluster).isUnchanged = true := by
  have placed := Profile.components_placed derived
  let start : Controller := { cluster := components.unswept }
  have planned := plan_unswept placed (Cluster.Within.refl _ components.unswept)
  have derives : smallProfile.components ({} : Settings).tunedNamespace = .ok components := derived
  obtain ⟨⟨kind, blocked⟩, _⟩ | ⟨unchanged, _⟩ | ⟨_, performed⟩ :=
    run_applyComponents_cases derives start
  · refine absurd (check_unswept ?_) blocked
    cases kind <;> decide +kernel
  · rw [changed_unswept placed] at unchanged
    cases unchanged
  have allowed : components.unswept.check .create (Resource.kind MachineConfig) = .ok () :=
    check_unswept (by decide +kernel)
  have absent : components.unswept.peek MachineConfig (storeKey components.machineConfig) = none :=
    SortedMap.find?_empty _
  have writes : ∃ after,
      (Write.create components.machineConfig).perform.run start = (.ok (), after) ∧
      after.cluster.peek MachineConfig (storeKey components.machineConfig) =
        some (components.unswept.asCreated components.machineConfig) :=
    Write.run_create allowed absent
  obtain ⟨created, create, found⟩ := writes
  have targets : (Write.create components.machineConfig).Targets (machineConfigName "small") :=
    placed.machineConfig
  have orderly : start.cluster.Orderly fun _ => True := orderly_unswept placed
  have within := (Write.within_perform targets orderly).2
  rw [create] at within
  have list : created.cluster.check .list .tuned = .error (.failed "down") :=
    (Cluster.check_congr within.failures ..).trans list_unswept
  have sweep : (sweepTuned smallProfile Config.defaultTunedNamespace (tunedName "small")).run
      created.cluster = (.error (.failed "down"), created.cluster) :=
    Cluster.run_sweepTuned_unlisted rfl list
  have swept := Pass.run_onCluster
    (sweepTuned smallProfile Config.defaultTunedNamespace (tunedName "small")) created
  rw [sweep] at swept
  have failed : (Plan.perform {} smallProfile (Plan.ofCluster components start.cluster)).run start =
      (.error (.cluster (.failed "down")), created) := by
    rw [planned]
    exact (run_bind_ok create _).trans (run_bind_error swept _)
  refine ⟨_, created, performed.trans failed, within, ?_⟩
  rw [plan_unswept placed within, found,
    (realizes_asCreated start.cluster components.machineConfig).plan_eq_unchanged]
  rfl

end Unswept

/-- The next run deletes no tuned object, as the failed one has created the machine config. A run
without failures deletes the old one. -/
theorem retry_misses_formerTuned :
    ∃ components fault failed again direct,
      let start : Controller := { cluster := components.unswept }
      smallProfile.components Config.defaultTunedNamespace = .ok components ∧
      start.cluster.Orderly (fun _ => True) ∧ start.cluster.deferredDeletion = false ∧
      (applyComponents {} smallProfile).run start = (.error fault, failed) ∧
      (applyComponents {} smallProfile).run failed.clearFailures = (.ok false, again) ∧
      (applyComponents {} smallProfile).run start.clearFailures = (.ok true, direct) ∧
      again.cluster.peek Tuned (storeKey formerTuned) = some formerTuned ∧
      direct.cluster.peek Tuned (storeKey formerTuned) = none := by
  obtain ⟨components, derived⟩ := exists_components
  have placed := Profile.components_placed derived
  have orderly := orderly_unswept placed
  let start : Controller := { cluster := components.unswept }
  obtain ⟨fault, failed, run, within, unchanged⟩ := run_unswept derived
  have kept : start.cluster.peek Tuned (storeKey formerTuned) = some formerTuned :=
    SortedMap.find?_insert_self ..
  have derives : smallProfile.components ({} : Settings).tunedNamespace = .ok components := derived
  obtain ⟨⟨_, blocked⟩, _⟩ | ⟨_, retried⟩ | ⟨changed, _⟩ :=
    run_applyComponents_cases derives failed.clearFailures
  · exact absurd (Cluster.check_of_calm rfl _ _) blocked
  · obtain ⟨direct, straight, rolled⟩ := run_applyComponents_calm start.clearFailures derives rfl
      (orderly.of_objects components.unswept.peekAny_clearFailures) rfl
    have written : (!(Plan.ofCluster components start.clearFailures.cluster).isUnchanged) = true :=
      congrArg not (changed_unswept placed)
    rw [written] at straight rolled
    have outdated : start.clearFailures.cluster.Outdated Config.defaultTunedNamespace smallProfile
        (.tuned, storeKey formerTuned) :=
      ⟨rfl, "1", formerTuned, rfl, kept, rfl, by decide +kernel⟩
    have gone := rolled.swept rfl _ outdated
    refine ⟨components, fault, failed, failed.clearFailures, direct, derived, orderly, rfl, run,
      retried, straight, ?_, ?_⟩
    · exact (within.peek_eq (by simp [Footprint.Touches])).trans kept
    · exact Option.map_eq_none_iff.1 gone
  · rw [show (Plan.ofCluster components failed.clearFailures.cluster).isUnchanged = true from
      unchanged] at changed
    cases changed

theorem applyComponents_recovers_unswept :
    ∃ components fault failed written again,
      let start : Controller := { cluster := components.unswept }
      start.cluster.Orderly (fun _ => True) ∧ start.cluster.deferredDeletion = false ∧
      smallProfile.components Config.defaultTunedNamespace = .ok components ∧
      (applyComponents {} smallProfile).run start = (.error fault, failed) ∧
      (applyComponents {} smallProfile).run failed.clearFailures = (.ok written, again) := by
  obtain ⟨components, derived⟩ := exists_components
  have orderly := orderly_unswept (Profile.components_placed derived)
  obtain ⟨fault, failed, run, _⟩ := run_unswept derived
  obtain ⟨written, again, _, _, retried, _⟩ := applyComponents_recovers {} smallProfile components _
    failed fault orderly rfl derived run
  exact ⟨components, fault, failed, written, again, orderly, rfl, derived, run, retried⟩

end NodeTuning
