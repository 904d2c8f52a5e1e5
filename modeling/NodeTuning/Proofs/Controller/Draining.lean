import NodeTuning.Proofs.Controller.Branches
import NodeTuning.Proofs.Controller.Removal

/-!
A pass over a profile that is being deleted. Main statement: the finalizer goes exactly when no
component is left, and every other end of the pass leaves the profile as it is.
-/
namespace NodeTuning
open Steps Cluster.Action

section Finalizing
variable {profile : Profile}

private theorem run_release_cases (profile : Profile) (controller : Controller) :
    let release : Pass Outcome := do
      let _ ← Pass.onCluster (.ofWrite (Cluster.updateProfile · profile.dropFinalizer))
      Pass.change (·.forgetRetry profile.name)
      return .done
    (∃ fault, release.run controller = (.error fault, controller) ∧
      (controller.cluster.failures = .empty →
        controller.cluster.peek Profile profile.name = none)) ∨
    (∃ after updated, release.run controller = (.ok .done, after) ∧
      controller.cluster.updateProfile profile.dropFinalizer = .ok (updated, after.cluster)) := by
  intro release
  have written := Pass.run_onCluster
    (.ofWrite (Cluster.updateProfile · profile.dropFinalizer)) controller
  obtain ⟨updated, after, ok, run⟩ | ⟨fault, failed, run⟩ :=
    run_ofWrite_cases (Cluster.updateProfile · profile.dropFinalizer) controller.cluster
  · rw [run] at written
    exact .inr ⟨_, updated, run_bind_ok written _, ok⟩
  · rw [run] at written
    refine .inl ⟨_, run_bind_error written _, fun calm => ?_⟩
    have missing := Cluster.updateProfile_error failed calm
    exact missing

/-- How a pass over a deleted profile can end. Without failures it fails only for a profile that
is not there. -/
theorem run_finalize_cases (settings : Settings) (adopted : profile.hasFinalizer = true)
    (controller : Controller) :
    let places := componentPlaces settings.tunedNamespace profile.name
    let left := controller.cluster.drained settings.tunedNamespace profile.name
    (∃ fault after, (finalize settings profile).run controller = (.error fault, after) ∧
      controller.cluster.Within { removes := (· ∈ places) } after.cluster ∧
      (controller.cluster.failures = .empty →
        controller.cluster.peek Profile profile.name = none)) ∨
    (∃ after, (finalize settings profile).run controller =
        (.ok (.requeueAfter removalDelay), after) ∧
      after.cluster = left ∧ left.holdsAny places = true) ∨
    (∃ after updated, (finalize settings profile).run controller = (.ok .done, after) ∧
      left.holdsAny places = false ∧
      left.updateProfile profile.dropFinalizer = .ok (updated, after.cluster)) := by
  intro places left
  have removes : controller.cluster.Within { removes := (· ∈ places) }
      ((deleteComponents settings.tunedNamespace profile.name).run controller.cluster).2 :=
    keeps_deleteComponents _ _ (fun K _ _ key member => keeps_ensureDeleted member)
      controller.cluster
  have attempted := Pass.run_attemptOnCluster
    (deleteComponents settings.tunedNamespace profile.name) controller
  unfold finalize
  rw [if_neg (by simp [adopted])]
  obtain deleted | ⟨disturbed, fault, after, failed⟩ :=
    gives_deleteComponents settings.tunedNamespace profile.name controller.cluster
  · rw [deleted] at attempted removes
    rw [run_bind_ok attempted]
    dsimp only
    rw [run_bind_ok (Pass.run_tell _ _ _ _ _)]
    have searched := Pass.run_onCluster
      (componentsExist settings.tunedNamespace profile.name)
      { controller with
        cluster := left
        events := controller.events ++ [⟨profile.name, .normal, "Deletion succeeded",
          "Succeeded to delete all components"⟩] }
    -- The search only reads, so the finalizer is dropped from what the deletions have left.
    obtain exist | ⟨disturbed, fault, last, failed⟩ :=
      gives_componentsExist settings.tunedNamespace profile.name left
    · rw [exist] at searched
      rw [run_bind_ok searched]
      cases held : left.holdsAny places with
      | true => exact .inr (.inl ⟨_, rfl, rfl, rfl⟩)
      | false =>
        obtain ⟨fault, run, calm⟩ | ⟨after, updated, run, released⟩ :=
          run_release_cases profile { controller with
            cluster := left
            events := controller.events ++ [⟨profile.name, .normal, "Deletion succeeded",
              "Succeeded to delete all components"⟩] }
        · refine .inl ⟨fault, _, run, removes, fun undisturbed => ?_⟩
          rw [← peek_profile_drained settings.tunedNamespace profile.name]
          exact calm (by simpa [left] using undisturbed)
        · exact .inr (.inr ⟨after, updated, run, rfl, released⟩)
    · have unmoved : Keeps Eq (componentsExist settings.tunedNamespace profile.name) :=
        keeps_componentsExist _ _
      have stayed := unmoved left
      rw [failed] at searched stayed
      rw [run_bind_error searched]
      refine .inl ⟨_, _, rfl, ?_, fun calm => absurd calm (by simpa [left] using disturbed)⟩
      exact stayed ▸ removes
  · rw [failed] at attempted removes
    rw [run_bind_ok attempted]
    dsimp only
    rw [run_bind_ok (Pass.run_tell _ _ _ _ _)]
    exact .inl ⟨_, _, rfl, removes, fun calm => absurd calm disturbed⟩

end Finalizing

/-- A profile that is stored under its name, is being deleted and still carries the finalizer. -/
structure Cluster.Deleting (cluster : Cluster) (name : String) (profile : Profile) : Prop where
  found : cluster.peek Profile name = some profile
  named : profile.metadata.name = some name
  unspaced : profile.metadata.inNamespace = none
  deleted : profile.metadata.deletionTimestamp.isSome
  adopted : profile.hasFinalizer = true

/-- What a pass over a deleted profile leaves behind, by its result. -/
def Drains (tunedNamespace : String) (profile : Profile)
    (result : Except ControllerError Outcome) (after : Cluster) : Prop :=
  let places := componentPlaces tunedNamespace profile.name
  let remaining := (Resource.finalizers profile).filter (· ≠ finalizer)
  match result with
  | .ok .done => after.holdsAny places = false ∧ after.peek Profile profile.name =
      if remaining = [] then none else some (profile.withFinalizers remaining)
  | .ok (.requeueAfter seconds) => seconds = 10 ∧ after.holdsAny places = true ∧
      after.peek Profile profile.name = some profile
  | .error _ => after.peek Profile profile.name = some profile

section Draining
variable {settings : Settings} {name : String} {profile : Profile}

theorem peek_updateProfile_dropFinalizer {cluster after : Cluster} {updated : Profile}
    (deleting : cluster.Deleting name profile)
    (released : cluster.updateProfile profile.dropFinalizer = .ok (updated, after)) :
    after.peek Profile name =
      if (Resource.finalizers profile).filter (· ≠ finalizer) = [] then none
      else some profile.dropFinalizer := by
  obtain ⟨_, existing, found, rfl, rfl⟩ := Cluster.updateProfile_eq_ok_iff.1 released
  have shown : profile.dropFinalizer.name = name := Profile.name_of_metadata deleting.named
  have own : storeKey profile.dropFinalizer = name := by
    simp [storeKey, Profile.dropFinalizer, Profile.withFinalizers, Resource.metadata,
      deleting.named, deleting.unspaced, keyIn]
  rw [shown, deleting.found] at found
  cases found
  change (Cluster.record (if profile.dropFinalizer.isReleased then _
    else cluster.put profile.dropFinalizer) _ _ _).peek Profile name = _
  have released : profile.dropFinalizer.isReleased =
      ((Resource.finalizers profile).filter (· ≠ finalizer)).isEmpty := by
    simp [Profile.isReleased, Profile.dropFinalizer, Profile.withFinalizers, Resource.finalizers,
      Resource.metadata, deleting.deleted]
  rw [Cluster.peek_record, released, shown]
  cases (Resource.finalizers profile).filter (· ≠ finalizer) with
  | nil => simp
  | cons first rest => simp [own]

theorem Cluster.Deleting.drained {cluster : Cluster} (deleting : cluster.Deleting name profile)
    (tunedNamespace : String) : (cluster.drained tunedNamespace name).Deleting name profile :=
  { deleting with found := (peek_profile_drained ..).trans deleting.found }

theorem Cluster.Deleting.collectGarbage {cluster : Cluster}
    (deleting : cluster.Deleting name profile) : cluster.collectGarbage.Deleting name profile := by
  refine { deleting with found := ?_ }
  rw [← deleting.found]
  exact Cluster.peek_congr (by simp [Cluster.peekAny_collectGarbage])

theorem holdsAny_updateProfile {cluster after : Cluster} {updated next : Profile}
    (ok : cluster.updateProfile next = .ok (updated, after)) (tunedNamespace owner : String) :
    after.holdsAny (componentPlaces tunedNamespace owner) =
      cluster.holdsAny (componentPlaces tunedNamespace owner) := by
  apply Cluster.holdsAny_congr
  intro place member
  have other := (kind_of_mem_componentPlaces member).1
  obtain ⟨_, existing, found, rfl, rfl⟩ := Cluster.updateProfile_eq_ok_iff.1 ok
  rw [Cluster.holds_record]
  split
  · simp [Cluster.holds, Cluster.peekAny_remove, other]
  · simp [Cluster.holds, Cluster.peekAny_put, other]

theorem passed_drains (now : Timestamp) {controller : Controller}
    (deleting : controller.cluster.Deleting name profile) :
    Drains settings.tunedNamespace profile (controller.passed settings now name).1
      (controller.passed settings now name).2.cluster := by
  obtain rfl : profile.name = name := Profile.name_of_metadata deleting.named
  obtain ⟨fault, _, run⟩ | ⟨_, absent, _⟩ | ⟨found, read, run⟩ :=
    Controller.passed_cases settings now profile.name controller
  · rw [run]
    exact deleting.found
  · rw [deleting.found] at absent
    cases absent
  · have same := (Cluster.read_eq_ok_iff.1 read).2
    rw [deleting.found] at same
    cases same
    rw [run, reconcileProfile_deleted now deleting.deleted]
    obtain ⟨fault, after, ended, removes, _⟩ | ⟨after, ended, left, present⟩ |
      ⟨after, updated, ended, gone, released⟩ :=
      run_finalize_cases settings deleting.adopted controller.counted
    · rw [ended]
      have kept : after.cluster.peek Profile profile.name =
          controller.cluster.peek Profile profile.name :=
        removes.peek_eq (by simp [Footprint.Touches, componentPlaces])
      exact kept.trans deleting.found
    · rw [ended]
      refine ⟨rfl, left ▸ present, ?_⟩
      rw [left, peek_profile_drained]
      exact deleting.found
    · rw [ended]
      have drained := deleting.drained settings.tunedNamespace
      exact ⟨(holdsAny_updateProfile released _ _).trans gone,
        peek_updateProfile_dropFinalizer drained released⟩

theorem passed_calm (settings : Settings) (now : Timestamp) {controller : Controller}
    (deleting : controller.cluster.Deleting name profile)
    (calm : controller.cluster.failures = .empty) :
    if controller.cluster.deferredDeletion &&
        controller.cluster.holdsAny (componentPlaces settings.tunedNamespace name) then
      (controller.passed settings now name).1 = .ok (.requeueAfter removalDelay) ∧
      (controller.passed settings now name).2.cluster =
        controller.cluster.drained settings.tunedNamespace name
    else (controller.passed settings now name).1 = .ok .done := by
  obtain rfl : profile.name = name := Profile.name_of_metadata deleting.named
  have read : controller.cluster.read Profile profile.name = .ok profile :=
    Cluster.read_eq_ok_iff.2 ⟨Cluster.check_of_calm calm _ _, deleting.found⟩
  rw [← holdsAny_drained, Controller.passed_found settings now read,
    reconcileProfile_deleted now deleting.deleted]
  obtain ⟨fault, after, _, _, missing⟩ | ⟨after, ended, same, present⟩ |
    ⟨after, updated, ended, gone, _⟩ :=
    run_finalize_cases settings deleting.adopted controller.counted
  · have absent : controller.cluster.peek Profile profile.name = none := missing calm
    rw [deleting.found] at absent
    cases absent
  · rw [ended]
    exact (if_pos present).mpr ⟨rfl, same⟩
  · rw [ended]
    exact (if_neg (Bool.eq_false_iff.1 gone)).mpr rfl

/-- Whatever else is stored and whatever fails, a pass over a deleted profile drops the finalizer
only once no component is left. Without failures it takes one pass, or a second one after the
collection of garbage if deletion is deferred and there were components. -/
theorem reconcile_drains_deleted (settings : Settings) (now : Timestamp) (controller : Controller)
    (name : String) (profile : Profile) (deleting : controller.cluster.Deleting name profile) :
    let pass := controller.reconcile settings now name
    let waits := controller.cluster.deferredDeletion &&
      controller.cluster.holdsAny (componentPlaces settings.tunedNamespace name)
    let collected := { pass.2 with cluster := pass.2.cluster.collectGarbage }
    Drains settings.tunedNamespace profile pass.1 pass.2.cluster ∧
    (controller.cluster.failures = .empty →
      (waits = false → pass.1 = .ok .done) ∧
      (waits = true → pass.1 = .ok (.requeueAfter 10) ∧
        ∀ later, (collected.reconcile settings later name).1 = .ok .done)) := by
  intro pass waits collected
  obtain ⟨result, cluster, _⟩ := Controller.reconcile_passed settings now name controller
  refine ⟨?_, fun calm => ⟨fun quick => ?_, fun slow => ?_⟩⟩
  · rw [result, cluster]
    exact passed_drains now deleting
  · have ended := passed_calm settings now deleting calm
    rw [if_neg (Bool.eq_false_iff.1 quick)] at ended
    exact result.trans ended
  · have ended := passed_calm settings now deleting calm
    rw [if_pos slow] at ended
    refine ⟨result.trans ended.1, fun later => ?_⟩
    have left : collected.cluster =
        (controller.cluster.drained settings.tunedNamespace name).collectGarbage :=
      congrArg Cluster.collectGarbage (cluster.trans ended.2)
    -- Whatever the first pass left is marked, so the second one finds no component.
    have free : collected.cluster.holdsAny (componentPlaces settings.tunedNamespace name) = false :=
      left ▸ holdsAny_collectGarbage_drained settings.tunedNamespace name controller.cluster
    have still : collected.cluster.Deleting name profile :=
      left ▸ (deleting.drained settings.tunedNamespace).collectGarbage
    have undisturbed : collected.cluster.failures = .empty := by
      rw [left]
      exact (failures_drained ..).trans calm
    have next := passed_calm settings later still undisturbed
    rw [free, if_neg (by simp)] at next
    exact (Controller.reconcile_passed settings later name collected).1.trans next

/-- A deleted profile with a finalizer of others, in a cluster that defers deletion and still holds
a component. -/
def halfRemoved : Cluster :=
  let component : RuntimeClass := ⟨{ name := some (componentName "small") }, "", none, none⟩
  let metadata := { smallProfile.metadata with
    deletionTimestamp := some default
    finalizers := some ["others", finalizer] }
  (Cluster.put { deferredDeletion := true } component).put { smallProfile with metadata }

theorem reconcile_drains_deleted_waits :
    ∃ profile, halfRemoved.Deleting "small" profile ∧ halfRemoved.failures = .empty ∧
      (Controller.reconcile {} default "small" { cluster := halfRemoved }).1 =
        .ok (.requeueAfter 10) := by
  have deleting : halfRemoved.Deleting "small" _ := ⟨rfl, rfl, rfl, rfl, by decide⟩
  have drains :=
    reconcile_drains_deleted {} default { cluster := halfRemoved } "small" _ deleting
  exact ⟨_, deleting, rfl, ((drains.2 rfl).2 (by decide +kernel)).1⟩

end Draining
end NodeTuning
