import NodeTuning.Proofs.Controller.Draining
import NodeTuning.Proofs.Controller.Gate
import NodeTuning.Proofs.Controller.Territory

/-!
What a pass does outside of its profile's places and to the profile itself. Main statement: whatever
comes of it, all other objects stay as they are but for outdated tuned objects, which may be
deleted, and of the profile only the status and the controller's finalizer change.
-/
namespace NodeTuning
open Steps Cluster.Action

/-- What can become of a stored profile in one pass. -/
inductive Profile.Becomes (profile : Profile) : Option Profile → Prop where
  | kept (status : Option ProfileStatus) : Becomes profile (some { profile with status })
  | adopted (status : Option ProfileStatus) : profile.metadata.deletionTimestamp = none →
    profile.hasFinalizer = false → Becomes profile (some { profile.addFinalizer with status })
  | released : profile.metadata.deletionTimestamp.isSome → profile.hasFinalizer = true →
    (Resource.finalizers profile).filter (· ≠ finalizer) ≠ [] →
      Becomes profile (some profile.dropFinalizer)
  | gone : profile.metadata.deletionTimestamp.isSome → profile.hasFinalizer = true →
    (Resource.finalizers profile).filter (· ≠ finalizer) = [] → Becomes profile none

section Territory
variable {tunedNamespace : String} {profile : Profile} {rewrites : Prop} {before after : Cluster}

/-- Outside of the profile's places only outdated tuned objects go, and only if deletions of tuned
objects are not made to fail. -/
theorem Confined.spares (confined : Confined tunedNamespace profile rewrites before after)
    (discards : before.Discards after) (orderly : before.Orderly fun _ => True) {place : Place}
    (apart : place ∉ profilePlaces tunedNamespace profile.name) :
    before.Unmoved after place ∨ before.Outdated tunedNamespace profile place ∧
      before.check .delete .tuned = .ok () ∧ before.Discarded after place := by
  obtain ⟨-, within⟩ := confined orderly
  rw [profilePlaces, List.mem_cons, not_or] at apart
  obtain ⟨notProfile, notComponent⟩ := apart
  have object : after.peekAny place.1 place.2 = before.peekAny place.1 place.2 ∨
      after.peekAny place.1 place.2 = none := by
    rcases within.objects place.1 place.2 with same | (member | ⟨_, own⟩) | ⟨_, gone⟩ | ⟨own, _⟩
    · exact .inl same
    · exact absurd member notComponent
    · exact absurd own notProfile
    · exact .inr gone
    · exact absurd own notProfile
  by_cases unmoved : before.Unmoved after place
  · exact .inl unmoved
  -- A place that has changed without being removed would have been touched in no way at all.
  have removed : before.Outdated tunedNamespace profile place ∧
      before.check .delete .tuned = .ok () := by
    by_contra spared
    have unremoved : ¬ (territory tunedNamespace profile rewrites before).removes place :=
      fun removed => removed.elim notComponent spared
    have untouched : ¬ (territory tunedNamespace profile rewrites before).Touches place := by
      rintro ((member | ⟨_, own⟩) | own | removed)
      · exact notComponent member
      · exact notProfile own
      · exact notProfile own
      · exact unremoved removed
    have mark : place ∈ after.terminating → place ∈ before.terminating := fun member =>
      (within.terminating place member).resolve_right unremoved
    exact unmoved ⟨within.peekAny_eq untouched, mark, discards.marked place⟩
  refine .inr ⟨removed.1, removed.2, ?_, ?_⟩
  · intro immediate
    have marks := discards.immediate immediate
    refine ⟨object.resolve_left fun same => unmoved ⟨same, by rw [marks]⟩, by rw [marks]⟩
  · intro deferred
    have held := Cluster.holds_of_outdated removed.1
    have other : place.1 ≠ .performanceProfile := by
      rw [removed.1.1]
      decide
    have still := discards.deferred deferred place other held
    have same := object.resolve_right fun gone => by simp [Cluster.holds, gone] at still
    refine ⟨same, ?_⟩
    by_contra unmarked
    have mark : place ∈ after.terminating ↔ place ∈ before.terminating :=
      ⟨fun member => absurd member unmarked, discards.marked place⟩
    exact unmoved ⟨same, mark⟩

/-- A profile that is not rewritten keeps all but its status. -/
theorem Confined.peek_profile (confined : Confined tunedNamespace profile False before after)
    (orderly : before.Orderly fun _ => True)
    {stored : Profile} (found : before.peek Profile profile.name = some stored) :
    ∃ status, after.peek Profile profile.name = some { stored with status } := by
  obtain ⟨-, within⟩ := confined orderly
  have object : before.peekAny .performanceProfile profile.name = some (.profile stored) := by
    simp [Cluster.peekAny, found]
  have same : after.peek Profile profile.name = before.peek Profile profile.name →
      ∃ status, after.peek Profile profile.name = some { stored with status } := by
    intro equal
    exact ⟨stored.status, equal.trans found⟩
  rcases within.objects .performanceProfile profile.name with
    equal | (member | ⟨impossible, _⟩) | ⟨member | ⟨outdated, _⟩, _⟩ | ⟨_, bare⟩
  · exact same (Cluster.peek_congr equal)
  · exact absurd rfl (kind_of_mem_componentPlaces member).1
  · exact impossible.elim
  · exact absurd rfl (kind_of_mem_componentPlaces member).1
  · cases outdated.1
  · rw [object, Option.map_some] at bare
    obtain ⟨other, stored', equal⟩ := Option.map_eq_some_iff.1 bare
    obtain ⟨later, peeked, rfl⟩ := Option.map_eq_some_iff.1 stored'
    refine ⟨later.status, peeked.trans (congrArg some ?_)⟩
    injection equal with equal
    cases later
    cases stored
    cases equal
    rfl

end Territory

section Passes
variable {settings : Settings} {now : Timestamp} {profile : Profile} {controller : Controller}

private theorem becomes_of_confined {α : Type} {steps : Pass α}
    (keeps : Keeps (Pass.Clusters (Confined settings.tunedNamespace profile False)) steps)
    (orderly : controller.cluster.Orderly fun _ => True)
    (found : controller.cluster.peek Profile profile.name = some profile) :
    profile.Becomes ((steps.run controller).2.cluster.peek Profile profile.name) := by
  obtain ⟨status, stored⟩ := (keeps controller).peek_profile orderly found
  rw [stored]
  exact .kept status

theorem becomes_finalize (found : controller.cluster.peek Profile profile.name = some profile)
    (named : profile.metadata.name = some profile.name)
    (unspaced : profile.metadata.inNamespace = none)
    (deleted : profile.metadata.deletionTimestamp.isSome) :
    profile.Becomes (((finalize settings profile).run controller).2.cluster.peek Profile
      profile.name) := by
  have same : profile.Becomes (some profile) := .kept profile.status
  cases adopted : profile.hasFinalizer with
  | false =>
    unfold finalize
    rw [if_pos (by simp [adopted])]
    change profile.Becomes (controller.cluster.peek Profile profile.name)
    rw [found]
    exact same
  | true =>
    have deleting : controller.cluster.Deleting profile.name profile :=
      ⟨found, named, unspaced, deleted, adopted⟩
    obtain ⟨fault, after, run, removes, _⟩ | ⟨after, run, left, _⟩ |
      ⟨after, updated, run, _, released⟩ := run_finalize_cases settings adopted controller
    · rw [run, removes.peek_eq (by simp [Footprint.Touches, componentPlaces]), found]
      exact same
    · rw [run, left, peek_profile_drained, found]
      exact same
    · rw [run, peek_updateProfile_dropFinalizer (deleting.drained _) released]
      split
      · rename_i alone
        exact .gone deleted adopted alone
      · rename_i others
        exact .released deleted adopted others

theorem peek_updateProfile_addFinalizer {cluster after : Cluster} {updated : Profile}
    (found : cluster.peek Profile profile.name = some profile)
    (named : profile.metadata.name = some profile.name)
    (unspaced : profile.metadata.inNamespace = none)
    (live : profile.metadata.deletionTimestamp = none)
    (ok : cluster.updateProfile profile.addFinalizer = .ok (updated, after)) :
    after.peek Profile profile.name =
      some { profile.addFinalizer with status := profile.status } := by
  obtain ⟨_, existing, stored, rfl, rfl⟩ := Cluster.updateProfile_eq_ok_iff.1 ok
  have shown : profile.addFinalizer.name = profile.name := rfl
  rw [shown, found] at stored
  cases stored
  have own : storeKey { profile.addFinalizer with status := profile.status } = profile.name := by
    simp [storeKey, Profile.addFinalizer, Profile.withFinalizers, Resource.metadata, named,
      unspaced, keyIn]
  have alive : Profile.isReleased { profile.addFinalizer with status := profile.status } =
      false := by
    simp [Profile.isReleased, Profile.addFinalizer, Profile.withFinalizers, live]
  rw [if_neg (by simp [alive]), Cluster.peek_record, Cluster.peek_put, if_pos own.symm]

theorem becomes_adopt (orderly : controller.cluster.Orderly fun _ => True)
    (found : controller.cluster.peek Profile profile.name = some profile)
    (named : profile.metadata.name = some profile.name)
    (unspaced : profile.metadata.inNamespace = none)
    (live : profile.metadata.deletionTimestamp = none) (unknown : profile.hasFinalizer = false) :
    profile.Becomes (((adopt settings now profile).run controller).2.cluster.peek Profile
      profile.name) := by
  have rewritten : Confined settings.tunedNamespace profile True controller.cluster
      ((ofWrite (Cluster.updateProfile · profile.addFinalizer)).run controller.cluster).2 :=
    confined_updateProfile named unspaced _ controller.cluster
  have written := Pass.run_onCluster
    (.ofWrite (Cluster.updateProfile · profile.addFinalizer)) controller
  unfold adopt
  obtain ⟨updated, after, ok, run⟩ | ⟨fault, _, run⟩ :=
    run_ofWrite_cases (Cluster.updateProfile · profile.addFinalizer) controller.cluster
  · have tidy : after.Orderly fun _ => True := by
      rw [run] at rewritten
      exact (rewritten orderly).1
    rw [run] at written
    rw [run_bind_ok written]
    have stored := peek_updateProfile_addFinalizer found named unspaced live ok
    have keeps : Keeps (Pass.Clusters (Confined settings.tunedNamespace profile False))
        (writeReport settings now updated
          (.progressing "DeploymentStarting" "Deployment is starting") .kept >>= fun _ =>
            pure Outcome.done) := by
      refine Keeps.bind (keeps_writeReport (fun _ => ?_) _) fun _ => Keeps.pure _
      rw [Cluster.name_of_updateProfile ok]
      exact confined_patchStatus _
    obtain ⟨status, last⟩ := (keeps { controller with cluster := after }).peek_profile tidy stored
    rw [last]
    exact .adopted status live unknown
  · rw [run] at written
    rw [run_bind_error written, found]
    exact .kept profile.status

theorem becomes_reconcileProfile (orderly : controller.cluster.Orderly fun _ => True)
    (found : controller.cluster.peek Profile profile.name = some profile)
    (named : profile.metadata.name = some profile.name)
    (unspaced : profile.metadata.inNamespace = none) :
    profile.Becomes (((reconcileProfile settings now profile).run controller).2.cluster.peek Profile
      profile.name) := by
  have patches : ∀ references, KeepsReports (Confined settings.tunedNamespace profile False)
      settings now profile.name profile references := fun _ _ => confined_patchStatus _
  obtain ⟨deleted, branch⟩ | ⟨live, unknown, branch⟩ | ⟨message, _, _, branch⟩ | ⟨_, _, branch⟩ |
    ⟨_, _, branch⟩ := reconcileProfile_cases settings profile
  · rw [branch]
    exact becomes_finalize found named unspaced deleted
  · rw [branch]
    exact becomes_adopt orderly found named unspaced live unknown
  · rw [branch]
    exact becomes_of_confined (keeps_refuse (patches .kept) message) orderly found
  · rw [branch, run_hold, found]
    exact .kept profile.status
  · rw [branch]
    have keeps : Keeps (Pass.Clusters (Confined settings.tunedNamespace profile False))
        (rollOut settings now profile >>= reportPools settings now profile) :=
      Keeps.bind (keeps_rollOut confined_applyComponents (patches .kept))
        (keeps_reportPools (patches .current))
    exact becomes_of_confined keeps orderly found

end Passes

section Whole
variable {settings : Settings} {now : Timestamp} {controller : Controller} {name : String}
variable {profile : Profile}

theorem confined_reconcile (settings : Settings) (now : Timestamp)
    (orderly : controller.cluster.Orderly fun _ => True)
    (found : controller.cluster.peek Profile name = some profile)
    (unspaced : profile.metadata.inNamespace = none) :
    Confined settings.tunedNamespace profile True controller.cluster
        (controller.reconcile settings now name).2.cluster ∧
      controller.cluster.Discards (controller.reconcile settings now name).2.cluster := by
  have named := orderly.name_of_peek trivial found unspaced
  obtain rfl : profile.name = name := Profile.name_of_metadata named
  have keeps : Keeps (Pass.Clusters (Confined settings.tunedNamespace profile True))
      (reconcileProfile settings now profile) := confined_reconcileProfile named unspaced
  have discards : Keeps (Pass.Clusters Cluster.Discards) (reconcileProfile settings now profile) :=
    discards_reconcileProfile
  rw [(Controller.reconcile_passed settings now profile.name controller).2.1]
  exact ⟨Controller.tracked_passed found keeps, Controller.tracked_passed found discards⟩

/-- A pass over a stored profile, whatever comes of it: every place that is not the profile's own
stays as it is, unless a tuned object is there that the profile owns under another name, which may
be deleted. The profile keeps all but its status and the controller's finalizer. The delays of other
profiles stay as they are. -/
theorem reconcile_confined (settings : Settings) (now : Timestamp) (controller : Controller)
    (name : String) (profile : Profile) (orderly : controller.cluster.Orderly fun _ => True)
    (found : controller.cluster.peek Profile name = some profile)
    (unspaced : profile.metadata.inNamespace = none) :
    let after := (controller.reconcile settings now name).2
    (∀ place, place ∉ profilePlaces settings.tunedNamespace name →
      controller.cluster.Unmoved after.cluster place ∨
      controller.cluster.Outdated settings.tunedNamespace profile place ∧
        controller.cluster.Discarded after.cluster place) ∧
    profile.Becomes (after.cluster.peek Profile name) ∧
    ∀ other, other ≠ name → after.retries.find? other = controller.retries.find? other := by
  intro after
  have named := orderly.name_of_peek trivial found unspaced
  obtain rfl : profile.name = name := Profile.name_of_metadata named
  obtain ⟨confined, discards⟩ := confined_reconcile settings now orderly found unspaced
  refine ⟨fun place apart => ?_, ?_, (Controller.onlyFor_reconcile found rfl).retries⟩
  · rcases confined.spares discards orderly apart with unmoved | ⟨outdated, _, discarded⟩
    · exact .inl unmoved
    · exact .inr ⟨outdated, discarded⟩
  · have cluster := (Controller.reconcile_passed settings now profile.name controller).2.1
    change profile.Becomes
      ((controller.reconcile settings now profile.name).2.cluster.peek Profile profile.name)
    rw [cluster]
    obtain ⟨fault, _, run⟩ | ⟨_, run⟩ := Controller.passed_stored settings now found
    · rw [run]
      change profile.Becomes (controller.cluster.peek Profile profile.name)
      rw [found]
      exact .kept profile.status
    · rw [run]
      have counted : controller.counted.cluster.Orderly fun _ => True := orderly
      exact becomes_reconcileProfile counted found named unspaced

/-- The small profile beside a tuned object that it owns under an old name. -/
def renamed : Cluster := (Cluster.put {} formerTuned).put smallProfile

theorem reconcile_confined_renamed :
    let old : Place := (.tuned, keyIn (some Config.defaultTunedNamespace) "old")
    let after := (Controller.reconcile {} default "small" { cluster := renamed }).2
    renamed.Orderly (fun _ => True) ∧
      (renamed.Unmoved after.cluster old ∨
        renamed.Outdated Config.defaultTunedNamespace smallProfile old ∧
          renamed.Discarded after.cluster old) ∧
      smallProfile.Becomes (after.cluster.peek Profile "small") := by
  intro old after
  have orderly : renamed.Orderly fun _ => True :=
    (Cluster.Orderly.empty.put rfl).put rfl
  obtain ⟨spared, becomes, _⟩ := reconcile_confined {} default { cluster := renamed } "small"
    smallProfile orderly rfl rfl
  exact ⟨orderly, spared old (by decide), becomes⟩

end Whole
end NodeTuning
