import NodeTuning.Proofs.Controller.Draining

/-!
The invariant that no component is orphaned: every profile sits under its own name, and a component
is stored only while its profile is stored with the finalizer. Main statement: a pass keeps this,
whatever branch it takes and whatever fails.
-/
namespace NodeTuning
open Steps Cluster.Action

theorem Profile.hasFinalizer_of_isReleased {profile : Profile}
    (released : profile.isReleased = true) : profile.hasFinalizer = false := by
  simp only [isReleased, Bool.and_eq_true, List.isEmpty_iff] at released
  simp [hasFinalizer, released.2]

namespace Cluster

def Retains (cluster : Cluster) (name : String) : Prop :=
  ∃ profile, cluster.peek Profile name = some profile ∧ profile.hasFinalizer = true

/-- Every profile sits under its own name and keeps the finalizer while it has components. -/
structure Covered (tunedNamespace : String) (cluster : Cluster) : Prop where
  orderly : cluster.Orderly (· ≠ .machineConfigPool)
  unspaced : ∀ key profile, cluster.peek Profile key = some profile →
    profile.metadata.inNamespace = none
  retained : ∀ name, cluster.holdsAny (componentPlaces tunedNamespace name) = true →
    cluster.Retains name

section Kept
variable {footprint : Footprint} {before after : Cluster} {kinds : Kind → Prop}

theorem Within.retains (within : Within footprint before after) {name : String}
    (unwritten : ¬ footprint.writes (.performanceProfile, name))
    (unremoved : ¬ footprint.removes (.performanceProfile, name))
    (retains : before.Retains name) : after.Retains name := by
  obtain ⟨profile, found, adopted⟩ := retains
  have stored : before.peekAny .performanceProfile name = some (.profile profile) := by
    simp [peekAny, found]
  have there : (after.peekAny .performanceProfile name).isSome := by
    rcases within.objects .performanceProfile name with same | written | ⟨removed, _⟩ | ⟨_, same⟩
    · rw [same, stored]
      rfl
    · exact absurd written unwritten
    · exact absurd removed unremoved
    · rw [← Option.isSome_map, same, stored]
      rfl
  have stillThere : (after.peek Profile name).isSome := (isSome_peekAny after name).symm.trans there
  obtain ⟨later, kept⟩ := Option.isSome_iff_exists.1 stillThere
  have object : after.peekAny .performanceProfile name = some (.profile later) := by
    simp [peekAny, kept]
  obtain ⟨old, same, metadata⟩ := within.metadata_eq unwritten object
  rw [stored] at same
  cases same
  have equal : profile.metadata = later.metadata := metadata
  refine ⟨later, kept, ?_⟩
  rw [← adopted]
  simp [Profile.hasFinalizer, Resource.finalizers, Resource.metadata, equal]

end Kept

namespace Covered
variable {tunedNamespace : String} {cluster after : Cluster}

theorem of_objects (covered : cluster.Covered tunedNamespace)
    (same : ∀ kind key, after.peekAny kind key = cluster.peekAny kind key) :
    after.Covered tunedNamespace := by
  have profiles : ∀ key, after.peek Profile key = cluster.peek Profile key :=
    fun key => peek_congr (same _ key)
  refine ⟨covered.orderly.of_objects same, fun key profile found => ?_, fun name held => ?_⟩
  · rw [profiles] at found
    exact covered.unspaced key profile found
  · rw [holdsAny, holds_congr same] at held
    obtain ⟨profile, found, adopted⟩ := covered.retained name held
    exact ⟨profile, (profiles name).trans found, adopted⟩

/-- Work that writes components only where a profile retains them keeps the cover. -/
theorem within {footprint : Footprint} (covered : cluster.Covered tunedNamespace)
    (within : Within footprint cluster after) (orderly : after.Orderly (· ≠ .machineConfigPool))
    (writes : ∀ place, footprint.writes place → place.1 = .machineConfigPool ∨
      ∃ name, place ∈ componentPlaces tunedNamespace name ∧ cluster.Retains name)
    (removes : ∀ place, footprint.removes place → place.1 ≠ .performanceProfile) :
    after.Covered tunedNamespace := by
  have unwritten : ∀ key, ¬ footprint.writes (.performanceProfile, key) := by
    intro key written
    rcases writes _ written with isPool | ⟨name, member, _⟩
    · cases isPool
    · exact (kind_of_mem_componentPlaces member).1 rfl
  refine ⟨orderly, fun key profile found => ?_, fun name held => ?_⟩
  · have object : after.peekAny .performanceProfile key = some (.profile profile) := by
      simp [peekAny, found]
    obtain ⟨old, stored, same⟩ := within.metadata_eq (unwritten key) object
    obtain ⟨before, peeked, rfl⟩ := Option.map_eq_some_iff.1 stored
    have equal : before.metadata = profile.metadata := same
    rw [← equal]
    exact covered.unspaced key before peeked
  · have retains : cluster.Retains name := by
      obtain ⟨place, member, there⟩ := List.any_eq_true.1 held
      obtain ⟨object, found⟩ := Option.isSome_iff_exists.1 there
      -- What may have been written is written for a profile that retains it. All else was there.
      by_cases written : footprint.writes place
      · rcases writes place written with isPool | ⟨owner, owned, retains⟩
        · exact absurd isPool (kind_of_mem_componentPlaces member).2
        · rwa [eq_of_mem_componentPlaces member owned]
      · obtain ⟨old, stored, _⟩ := within.metadata_eq written found
        refine covered.retained name (List.any_eq_true.2 ⟨place, member, ?_⟩)
        rw [holds, stored]
        rfl
    exact within.retains (unwritten name) (fun removed => removes _ removed rfl) retains

theorem put_profile (covered : cluster.Covered tunedNamespace) {profile : Profile} {name : String}
    (named : profile.metadata.name = some name) (unspaced : profile.metadata.inNamespace = none)
    (adopted : cluster.holdsAny (componentPlaces tunedNamespace name) = true →
      profile.hasFinalizer = true) : (cluster.put profile).Covered tunedNamespace := by
  have own : storeKey profile = name := by
    simp [storeKey, Resource.metadata, named, unspaced, keyIn]
  refine ⟨covered.orderly.put (by simp [Resource.metadata, named]), fun key other found => ?_,
    fun other held => ?_⟩
  · rw [peek_put] at found
    split at found
    · cases found
      exact unspaced
    · exact covered.unspaced key other found
  · have before : cluster.holdsAny (componentPlaces tunedNamespace other) = true := by
      rw [← held]
      refine (holdsAny_congr fun place member => ?_).symm
      simp [holds, peekAny_put, (kind_of_mem_componentPlaces member).1]
    by_cases same : other = name
    · subst same
      exact ⟨profile, by simp [own], adopted before⟩
    · obtain ⟨stored, found, kept⟩ := covered.retained other before
      exact ⟨stored, by simp [own, same, found], kept⟩

theorem remove_profile (covered : cluster.Covered tunedNamespace) {name : String}
    (free : cluster.holdsAny (componentPlaces tunedNamespace name) = false) :
    (cluster.remove Profile name).Covered tunedNamespace := by
  refine ⟨covered.orderly.remove name, fun key other found => ?_, fun other held => ?_⟩
  · rw [peek_remove] at found
    split at found
    · cases found
    · exact covered.unspaced key other found
  · have before : cluster.holdsAny (componentPlaces tunedNamespace other) = true := by
      rw [← held]
      refine (holdsAny_congr fun place member => ?_).symm
      simp [holds, peekAny_remove, (kind_of_mem_componentPlaces member).1]
    have different : other ≠ name := by
      rintro rfl
      rw [free] at before
      cases before
    obtain ⟨stored, found, kept⟩ := covered.retained other before
    exact ⟨stored, by simp [different, found], kept⟩

theorem metadata_of_peek (covered : cluster.Covered tunedNamespace) {key : String}
    {profile : Profile} (found : cluster.peek Profile key = some profile) :
    profile.metadata.name = some key ∧ profile.metadata.inNamespace = none := by
  have unspaced := covered.unspaced key profile found
  exact ⟨covered.orderly.name_of_peek (by simp) found unspaced, unspaced⟩

theorem updateProfile (covered : cluster.Covered tunedNamespace) (profile : Profile)
    {updated : Profile} {name : String} (named : profile.metadata.name = some name)
    (unspaced : profile.metadata.inNamespace = none)
    (kept : cluster.holdsAny (componentPlaces tunedNamespace name) = true →
      profile.hasFinalizer = true)
    (ok : cluster.updateProfile profile = .ok (updated, after)) :
    after.Covered tunedNamespace := by
  obtain ⟨_, existing, _, rfl, rfl⟩ := updateProfile_eq_ok_iff.1 ok
  refine Covered.of_objects ?_ (peekAny_record _ _ _ _)
  rw [Profile.name_of_metadata named]
  split
  · rename_i released
    refine covered.remove_profile (Bool.eq_false_iff.2 fun held => ?_)
    have bare : profile.hasFinalizer = false := Profile.hasFinalizer_of_isReleased released
    rw [kept held] at bare
    cases bare
  · exact covered.put_profile named unspaced kept

end Covered
end Cluster

section Passes
variable {settings : Settings} {now : Timestamp} {controller : Controller} {profile : Profile}

/-- The relation between clusters of which the first one is orderly, within a footprint. -/
private abbrev Tidy (footprint : Footprint) : Cluster → Cluster → Prop :=
  Guarded (Cluster.Orderly (· ≠ .machineConfigPool)) (Cluster.Within footprint)

private theorem covered_of_keeps {α : Type} {tunedNamespace : String} {footprint : Footprint}
    {steps : Pass α} (keeps : Keeps (Pass.Clusters (Tidy footprint)) steps)
    (covered : controller.cluster.Covered tunedNamespace)
    (writes : ∀ place, footprint.writes place → ∃ name,
      place ∈ componentPlaces tunedNamespace name ∧ controller.cluster.Retains name)
    (removes : ∀ place, footprint.removes place → place.1 ≠ .performanceProfile) :
    (steps.run controller).2.cluster.Covered tunedNamespace := by
  obtain ⟨orderly, within⟩ := keeps controller covered.orderly
  exact covered.within within orderly (fun place written => .inr (writes place written)) removes

private theorem tidy_patches {footprint : Footprint}
    (reports : ∀ place, footprint.reports place) (key : String) (subject : Profile)
    (references : References) :
    KeepsReports (Tidy footprint) settings now key subject references :=
  fun _ => orderly_patchStatus (by simp) key _ (reports _)

private theorem covered_of_reports {α : Type} {tunedNamespace : String} {steps : Pass α}
    (keeps : Keeps (Pass.Clusters (Tidy { reports := fun _ => True })) steps)
    (covered : controller.cluster.Covered tunedNamespace) :
    (steps.run controller).2.cluster.Covered tunedNamespace :=
  covered_of_keeps keeps covered (fun _ impossible => impossible.elim)
    fun _ impossible => impossible.elim

theorem Cluster.Covered.removals {tunedNamespace name : String} {before after : Cluster}
    (covered : before.Covered tunedNamespace)
    (within : before.Within { removes := (· ∈ componentPlaces tunedNamespace name) } after) :
    after.Covered tunedNamespace :=
  covered.within within (covered.orderly.within within fun _ _ => id)
    (fun _ impossible => impossible.elim) fun _ member => (kind_of_mem_componentPlaces member).1

theorem covered_finalize (covered : controller.cluster.Covered settings.tunedNamespace)
    (named : profile.metadata.name = some profile.name)
    (unspaced : profile.metadata.inNamespace = none) :
    ((finalize settings profile).run controller).2.cluster.Covered settings.tunedNamespace := by
  cases adopted : profile.hasFinalizer with
  | false =>
    unfold finalize
    rw [if_pos (by simp [adopted])]
    exact covered
  | true =>
    obtain ⟨fault, after, run, removes, _⟩ | ⟨after, run, left, _⟩ |
      ⟨after, updated, run, gone, released⟩ := run_finalize_cases settings adopted controller
    · rw [run]
      exact covered.removals removes
    · rw [run]
      exact left ▸ covered.removals (within_drained ..)
    · rw [run]
      refine (covered.removals (within_drained ..)).updateProfile profile.dropFinalizer named
        unspaced (fun held => ?_) released
      rw [gone] at held
      cases held

theorem covered_adopt (covered : controller.cluster.Covered settings.tunedNamespace)
    (named : profile.metadata.name = some profile.name)
    (unspaced : profile.metadata.inNamespace = none) :
    ((adopt settings now profile).run controller).2.cluster.Covered settings.tunedNamespace := by
  have written := Pass.run_onCluster
    (.ofWrite (Cluster.updateProfile · profile.addFinalizer)) controller
  unfold adopt
  obtain ⟨updated, after, ok, run⟩ | ⟨fault, _, run⟩ :=
    run_ofWrite_cases (Cluster.updateProfile · profile.addFinalizer) controller.cluster
  · rw [run] at written
    rw [run_bind_ok written]
    have retained : after.Covered settings.tunedNamespace :=
      covered.updateProfile profile.addFinalizer named unspaced
        (fun _ => Profile.hasFinalizer_addFinalizer profile) ok
    refine covered_of_reports ?_ retained
    exact Keeps.bind (keeps_writeReport (tidy_patches (fun _ => trivial) _ _ _) _) fun _ =>
      Keeps.pure _
  · rw [run] at written
    rw [run_bind_error written]
    exact covered

theorem covered_rollOut (covered : controller.cluster.Covered settings.tunedNamespace)
    (retains : controller.cluster.Retains profile.name) :
    ((rollOut settings now profile >>= reportPools settings now profile).run
      controller).2.cluster.Covered settings.tunedNamespace := by
  let footprint : Footprint := {
    writes := (· ∈ componentPlaces settings.tunedNamespace profile.name)
    reports := fun _ => True
    removes := (·.1 = .tuned) }
  have patches : ∀ references,
      KeepsReports (Tidy footprint) settings now profile.name profile references :=
    tidy_patches (fun _ => trivial) profile.name profile
  have applies : Keeps (Pass.Clusters (Tidy footprint)) (applyComponents settings profile) :=
    orderly_applyComponents settings profile (fun _ => id) (fun _ => id) fun _ => rfl
  have keeps : Keeps (Pass.Clusters (Tidy footprint))
      (rollOut settings now profile >>= reportPools settings now profile) :=
    Keeps.bind (keeps_rollOut applies (patches .kept)) (keeps_reportPools (patches .current))
  refine covered_of_keeps keeps covered (fun place member => ⟨_, member, retains⟩) ?_
  rintro place isTuned isProfile
  rw [isTuned] at isProfile
  cases isProfile

theorem covered_reconcile (settings : Settings) (now : Timestamp) (name : String)
    (covered : controller.cluster.Covered settings.tunedNamespace) :
    (controller.reconcile settings now name).2.cluster.Covered settings.tunedNamespace := by
  rw [(Controller.reconcile_passed settings now name controller).2.1]
  obtain ⟨_, _, run⟩ | ⟨_, _, run⟩ | ⟨profile, read, run⟩ :=
    Controller.passed_cases settings now name controller
  · rw [run]
    exact covered
  · rw [run]
    exact covered
  · have found := (Cluster.read_eq_ok_iff.1 read).2
    obtain ⟨named, unspaced⟩ := covered.metadata_of_peek found
    obtain rfl : profile.name = name := Profile.name_of_metadata named
    have again : controller.counted.cluster.Covered settings.tunedNamespace := covered
    rw [run]
    obtain ⟨_, branch⟩ | ⟨_, _, branch⟩ | ⟨message, _, _, branch⟩ | ⟨_, _, branch⟩ |
      ⟨accepts, _, branch⟩ := reconcileProfile_cases settings profile
    · rw [branch]
      exact covered_finalize again named unspaced
    · rw [branch]
      exact covered_adopt again named unspaced
    · rw [branch]
      exact covered_of_reports (keeps_refuse (tidy_patches (fun _ => trivial) _ _ _) message) again
    · rw [branch, run_hold]
      exact again
    · rw [branch]
      exact covered_rollOut again ⟨profile, found, accepts.adopted⟩

end Passes
end NodeTuning
