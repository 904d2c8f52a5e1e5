import NodeTuning.Proofs.Cluster.Discarding
import NodeTuning.Proofs.Controller.Branches
import NodeTuning.Proofs.Controller.Removal
import NodeTuning.Proofs.Controller.Sweeping

/-!
The territory of a pass: the places of its profile, and the tuned objects that are outdated for it.
Main statements: whatever branch it takes and whatever fails, a pass stays within its territory, and
the events and delays of other profiles stay as they are.
-/
namespace NodeTuning
open Stored Steps Cluster.Action

/-- What a pass over a profile may change. Whether the profile may be written but for its status is
for the branch to say. -/
def territory (tunedNamespace : String) (profile : Profile) (rewrites : Prop) (cluster : Cluster) :
    Footprint where
  writes place := place ∈ componentPlaces tunedNamespace profile.name ∨
    rewrites ∧ place = (.performanceProfile, profile.name)
  reports place := place = (.performanceProfile, profile.name)
  removes place := place ∈ componentPlaces tunedNamespace profile.name ∨
    cluster.Outdated tunedNamespace profile place ∧ cluster.check .delete .tuned = .ok ()

/-- An orderly cluster stays orderly, and only the territory changes. -/
def Confined (tunedNamespace : String) (profile : Profile) (rewrites : Prop)
    (before after : Cluster) : Prop :=
  before.Orderly (fun _ => True) → after.Orderly (fun _ => True) ∧
    before.Within (territory tunedNamespace profile rewrites before) after

/-- Only the events and the delay of one profile have changed. -/
structure Controller.OnlyFor (name : String) (before after : Controller) : Prop where
  events : ∃ more, after.events = before.events ++ more ∧ ∀ event ∈ more, event.profile = name
  retries : ∀ other, other ≠ name → after.retries.find? other = before.retries.find? other

namespace Controller.OnlyFor
variable {name : String} {first second third : Controller}

theorem refl (controller : Controller) : controller.OnlyFor name controller :=
  ⟨⟨[], by simp⟩, fun _ _ => rfl⟩

theorem trans (one : first.OnlyFor name second) (two : second.OnlyFor name third) :
    first.OnlyFor name third := by
  obtain ⟨earlier, told, own⟩ := one.events
  obtain ⟨later, toldLater, ownLater⟩ := two.events
  refine ⟨⟨earlier ++ later, by rw [toldLater, told, List.append_assoc], ?_⟩, ?_⟩
  · intro event member
    rcases List.mem_append.1 member with old | new
    · exact own event old
    · exact ownLater event new
  · intro other different
    exact (two.retries other different).trans (one.retries other different)

instance : Pass.Tracks (Controller.OnlyFor name) (fun _ _ => True) where
  refl := refl
  trans _ _ _ := trans
  cluster _ _ _ := ⟨⟨[], by simp⟩, fun _ _ => rfl⟩
  metrics _ _ := ⟨⟨[], by simp⟩, fun _ _ => rfl⟩

instance : Pass.Lets name (Controller.OnlyFor name) where
  told controller event own := ⟨⟨[event], rfl, by simpa using own⟩, fun _ _ => rfl⟩
  forgot controller :=
    ⟨⟨[], by simp [forgetRetry]⟩, fun other different => SortedMap.find?_erase_of_ne _ different⟩

end Controller.OnlyFor

section Confined
variable {tunedNamespace : String} {profile : Profile} {rewrites : Prop}

theorem unwritten_of_outdated {cluster other : Cluster} {place : Place}
    (orderly : cluster.Orderly fun _ => True)
    (outdated : cluster.Outdated tunedNamespace profile place) :
    ¬ (territory tunedNamespace profile rewrites other).writes place := by
  have foreign := outdated.unowned orderly trivial
  rintro (member | ⟨_, rfl⟩)
  · exact foreign (List.mem_cons_of_mem _ member)
  · exact foreign (List.mem_cons_self ..)

theorem Confined.refl (cluster : Cluster) :
    Confined tunedNamespace profile rewrites cluster cluster :=
  fun orderly => ⟨orderly, Cluster.Within.refl _ cluster⟩

theorem Confined.trans {first second third : Cluster}
    (one : Confined tunedNamespace profile rewrites first second)
    (two : Confined tunedNamespace profile rewrites second third) :
    Confined tunedNamespace profile rewrites first third := by
  intro orderly
  obtain ⟨middle, early⟩ := one orderly
  obtain ⟨last, late⟩ := two middle
  have below : (territory tunedNamespace profile rewrites second).Below
      (territory tunedNamespace profile rewrites first) := by
    refine ⟨fun _ => id, fun _ => id, ?_⟩
    rintro place (member | ⟨outdated, allowed⟩)
    · exact .inl member
    · have before := outdated.of_within early (unwritten_of_outdated middle outdated)
      rw [Cluster.check_congr early.failures] at allowed
      exact .inr ⟨before, allowed⟩
  exact ⟨last, early.trans (late.mono below)⟩

instance : IsPreorder Cluster (Confined tunedNamespace profile rewrites) where
  refl := Confined.refl
  trans _ _ _ := Confined.trans

theorem confined_of_orderly {ε α : Type} {footprint : Footprint} {steps : Steps ε Cluster α}
    (keeps : Keeps (Guarded (Cluster.Orderly fun _ => True) (Cluster.Within footprint)) steps)
    (below : ∀ cluster, footprint.Below (territory tunedNamespace profile rewrites cluster)) :
    Keeps (Confined tunedNamespace profile rewrites) steps := by
  intro start orderly
  obtain ⟨last, within⟩ := keeps start orderly
  exact ⟨last, within.mono (below start)⟩

theorem confined_sweepTuned : Keeps (Confined tunedNamespace profile rewrites)
    (sweepTuned profile tunedNamespace (tunedName profile.name)) := by
  intro start orderly
  cases identified : profile.metadata.uid with
  | none =>
    unfold sweepTuned
    rw [identified]
    exact ⟨orderly, Cluster.Within.refl _ start⟩
  | some uid =>
    obtain ⟨fault, _, run⟩ | ⟨_, fault, _, _, run⟩ | ⟨_, allowed, after, run, swept⟩ :=
      Cluster.run_sweepTuned_cases tunedNamespace orderly trivial identified
    · rw [run]
      exact ⟨orderly, Cluster.Within.refl _ start⟩
    · rw [run]
      exact ⟨orderly, Cluster.Within.refl _ start⟩
    · rw [run]
      have within : start.Within (territory tunedNamespace profile rewrites start) after :=
        swept.within.mono
          { removes := fun place outdated => .inr ⟨outdated, allowed ⟨place, outdated⟩⟩ }
      exact ⟨orderly.within swept.within fun _ _ => id, within⟩

end Confined

section Passes
variable {settings : Settings} {now : Timestamp} {profile : Profile} {rewrites : Prop}

theorem confined_applyComponents :
    Keeps (Pass.Clusters (Confined settings.tunedNamespace profile rewrites))
      (applyComponents settings profile) := by
  have guarded : Keeps (Pass.Clusters (Guarded (Cluster.Orderly fun _ => True)
      (Confined settings.tunedNamespace profile rewrites))) (applyComponents settings profile) := by
    apply keeps_applyComponents
    · intro components cluster derived orderly
      have targets := Plan.ofCluster_targets (Profile.components_placed derived)
        (fun _ _ => trivial) orderly
      have performs : ∀ {K : Type} [Component K] [Lawful K] {write : Write K} {key : String},
          write.Targets key → (Resource.kind K, key) ∈
            componentPlaces settings.tunedNamespace profile.name →
          Keeps (Pass.Clusters (Guarded (Cluster.Orderly fun _ => True)
            (Confined settings.tunedNamespace profile rewrites))) write.perform := by
        intro K _ _ write key aimed member start holds
        have keeps : Keeps (Pass.Clusters (Guarded (Cluster.Orderly fun _ => True)
            (Cluster.Within { writes := (· = (Resource.kind K, key)) }))) write.perform :=
          Write.orderly_perform aimed rfl
        obtain ⟨last, within⟩ := keeps start holds
        have below : Footprint.Below { writes := (· = (Resource.kind K, key)) }
            (territory settings.tunedNamespace profile rewrites start.cluster) :=
          { writes := by rintro place rfl; exact .inl member }
        exact ⟨last, fun _ => ⟨last, within.mono below⟩⟩
      constructor
      · exact performs targets.machineConfig (by simp [componentPlaces])
      · exact performs targets.kubeletConfig (by simp [componentPlaces])
      · exact performs targets.tuned (by simp [componentPlaces])
      · exact performs targets.runtimeClass (by simp [componentPlaces])
    · have sweeps : Keeps (Confined settings.tunedNamespace profile rewrites)
          (sweepTuned profile settings.tunedNamespace (tunedName profile.name)) :=
        confined_sweepTuned
      exact Keeps.guarded (fun start orderly => (sweeps start orderly).1) sweeps
  intro start orderly
  exact (guarded start orderly).2 orderly

theorem confined_deleteComponents :
    Keeps (Confined settings.tunedNamespace profile rewrites)
      (deleteComponents settings.tunedNamespace profile.name) := by
  apply keeps_deleteComponents
  intro K _ _ key member
  have keeps : Keeps (Guarded (Cluster.Orderly fun _ => True)
      (Cluster.Within { removes := (· = (Resource.kind K, key)) })) (ensureDeleted K key) :=
    orderly_ensureDeleted rfl
  apply confined_of_orderly keeps
  intro cluster
  exact { removes := by rintro place rfl; exact .inl member }

theorem confined_patchStatus (status : ProfileStatus) :
    Keeps (Confined settings.tunedNamespace profile rewrites)
      (ofWrite (Cluster.patchStatus · profile.name status)) := by
  have keeps : Keeps (Guarded (Cluster.Orderly fun _ => True)
      (Cluster.Within { reports := (· = (.performanceProfile, profile.name)) }))
      (ofWrite (Cluster.patchStatus · profile.name status)) :=
    orderly_patchStatus trivial profile.name status rfl
  apply confined_of_orderly keeps
  intro cluster
  exact { reports := fun place same => same }

theorem confined_updateProfile (named : profile.metadata.name = some profile.name)
    (unspaced : profile.metadata.inNamespace = none) (finalizers : List String) :
    Keeps (Confined settings.tunedNamespace profile True)
      (ofWrite (Cluster.updateProfile · (profile.withFinalizers finalizers))) := by
  have own : storeKey (profile.withFinalizers finalizers) = profile.name := by
    simp [storeKey, Profile.withFinalizers, Resource.metadata, named, unspaced, keyIn]
  have keeps : Keeps (Guarded (Cluster.Orderly fun _ => True)
      (Cluster.Within { writes := (· = (.performanceProfile, profile.name)) }))
      (ofWrite (Cluster.updateProfile · (profile.withFinalizers finalizers))) :=
    orderly_updateProfile (by simp [Profile.withFinalizers, named]) (by rw [own]) rfl
  apply confined_of_orderly keeps
  intro cluster
  exact { writes := fun place same => .inr ⟨trivial, same⟩ }

theorem confined_reconcileProfile (named : profile.metadata.name = some profile.name)
    (unspaced : profile.metadata.inNamespace = none) :
    Keeps (Pass.Clusters (Confined settings.tunedNamespace profile True))
      (reconcileProfile settings now profile) :=
  keeps_reconcileProfile (fun _ _ => confined_applyComponents) confined_deleteComponents
    (confined_updateProfile named unspaced) fun _ _ _ => confined_patchStatus _

theorem discards_reconcileProfile :
    Keeps (Pass.Clusters Cluster.Discards) (reconcileProfile settings now profile) := by
  apply keeps_reconcileProfile
  · intro _ _
    exact keeps_applyComponents_of_writes (fun _ _ _ object _ => discards_create object)
      (fun _ _ _ object _ => discards_update object)
      (keeps_sweepTuned _ _ _ (discards_ensureDeleted Tuned))
  · exact keeps_deleteComponents _ _ fun K _ _ key _ => discards_ensureDeleted K key
  · exact fun finalizers => discards_updateProfile _
  · exact fun _ _ _ => discards_patchStatus profile.name _

theorem onlyFor_reconcileProfile :
    Keeps (Controller.OnlyFor profile.name) (reconcileProfile settings now profile) := by
  apply keeps_reconcileProfile
  · exact fun _ _ => keeps_applyComponents_aside
  · exact Keeps.anything _
  · exact fun _ => Keeps.anything _
  · exact fun _ _ _ => Keeps.anything _

end Passes

section Whole
variable {settings : Settings} {now : Timestamp} {controller : Controller} {name : String}
variable {profile : Profile}

theorem Controller.passed_stored (settings : Settings) (now : Timestamp)
    (found : controller.cluster.peek Profile name = some profile) :
    (∃ fault, controller.cluster.check .get .performanceProfile = .error fault ∧
      controller.passed settings now name = (.error (.cluster fault), controller.counted)) ∨
    (controller.cluster.check .get .performanceProfile = .ok () ∧
      controller.passed settings now name =
        (reconcileProfile settings now profile).run controller.counted) := by
  obtain failed | ⟨_, absent, _⟩ | ⟨other, read, run⟩ :=
    Controller.passed_cases settings now name controller
  · exact .inl failed
  · rw [found] at absent
    cases absent
  · obtain ⟨allowed, same⟩ := Cluster.read_eq_ok_iff.1 read
    rw [found] at same
    cases same
    exact .inr ⟨allowed, run⟩

theorem Controller.tracked_passed {tracked : Controller → Controller → Prop}
    {relation : Cluster → Cluster → Prop} [Pass.Tracks tracked relation]
    (found : controller.cluster.peek Profile name = some profile)
    (keeps : Keeps tracked (reconcileProfile settings now profile)) :
    tracked controller (controller.passed settings now name).2 := by
  have counted : tracked controller controller.counted := Pass.Tracks.metrics controller _
  obtain ⟨fault, _, run⟩ | ⟨_, run⟩ := Controller.passed_stored settings now found
  · rw [run]
    exact counted
  · rw [run]
    exact IsTrans.trans _ _ _ counted (keeps controller.counted)

theorem Controller.onlyFor_resetRetry (name : String) (controller : Controller) :
    controller.OnlyFor name (controller.resetRetry name) := by
  unfold Controller.resetRetry
  split
  · exact Controller.OnlyFor.refl controller
  · refine ⟨⟨[], by simp⟩, fun other different => ?_⟩
    exact SortedMap.find?_insert_of_ne _ _ different

theorem Controller.onlyFor_reconcile
    (found : controller.cluster.peek Profile name = some profile) (named : profile.name = name) :
    controller.OnlyFor name (controller.reconcile settings now name).2 := by
  subst named
  have passed : controller.OnlyFor profile.name
      (controller.passed settings now profile.name).2 :=
    Controller.tracked_passed found onlyFor_reconcileProfile
  unfold Controller.reconcile
  unfold Controller.passed Controller.counted at passed
  dsimp only
  split
  · rename_i outcome after run
    rw [run] at passed
    exact passed.trans (Controller.onlyFor_resetRetry profile.name after)
  · rename_i fault after run
    rw [run] at passed
    exact ⟨passed.events, passed.retries⟩

end Whole
end NodeTuning
