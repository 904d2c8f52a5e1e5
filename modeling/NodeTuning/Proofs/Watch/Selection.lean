import NodeTuning.Proofs.Component.Derivability
import NodeTuning.Proofs.Controller.PoolSelection
import NodeTuning.Watch.ProfileRef

/-!
Which pools concern a profile. A change of a pool wakes the profiles of which it carries all labels,
and a pass looks at the pools that carry one of them. Main statement: for profiles that the check
accepts both mean the same pools, but for a profile with no label to select pools by, which every
pool wakes and whose passes look at none.
-/
namespace NodeTuning

variable {profile : Profile}

/-- A profile that the check accepts selects pools by one label, or by none if it says so itself. -/
theorem Profile.poolLabels_of_validate (valid : profile.validate = .ok ()) :
    ∃ labels, profile.poolLabels = .ok labels ∧ labels.entries.length ≤ 1 := by
  obtain ⟨derivable, _, single⟩ := Profile.validate_eq_ok_iff.1 valid
  obtain ⟨labels, labelled⟩ := derivable.poolLabels
  refine ⟨labels, labelled, ?_⟩
  cases given : profile.spec.machineConfigPoolSelector with
  | some own =>
    rw [Profile.poolLabels, given] at labelled
    cases labelled
    exact single.poolSelector labels given
  | none =>
    rw [Profile.poolLabels, given] at labelled
    dsimp only at labelled
    unfold Profile.roleLabels at labelled
    split at labelled
    · split at labelled
      · cases labelled
        exact Nat.le_refl 1
      · cases labelled
    · cases labelled

theorem profilesForPool?_single {name : String} (named : profile.metadata.name = some name)
    (pool : MachineConfigPool) : profilesForPool? [profile] pool =
      some (if profile.selectsPool pool then [⟨name, profile.metadata.inNamespace⟩] else []) := by
  have reference : ProfileRef.ofProfile? profile = some ⟨name, profile.metadata.inNamespace⟩ := by
    simp [ProfileRef.ofProfile?, named]
  cases selected : profile.selectsPool pool <;>
    simp [profilesForPool?, selected, reference]

theorem Profile.selectsPool_iff {labels : Labels} (labelled : profile.poolLabels = .ok labels)
    (pool : MachineConfigPool) : profile.selectsPool pool = true ↔
      ∀ label ∈ labels.entries, (Resource.labels pool).find? label.1 = some label.2 := by
  rw [Profile.selectsPool, labelled]
  exact LabelSelector.selects_ofLabels_iff

/-- For a profile that the check accepts, a stored pool wakes the profile exactly if it is among the
pools that a pass collects, unless the profile selects pools by no label at all. Such a profile is
woken by every pool and collects none. -/
theorem woken_iff_collected (profile : Profile) (name : String) (cluster : Cluster)
    (named : profile.metadata.name = some name) (valid : profile.validate = .ok ())
    (queryable : ∀ labels, profile.poolLabels = .ok labels →
      ∀ label ∈ labels.entries, Queryable label)
    (calm : cluster.failures = .empty) (pools : cluster.PoolsNamed) :
    ∃ labels collected, profile.poolLabels = .ok labels ∧
      (collectPools labels.entries .empty).run cluster = (.ok collected, cluster) ∧
      ∀ key pool, cluster.peek MachineConfigPool key = some pool →
        ∃ references, profilesForPool? [profile] pool = some references ∧
          (labels.isEmpty = false →
            (⟨name, profile.metadata.inNamespace⟩ ∈ references ↔ pool ∈ collected)) ∧
          (labels.isEmpty = true →
            ⟨name, profile.metadata.inNamespace⟩ ∈ references ∧ pool ∉ collected) := by
  obtain ⟨labels, labelled, small⟩ := Profile.poolLabels_of_validate valid
  refine ⟨labels, cluster.poolsFor labels, labelled, run_collectPools_entries (Cluster.listable_of_calm calm _), ?_⟩
  intro key pool found
  refine ⟨_, profilesForPool?_single named pool, ?_⟩
  have woken : (⟨name, profile.metadata.inNamespace⟩ : ProfileRef) ∈
      (if profile.selectsPool pool then [⟨name, profile.metadata.inNamespace⟩] else []) ↔
      ∀ label ∈ labels.entries, (Resource.labels pool).find? label.1 = some label.2 := by
    rw [← Profile.selectsPool_iff labelled pool]
    cases profile.selectsPool pool <;> simp
  have collected : pool ∈ cluster.poolsFor labels ↔
      cluster.HoldsPool pool ∧ pool.Carries labels :=
    Cluster.mem_poolsFor pools (queryable labels labelled)
  have held : cluster.HoldsPool pool := ⟨key, found⟩
  rw [woken, collected]
  match entries : labels.entries with
  | [] => simp [SortedMap.isEmpty, MachineConfigPool.Carries, entries]
  | [label] => simp [SortedMap.isEmpty, MachineConfigPool.Carries, entries, held]
  | _ :: _ :: _ => simp [entries] at small

theorem woken_iff_collected_worker :
    let cluster := Cluster.put {} workerPool
    smallProfile.validate = .ok () ∧ cluster.PoolsNamed ∧
    ∃ labels collected, smallProfile.poolLabels = .ok labels ∧
      (∀ label ∈ labels.entries, Queryable label) ∧
      (collectPools labels.entries .empty).run cluster = (.ok collected, cluster) ∧
      workerPool ∈ collected := by
  intro cluster
  have valid : smallProfile.validate = .ok () := by decide +kernel
  have orderly : cluster.Orderly fun _ => True := Cluster.Orderly.empty.put rfl
  have pools : cluster.PoolsNamed :=
    .of_orderly orderly trivial (Cluster.unspaced_put (fun _ _ none => by cases none) rfl)
  obtain ⟨labels, collected, labelled, run, selected⟩ :=
    woken_iff_collected smallProfile "small" cluster rfl valid
      (fun _ => Profile.queryable_small) rfl pools
  obtain ⟨references, woken, same, _⟩ := selected "worker" workerPool rfl
  refine ⟨valid, pools, labels, collected, labelled, Profile.queryable_small labelled, run, ?_⟩
  rw [Profile.poolLabels_small] at labelled
  cases labelled
  apply (same rfl).1
  have known : profilesForPool? [smallProfile] workerPool = some [⟨"small", none⟩] := by
    decide +kernel
  rw [known] at woken
  cases woken
  simp [smallProfile]

/-- The small profile with a selector for pools that has no labels. -/
def indifferentProfile : Profile :=
  { smallProfile with spec := { smallProfile.spec with machineConfigPoolSelector := some .empty } }

/-- The check accepts the profile, a stored pool wakes it, and its passes do not collect that
pool. -/
theorem indifferent_woken_not_collected :
    let cluster := Cluster.put {} workerPool
    indifferentProfile.validate = .ok () ∧ indifferentProfile.poolLabels = .ok .empty ∧
    cluster.peek MachineConfigPool "worker" = some workerPool ∧
    ∃ references collected, profilesForPool? [indifferentProfile] workerPool = some references ∧
      (collectPools (SortedMap.empty : Labels).entries .empty).run cluster =
        (.ok collected, cluster) ∧
      ¬ (⟨"small", none⟩ ∈ references ↔ workerPool ∈ collected) := by
  intro cluster
  refine ⟨by decide +kernel, rfl, rfl, [⟨"small", none⟩], [], by decide +kernel, rfl, ?_⟩
  simp

end NodeTuning
