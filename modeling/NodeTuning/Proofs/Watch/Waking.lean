import NodeTuning.Proofs.Watch.News
import NodeTuning.Proofs.Watch.Selection
import NodeTuning.Watch.Watcher

/-!
Which profiles a change of a pool wakes. Main statement: if the change makes a pass over a profile
come to another report on its pools, then the profile is woken, unless the pool has lost the label
that the profile selects pools by. The choice goes by the labels that the pool has now, so nothing
tells the profile of a pool that has left it.
-/
namespace NodeTuning

namespace Agenda
variable {agenda : Agenda} {profile : ProfileRef} {time : Nat}

/-- A pass over the profile is due by some time. -/
def Awaits (agenda : Agenda) (profile : ProfileRef) (time : Nat) : Prop :=
  ∃ pending ∈ agenda, pending.profile = profile ∧ pending.due ≤ time

theorem awaits_request_self (agenda : Agenda) (profile : ProfileRef) (time : Nat) :
    (request profile time agenda).Awaits profile (time + 1) := by
  induction agenda with
  | nil => exact ⟨_, List.mem_singleton_self _, rfl, Nat.le_refl _⟩
  | cons pending rest ih =>
    unfold request
    split
    · rename_i same
      split
      · exact ⟨_, List.mem_cons_self, rfl, Nat.le_refl _⟩
      · exact ⟨pending, List.mem_cons_self, same, by omega⟩
    · obtain ⟨waiting, member, due⟩ := ih
      exact ⟨waiting, List.mem_cons_of_mem _ member, due⟩

theorem Awaits.request (awaited : agenda.Awaits profile (time + 1)) (other : ProfileRef) :
    (Agenda.request other time agenda).Awaits profile (time + 1) := by
  by_cases same : other = profile
  · exact same ▸ awaits_request_self agenda other time
  · obtain ⟨pending, member, rfl, due⟩ := awaited
    induction agenda with
    | nil => cases member
    | cons first rest ih =>
      unfold Agenda.request
      rcases List.mem_cons.1 member with rfl | later
      · rw [if_neg (Ne.symm same)]
        exact ⟨pending, List.mem_cons_self, rfl, due⟩
      · split
        · exact ⟨pending, List.mem_cons_of_mem _ later, rfl, due⟩
        · obtain ⟨waiting, listed, kept⟩ := ih later
          exact ⟨waiting, List.mem_cons_of_mem _ listed, kept⟩

theorem Awaits.requestAll (awaited : agenda.Awaits profile (time + 1))
    (others : List ProfileRef) : (agenda.requestAll others time).Awaits profile (time + 1) := by
  induction others generalizing agenda with
  | nil => exact awaited
  | cons other rest ih => exact ih (awaited.request other)

theorem awaits_requestAll {profiles : List ProfileRef} (member : profile ∈ profiles)
    (agenda : Agenda) (time : Nat) :
    (agenda.requestAll profiles time).Awaits profile (time + 1) := by
  induction profiles generalizing agenda with
  | nil => cases member
  | cons other rest ih =>
    rcases List.mem_cons.1 member with rfl | later
    · exact (awaits_request_self agenda profile time).requestAll rest
    · exact ih later _

end Agenda

/-- What a pass over a profile finds its pools to give reason to report. -/
def Profile.poolVerdict (profile : Profile) (cluster : Cluster) :
    Except ControllerError (Option Report) :=
  ((poolReport profile).run { cluster }).1

section Verdict
variable {cluster : Cluster} {profile : Profile} {labels : Labels} {pool : MachineConfigPool}

/-- The pool is among those that are listed for a label. -/
def MachineConfigPool.IsListed (pool : MachineConfigPool) (label : String × String) : Prop :=
  let query := (LabelSelector.ofLabels (SortedMap.empty.insert label.1 label.2)).query
  (LabelSelector.ofLabels (LabelSelector.labelsOfQuery query)).selects (Resource.labels pool) = true

theorem Cluster.poolsWith_put {label : String × String} (new : ¬ pool.IsListed label)
    (old : ∀ other, cluster.peek MachineConfigPool (storeKey pool) = some other →
      ¬ other.IsListed label) : (cluster.put pool).poolsWith label = cluster.poolsWith label :=
  SortedMap.filter_values_insert (Bool.not_eq_true _ ▸ new)
    fun other found => Bool.not_eq_true _ ▸ old other found

theorem Profile.poolVerdict_congr {other : Cluster} (calm : cluster.failures = .empty)
    (calmToo : other.failures = .empty) (labelled : profile.poolLabels = .ok labels)
    (same : ∀ label ∈ labels.entries, cluster.poolsWith label = other.poolsWith label) :
    profile.poolVerdict cluster = profile.poolVerdict other := by
  have pools : cluster.poolsFor labels = other.poolsFor labels := by
    rw [Cluster.poolsFor, Cluster.poolsFor, List.flatMap_def, List.flatMap_def,
      List.map_inj_left.2 same]
  have here : (poolReport profile).run { cluster } = _ := run_poolReport_eq (Cluster.listable_of_calm calm _) labelled
  have there : (poolReport profile).run { cluster := other } = _ :=
    run_poolReport_eq (Cluster.listable_of_calm calmToo _) labelled
  rw [poolVerdict, poolVerdict, here, there]
  dsimp only
  rw [pools]

theorem MachineConfigPool.isListed_iff {label : String × String} (queryable : Queryable label) :
    pool.IsListed label ↔ (Resource.labels pool).find? label.1 = some label.2 :=
  LabelSelector.selects_query queryable _

/-- A change between two pools that both lack the labels of a profile changes nothing for it. -/
theorem Profile.poolVerdict_put (calm : cluster.failures = .empty)
    (labelled : profile.poolLabels = .ok labels)
    (queryable : ∀ label ∈ labels.entries, Queryable label) (new : ¬ pool.Carries labels)
    (old : ∀ other, cluster.peek MachineConfigPool (storeKey pool) = some other →
      ¬ other.Carries labels) :
    profile.poolVerdict (cluster.put pool) = profile.poolVerdict cluster := by
  have unlisted : ∀ other : MachineConfigPool, ¬ other.Carries labels →
      ∀ label ∈ labels.entries, ¬ other.IsListed label := by
    intro other lacks label member listed
    exact lacks ⟨label, member, (other.isListed_iff (queryable label member)).1 listed⟩
  refine poolVerdict_congr calm calm labelled fun label member => ?_
  exact Cluster.poolsWith_put (unlisted pool new label member)
    fun other found => unlisted other (old other found) label member

end Verdict

theorem option_mapM_of_isSome {α β : Type} (f : α → Option β) (items : List α)
    (each : ∀ item ∈ items, (f item).isSome) : ∃ results, items.mapM f = some results ∧
      ∀ result, result ∈ results ↔ ∃ item ∈ items, f item = some result := by
  induction items with
  | nil => exact ⟨[], rfl, by simp⟩
  | cons item rest ih =>
    obtain ⟨first, head⟩ := Option.isSome_iff_exists.1 (each item List.mem_cons_self)
    obtain ⟨others, tail, members⟩ :=
      ih fun other later => each other (List.mem_cons_of_mem _ later)
    refine ⟨first :: others, by simp [List.mapM_cons, head, tail], fun result => ?_⟩
    simp [members, head, eq_comm]

theorem mem_profilesForPool? {profiles : List Profile}
    (named : ∀ profile ∈ profiles, profile.metadata.name.isSome) (pool : MachineConfigPool) :
    ∃ references, profilesForPool? profiles pool = some references ∧
      ∀ reference, reference ∈ references ↔ ∃ profile ∈ profiles,
        profile.selectsPool pool = true ∧ ProfileRef.ofProfile? profile = some reference := by
  have referred : ∀ profile ∈ profiles.filter (·.selectsPool pool),
      (ProfileRef.ofProfile? profile).isSome := by
    intro profile member
    simpa [ProfileRef.ofProfile?] using named profile (List.mem_filter.1 member).1
  obtain ⟨references, chosen, members⟩ := option_mapM_of_isSome _ _ referred
  refine ⟨references, chosen, fun reference => ?_⟩
  rw [members reference]
  simp only [List.mem_filter, and_assoc]

/-- A profile with one label to select pools by is chosen for the pools that carry it. -/
theorem Profile.selectsPool_iff_carries {profile : Profile} {labels : Labels}
    (labelled : profile.poolLabels = .ok labels) (single : labels.entries.length = 1)
    (pool : MachineConfigPool) : profile.selectsPool pool = true ↔ pool.Carries labels := by
  rw [Profile.selectsPool_iff labelled, MachineConfigPool.Carries]
  obtain ⟨label, entries⟩ := List.length_eq_one_iff.1 single
  simp [entries]

/-- A pool that is replaced by one with another fingerprint is news. Each remembered profile for
which a pass would then come to another report is among the profiles that are chosen, and a pass
over it is due within a second, unless the pool carried the label of the profile before and does so
no more, or a list of pools can't ask for this label. -/
theorem poolChange_wakes (watcher : Watcher) (cluster : Cluster)
    (before after : MachineConfigPool) (now : Nat)
    (accepted : ∀ profile ∈ watcher.cache, profile.validate = .ok ())
    (named : ∀ profile ∈ watcher.cache, profile.metadata.name.isSome)
    (selective : ∀ profile ∈ watcher.cache, ∀ labels, profile.poolLabels = .ok labels →
      labels.isEmpty = false)
    (calm : cluster.failures = .empty)
    (stored : cluster.peek MachineConfigPool (storeKey after) = some before)
    (news : watcher.seen.find? (Resource.displayName after) ≠ some after.fingerprint) :
    (watcher.seen.observe after).1 = true ∧
    ∃ references, profilesForPool? watcher.cache after = some references ∧
      ∀ profile ∈ watcher.cache,
        profile.poolVerdict (cluster.put after) ≠ profile.poolVerdict cluster →
        ∃ reference labels, ProfileRef.ofProfile? profile = some reference ∧
          profile.poolLabels = .ok labels ∧
          ((∀ label ∈ labels.entries, Queryable label) →
            (before.Carries labels → after.Carries labels) →
            reference ∈ references ∧
              (watcher.observePool after now).agenda.Awaits reference (now + 1)) := by
  have changed : (watcher.seen.observe after).1 = true :=
    (Fingerprints.observe_changed_iff _ _).2 news
  obtain ⟨references, chosen, members⟩ := mem_profilesForPool? named after
  refine ⟨changed, references, chosen, fun profile member differs => ?_⟩
  obtain ⟨labels, labelled, small⟩ := Profile.poolLabels_of_validate (accepted profile member)
  have filled := selective profile member labels labelled
  have single : labels.entries.length = 1 := by
    have := List.length_pos_iff.2 (List.isEmpty_eq_false_iff.1 filled)
    omega
  obtain ⟨name, known⟩ := Option.isSome_iff_exists.1 (named profile member)
  have reference : ProfileRef.ofProfile? profile = some ⟨name, profile.metadata.inNamespace⟩ := by
    simp [ProfileRef.ofProfile?, known]
  refine ⟨_, labels, reference, labelled, fun queryable stays => ?_⟩
  have carried : after.Carries labels := by
    by_contra lacks
    apply differs
    refine Profile.poolVerdict_put calm labelled queryable lacks fun other found => ?_
    rw [stored] at found
    cases found
    exact mt stays lacks
  have selected := (Profile.selectsPool_iff_carries labelled single after).2 carried
  have listed := (members _).2 ⟨profile, member, selected, reference⟩
  refine ⟨listed, ?_⟩
  unfold Watcher.observePool
  simp only [changed, if_true, chosen, Option.getD_some]
  exact Agenda.awaits_requestAll listed _ now

theorem poolChange_wakes_degraded :
    let before := workerPool
    let after := degradedPool (some "NodeFailed") none
    let cluster := Cluster.put {} before
    let watcher : Watcher :=
      { cache := [smallProfile], seen := (Fingerprints.observe .empty before).2 }
    smallProfile.validate = .ok () ∧
    cluster.peek MachineConfigPool (storeKey after) = some before ∧
    watcher.seen.find? (Resource.displayName after) ≠ some after.fingerprint ∧
    smallProfile.poolVerdict (cluster.put after) ≠ smallProfile.poolVerdict cluster ∧
    (watcher.observePool after 5).agenda.Awaits ⟨"small", none⟩ 6 := by
  intro before after cluster watcher
  have valid : smallProfile.validate = .ok () := by decide +kernel
  have news : watcher.seen.find? (Resource.displayName after) ≠ some after.fingerprint := by
    decide +kernel
  have differs :
      smallProfile.poolVerdict (cluster.put after) ≠ smallProfile.poolVerdict cluster := by
    decide +kernel
  have single : ∀ profile ∈ watcher.cache, profile = smallProfile := by simp [watcher]
  obtain ⟨_, references, _, woken⟩ := poolChange_wakes watcher cluster before after 5
    (fun profile member => single profile member ▸ valid)
    (fun profile member => single profile member ▸ rfl)
    (fun profile member labels labelled => by
      rw [single profile member, Profile.poolLabels_small] at labelled
      cases labelled
      rfl)
    rfl rfl news
  obtain ⟨reference, labels, named, labelled, heard⟩ :=
    woken smallProfile (List.mem_singleton_self _) differs
  cases named
  have queryable := Profile.queryable_small labelled
  rw [Profile.poolLabels_small] at labelled
  cases labelled
  obtain ⟨_, due⟩ := heard queryable fun _ =>
    ⟨(roleLabel, "worker"), List.mem_singleton_self _, by decide +kernel⟩
  exact ⟨valid, rfl, news, differs, due⟩

/-- The small profile with a label for pools that no query can carry. -/
def commaProfile : Profile :=
  { smallProfile with spec := { smallProfile.spec with
      machineConfigPoolSelector := some (SortedMap.empty.insert "zone,rack" "7") } }

/-- Two accepted profiles that no event wakes although their passes would come to another report:
the degraded pool of the first one loses its label, and the second one has a label that is cut in
two where it is asked for, so that its passes look at pools that it does not select. -/
theorem poolChange_unheard :
    (let before := degradedPool (some "NodeFailed") none
      let after := { before with metadata := { name := some "worker" } }
      let cluster := Cluster.put {} before
      let seen := (Fingerprints.observe .empty before).2
      smallProfile.validate = .ok () ∧ smallProfile.metadata.name = some "small" ∧
      smallProfile.poolLabels = .ok (SortedMap.empty.insert roleLabel "worker") ∧
      cluster.peek MachineConfigPool (storeKey after) = some before ∧
      seen.find? (Resource.displayName after) ≠ some after.fingerprint ∧
      smallProfile.poolVerdict (cluster.put after) ≠ smallProfile.poolVerdict cluster ∧
      profilesForPool? [smallProfile] after = some []) ∧
    (let labels : Labels := SortedMap.empty.insert "rack" "7"
      let before := { workerPool with metadata := { name := some "worker", labels := some labels } }
      let after := { degradedPool (some "NodeFailed") none with metadata := before.metadata }
      let cluster := Cluster.put {} before
      let seen := (Fingerprints.observe .empty before).2
      commaProfile.validate = .ok () ∧ commaProfile.metadata.name = some "small" ∧
      commaProfile.poolLabels = .ok (SortedMap.empty.insert "zone,rack" "7") ∧
      cluster.peek MachineConfigPool (storeKey after) = some before ∧
      seen.find? (Resource.displayName after) ≠ some after.fingerprint ∧
      commaProfile.poolVerdict (cluster.put after) ≠ commaProfile.poolVerdict cluster ∧
      profilesForPool? [commaProfile] after = some []) := by
  refine ⟨⟨?_, rfl, Profile.poolLabels_small, rfl, ?_, ?_, ?_⟩, ?_, rfl, rfl, rfl, ?_, ?_, ?_⟩ <;>
    decide +kernel

end NodeTuning
