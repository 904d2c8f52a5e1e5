import NodeTuning.Proofs.Cluster.Removing
import NodeTuning.Proofs.Controller.Applying

/-!
The sweep of tuned objects that belong to a profile under a name it no longer uses. Main statement:
it fails and leaves all as it was, or it deletes exactly the outdated objects.
-/
namespace NodeTuning
open Stored Steps Cluster.Action

namespace Cluster

/-- At the place is a tuned object that the sweep for the profile is after. -/
def Outdated (cluster : Cluster) (tunedNamespace : String) (profile : Profile) (place : Place) :
    Prop :=
  place.1 = .tuned ∧ ∃ uid tuned, profile.metadata.uid = some uid ∧
    cluster.peek Tuned place.2 = some tuned ∧
    tuned.metadata.inNamespace = some tunedNamespace ∧
    isOutdated uid (tunedName profile.name) tuned = true

def outdatedTuned (cluster : Cluster) (tunedNamespace uid current : String) : List Tuned :=
  (cluster.tuneds.values.filter fun tuned =>
    tuned.metadata.inNamespace = some tunedNamespace).filter (isOutdated uid current)

/-- What deletions under some keys come to when none of them fails. -/
structure Emptied (K : Type) [Stored K] (keys : List String) (before after : Cluster) :
    Prop where
  objects : ∀ kind key, after.peekAny kind key =
    if before.deferredDeletion = false ∧ kind = Resource.kind K ∧ key ∈ keys then none
    else before.peekAny kind key
  marks : ∀ place, place ∈ after.terminating ↔ place ∈ before.terminating ∨
    before.deferredDeletion = true ∧ place.1 = Resource.kind K ∧ place.2 ∈ keys ∧
      before.holds place = true
  within : before.Within { removes := fun place => place.1 = Resource.kind K ∧ place.2 ∈ keys }
    after

theorem check_congr {first second : Cluster} (same : first.failures = second.failures)
    (verb : Verb) (kind : Kind) : first.check verb kind = second.check verb kind := by
  unfold check
  rw [same]

section Deletions
variable {K : Type} [Stored K] [Lawful K]

omit [Lawful K] in
theorem Emptied.nil (cluster : Cluster) : Emptied K [] cluster cluster where
  objects kind key := by simp
  marks place := by simp
  within := Within.refl _ cluster

theorem Emptied.cons {key : String} {keys : List String} {before after : Cluster}
    (rest : Emptied K keys (deletion K before key) after) :
    Emptied K (key :: keys) before after where
  objects kind other := by
    rw [rest.objects, peekAny_deletion, deferredDeletion_deletion]
    cases before.deferredDeletion with
    | true => simp
    | false =>
      simp only [true_and, List.mem_cons]
      split <;> split <;> grind
  marks place := by
    rw [rest.marks, mem_terminating_deletion, deferredDeletion_deletion]
    cases deferred : before.deferredDeletion with
    | false => simp
    | true =>
      have held : (deletion K before key).holds place = before.holds place := by
        simp [holds, peekAny_deletion, deferred]
      obtain ⟨kind, other⟩ := place
      simp only [held, Prod.mk.injEq, List.mem_cons, true_and]
      grind
  within := by
    have first : before.Within { removes := fun place => place.1 = Resource.kind K ∧
        place.2 ∈ key :: keys } (deletion K before key) := Within.deletion ⟨rfl, by simp⟩
    refine first.trans (rest.within.mono { removes := ?_ })
    rintro place ⟨kind, member⟩
    exact ⟨kind, List.mem_cons_of_mem key member⟩

theorem run_deletions {γ : Type} (keyOf : γ → String) (items : List γ) {cluster : Cluster}
    (allowed : cluster.check .delete (Resource.kind K) = .ok ()) :
    ∃ after, (items.forM fun item => ensureDeleted K (keyOf item)).run cluster = (.ok (), after) ∧
      Emptied K (items.map keyOf) cluster after := by
  induction items generalizing cluster with
  | nil => exact ⟨cluster, rfl, .nil cluster⟩
  | cons item rest ih =>
    have deleted := run_ensureDeleted_ok allowed (keyOf item)
    have still : (deletion K cluster (keyOf item)).check .delete (Resource.kind K) = .ok () := by
      rw [check_congr (failures_deletion cluster (keyOf item)), allowed]
    obtain ⟨after, run, emptied⟩ := ih still
    exact ⟨after, (run_bind_ok deleted _).trans run, emptied.cons⟩

end Deletions

section Outdated
variable {cluster : Cluster} {kinds : Kind → Prop} {tunedNamespace uid : String}
variable {profile : Profile}

theorem mem_outdatedTuned {current : String} {tuned : Tuned} :
    tuned ∈ cluster.outdatedTuned tunedNamespace uid current ↔
      (∃ key, cluster.peek Tuned key = some tuned) ∧
        tuned.metadata.inNamespace = some tunedNamespace ∧ isOutdated uid current tuned = true := by
  have stored : tuned ∈ cluster.tuneds.values ↔ ∃ key, cluster.peek Tuned key = some tuned := by
    simp only [SortedMap.values, List.mem_map, Prod.exists, SortedMap.mem_entries_iff]
    constructor
    · rintro ⟨key, _, found, rfl⟩
      exact ⟨key, found⟩
    · rintro ⟨key, found⟩
      exact ⟨key, tuned, found, rfl⟩
  simp only [outdatedTuned, List.mem_filter, stored, decide_eq_true_eq, and_assoc]

theorem keyIn_displayName {key : String} {tuned : Tuned}
    (belongs : tuned.metadata.BelongsUnder key)
    (spaced : tuned.metadata.inNamespace = some tunedNamespace) :
    keyIn (some tunedNamespace) (Resource.displayName tuned) = key := by
  obtain ⟨named, own⟩ := belongs
  obtain ⟨name, known⟩ := Option.isSome_iff_exists.1 named
  rw [← own, spaced, known]
  simp [Resource.displayName, Resource.metadata, known]

theorem sorted_outdatedTuned {current : String} (belongs : ∀ key tuned,
    cluster.peek Tuned key = some tuned → tuned.metadata.BelongsUnder key) :
    ((cluster.outdatedTuned tunedNamespace uid current).map fun tuned =>
      keyIn (some tunedNamespace) (Resource.displayName tuned)).Pairwise (· < ·) := by
  let wanted := fun entry : String × Tuned =>
    isOutdated uid current entry.2 && decide (entry.2.metadata.inNamespace = some tunedNamespace)
  have entries : (cluster.outdatedTuned tunedNamespace uid current).map (fun tuned =>
      keyIn (some tunedNamespace) (Resource.displayName tuned)) =
        (cluster.tuneds.entries.filter wanted).map (·.1) := by
    rw [outdatedTuned, SortedMap.values, List.filter_filter, List.filter_map, List.map_map]
    apply List.map_congr_left
    intro entry member
    obtain ⟨stored, fits⟩ := List.mem_filter.1 member
    have spaced : entry.2.metadata.inNamespace = some tunedNamespace := by
      simp only [Function.comp, Bool.and_eq_true, decide_eq_true_eq] at fits
      exact fits.2
    exact keyIn_displayName (belongs _ _ ((SortedMap.mem_entries_iff ..).1 stored)) spaced
  rw [entries, List.pairwise_map]
  exact cluster.tuneds.sorted.filter wanted

/-- In an orderly cluster the sweep looks under the keys of what it is after. -/
theorem outdated_iff (tunedNamespace : String) (orderly : cluster.Orderly kinds)
    (managed : kinds .tuned) (identified : profile.metadata.uid = some uid) (place : Place) :
    cluster.Outdated tunedNamespace profile place ↔ place.1 = .tuned ∧
      place.2 ∈ (cluster.outdatedTuned tunedNamespace uid (tunedName profile.name)).map fun tuned =>
        keyIn (some tunedNamespace) (Resource.displayName tuned) := by
  simp only [Outdated, List.mem_map, mem_outdatedTuned]
  refine and_congr_right fun _ => ?_
  constructor
  · rintro ⟨other, tuned, known, found, spaced, outdated⟩
    obtain rfl : uid = other := by rw [identified] at known; exact Option.some.inj known
    exact ⟨tuned, ⟨⟨place.2, found⟩, spaced, outdated⟩,
      keyIn_displayName (orderly.peek managed found) spaced⟩
  · rintro ⟨tuned, ⟨⟨key, found⟩, spaced, outdated⟩, same⟩
    have own := keyIn_displayName (orderly.peek managed found) spaced
    rw [same] at own
    exact ⟨uid, tuned, identified, own ▸ found, spaced, outdated⟩

theorem not_outdated_own (orderly : cluster.Orderly kinds) (managed : kinds .tuned) :
    ¬ cluster.Outdated tunedNamespace profile (.tuned, tunedKey tunedNamespace profile.name) := by
  rintro ⟨_, uid, tuned, _, found, spaced, outdated⟩
  have own := keyIn_displayName (orderly.peek managed found) spaced
  have name : Resource.displayName tuned = tunedName profile.name := keyIn_inj.1 own
  simp [isOutdated, name] at outdated

theorem Outdated.unowned {place : Place} (outdated : cluster.Outdated tunedNamespace profile place)
    (orderly : cluster.Orderly kinds) (managed : kinds .tuned) :
    place ∉ profilePlaces tunedNamespace profile.name := by
  intro own
  obtain rfl := tuned_of_mem_profilePlaces own outdated.1
  exact not_outdated_own orderly managed outdated

theorem Outdated.congr {after : Cluster} {place : Place}
    (outdated : cluster.Outdated tunedNamespace profile place)
    (same : after.peekAny place.1 place.2 = cluster.peekAny place.1 place.2) :
    after.Outdated tunedNamespace profile place := by
  obtain ⟨kind, key⟩ := place
  obtain ⟨rfl, uid, tuned, identified, found, rest⟩ := outdated
  have equal : after.peek Tuned key = cluster.peek Tuned key := peek_congr same
  exact ⟨rfl, uid, tuned, identified, equal.trans found, rest⟩

/-- What is outdated after work that writes elsewhere was outdated before. -/
theorem Outdated.of_within {footprint : Footprint} {after : Cluster} {place : Place}
    (outdated : after.Outdated tunedNamespace profile place)
    (within : cluster.Within footprint after) (unwritten : ¬ footprint.writes place) :
    cluster.Outdated tunedNamespace profile place := by
  obtain ⟨kind, key⟩ := place
  obtain ⟨rfl, uid, tuned, identified, found, rest⟩ := outdated
  refine ⟨rfl, uid, tuned, identified, ?_, rest⟩
  have object : after.peekAny .tuned key = some (.tuned tuned) := by simp [peekAny, found]
  have before : cluster.peekAny .tuned key = some (.tuned tuned) := by
    rcases within.objects .tuned key with same | written | ⟨_, gone⟩ | ⟨_, same⟩
    · rw [← same, object]
    · exact absurd written unwritten
    · rw [object] at gone
      cases gone
    · rw [object, Option.map_some] at same
      obtain ⟨old, stored, bare⟩ := Option.map_eq_some_iff.1 same.symm
      cases old <;> cases bare
      exact stored
  obtain ⟨old, stored, same⟩ := Option.map_eq_some_iff.1 before
  cases same
  exact stored

end Outdated

/-- What the sweep comes to when it does not fail. -/
structure Swept (tunedNamespace : String) (profile : Profile) (before after : Cluster) :
    Prop where
  taken : before.deferredDeletion = false → ∀ place,
    before.Outdated tunedNamespace profile place → after.peekAny place.1 place.2 = none
  stays : ∀ place, before.deferredDeletion = true ∨
    ¬ before.Outdated tunedNamespace profile place →
      after.peekAny place.1 place.2 = before.peekAny place.1 place.2
  marks : ∀ place, place ∈ after.terminating ↔ place ∈ before.terminating ∨
    before.deferredDeletion = true ∧ before.Outdated tunedNamespace profile place
  within : before.Within { removes := before.Outdated tunedNamespace profile } after

section Sweep
variable {cluster : Cluster} {kinds : Kind → Prop} {tunedNamespace uid : String}
variable {profile : Profile}

theorem holds_of_outdated {place : Place}
    (outdated : cluster.Outdated tunedNamespace profile place) : cluster.holds place = true := by
  obtain ⟨kind, key⟩ := place
  obtain ⟨rfl, _, tuned, _, found, _⟩ := outdated
  simp [holds, peekAny, found]

theorem Swept.of_emptied {after : Cluster} {keys : List String}
    (reached : ∀ place : Place,
      cluster.Outdated tunedNamespace profile place ↔ place.1 = .tuned ∧ place.2 ∈ keys)
    (emptied : Emptied Tuned keys cluster after) : Swept tunedNamespace profile cluster after where
  taken immediate place outdated := by
    have found := (reached place).1 outdated
    rw [emptied.objects, if_pos ⟨immediate, found⟩]
  stays place spared := by
    rw [emptied.objects, if_neg]
    rintro ⟨immediate, found⟩
    rcases spared with deferred | other
    · rw [immediate] at deferred
      cases deferred
    · exact other ((reached place).2 found)
  marks place := by
    rw [emptied.marks]
    constructor
    · rintro (before | ⟨deferred, kind, member, _⟩)
      · exact .inl before
      · exact .inr ⟨deferred, (reached place).2 ⟨kind, member⟩⟩
    · rintro (before | ⟨deferred, outdated⟩)
      · exact .inl before
      · obtain ⟨kind, member⟩ := (reached place).1 outdated
        exact .inr ⟨deferred, kind, member, holds_of_outdated outdated⟩
  within := emptied.within.mono { removes := fun place found => (reached place).2 found }

theorem Swept.of_none (none : ∀ place, ¬ cluster.Outdated tunedNamespace profile place) :
    Swept tunedNamespace profile cluster cluster := by
  have nothing : Emptied Tuned [] cluster cluster := .nil cluster
  exact .of_emptied (fun place => by simp [none place]) nothing

theorem run_sweepTuned_unlisted {current : String} {fault : ClusterError}
    (identified : profile.metadata.uid = some uid)
    (blocked : cluster.check .list .tuned = .error fault) :
    (sweepTuned profile tunedNamespace current).run cluster = (.error fault, cluster) := by
  have failed : (ofRead (Cluster.listTuned · tunedNamespace)).run cluster =
      (.error fault, cluster) := by
    rw [run_ofRead, listTuned, blocked]
    rfl
  rw [sweepTuned, identified]
  exact run_bind_error failed _

theorem run_sweepTuned_listed {current : String} (identified : profile.metadata.uid = some uid)
    (allowed : cluster.check .list .tuned = .ok ()) :
    (sweepTuned profile tunedNamespace current).run cluster =
      ((cluster.outdatedTuned tunedNamespace uid current).forM fun tuned =>
        ensureDeleted Tuned (keyIn (some tunedNamespace) (Resource.displayName tuned))).run
        cluster := by
  have read : (ofRead (Cluster.listTuned · tunedNamespace)).run cluster =
      (.ok (cluster.tuneds.values.filter fun tuned =>
        tuned.metadata.inNamespace = some tunedNamespace), cluster) := by
    rw [run_ofRead, listTuned, allowed]
    rfl
  rw [sweepTuned, identified]
  exact run_bind_ok read _

/-- Where nothing is outdated the sweep only lists. -/
theorem run_sweepTuned_idle (orderly : cluster.Orderly kinds) (managed : kinds .tuned)
    (allowed : cluster.check .list .tuned = .ok ())
    (none : ∀ place, ¬ cluster.Outdated tunedNamespace profile place) :
    (sweepTuned profile tunedNamespace (tunedName profile.name)).run cluster =
      (.ok (), cluster) := by
  cases identified : profile.metadata.uid with
  | none =>
    unfold sweepTuned
    rw [identified]
    rfl
  | some uid =>
    have nothing : cluster.outdatedTuned tunedNamespace uid (tunedName profile.name) = [] := by
      refine List.eq_nil_iff_forall_not_mem.2 fun tuned member => ?_
      exact none (.tuned, _) ((outdated_iff tunedNamespace orderly managed identified _).2
        ⟨rfl, List.mem_map_of_mem member⟩)
    rw [run_sweepTuned_listed identified allowed, nothing]
    rfl

/-- The sweep of an orderly cluster fails on the listing, or on the first deletion if there is one
to make, or it goes through. -/
theorem run_sweepTuned_cases (tunedNamespace : String) (orderly : cluster.Orderly kinds)
    (managed : kinds .tuned) (identified : profile.metadata.uid = some uid) :
    let sweep := sweepTuned profile tunedNamespace (tunedName profile.name)
    (∃ fault, cluster.check .list .tuned = .error fault ∧
      sweep.run cluster = (.error fault, cluster)) ∨
    (cluster.check .list .tuned = .ok () ∧
      ∃ fault, cluster.check .delete .tuned = .error fault ∧
        (∃ place, cluster.Outdated tunedNamespace profile place) ∧
        sweep.run cluster = (.error fault, cluster)) ∨
    (cluster.check .list .tuned = .ok () ∧
      ((∃ place, cluster.Outdated tunedNamespace profile place) →
        cluster.check .delete .tuned = .ok ()) ∧
      ∃ after, sweep.run cluster = (.ok (), after) ∧
        Swept tunedNamespace profile cluster after) := by
  intro sweep
  let listed := cluster.outdatedTuned tunedNamespace uid (tunedName profile.name)
  let keyOf := fun tuned : Tuned => keyIn (some tunedNamespace) (Resource.displayName tuned)
  have reached := outdated_iff tunedNamespace orderly managed identified
  cases listing : cluster.check .list .tuned with
  | error fault => exact .inl ⟨fault, rfl, run_sweepTuned_unlisted identified listing⟩
  | ok =>
    have whole : sweep.run cluster =
        (listed.forM fun tuned => ensureDeleted Tuned (keyOf tuned)).run cluster :=
      run_sweepTuned_listed identified listing
    rw [whole]
    cases allowed : cluster.check .delete .tuned with
    | ok =>
      obtain ⟨after, run, emptied⟩ := run_deletions (K := Tuned) keyOf listed allowed
      exact .inr (.inr ⟨rfl, fun _ => rfl, after, run, .of_emptied reached emptied⟩)
    | error fault =>
      cases found : listed with
      | nil =>
        have none : ∀ place, ¬ cluster.Outdated tunedNamespace profile place := by
          intro place outdated
          have member := ((reached place).1 outdated).2
          have none : cluster.outdatedTuned tunedNamespace uid (tunedName profile.name) = [] :=
            found
          rw [none] at member
          cases member
        exact .inr (.inr ⟨rfl, fun ⟨place, outdated⟩ => absurd outdated (none place), cluster, rfl,
          .of_none none⟩)
      | cons first rest =>
        have outdated : cluster.Outdated tunedNamespace profile (.tuned, keyOf first) := by
          refine (reached _).2 ⟨rfl, List.mem_map.2 ⟨first, ?_, rfl⟩⟩
          change first ∈ listed
          rw [found]
          exact List.mem_cons_self ..
        refine .inr (.inl ⟨rfl, fault, rfl, ⟨_, outdated⟩, ?_⟩)
        exact run_bind_error (run_ensureDeleted_error allowed (keyOf first)) _

theorem run_sweepTuned_ends (tunedNamespace : String) (orderly : cluster.Orderly kinds)
    (managed : kinds .tuned) (identified : profile.metadata.uid = some uid) :
    let sweep := sweepTuned profile tunedNamespace (tunedName profile.name)
    (∃ fault, sweep.run cluster = (.error fault, cluster)) ∨
      ∃ after, sweep.run cluster = (.ok (), after) ∧
        Swept tunedNamespace profile cluster after := by
  obtain ⟨fault, _, run⟩ | ⟨_, fault, _, _, run⟩ | ⟨_, _, after, run, swept⟩ :=
    run_sweepTuned_cases tunedNamespace orderly managed identified
  · exact .inl ⟨fault, run⟩
  · exact .inl ⟨fault, run⟩
  · exact .inr ⟨after, run, swept⟩

theorem swept_of_run {after : Cluster} (orderly : cluster.Orderly kinds) (managed : kinds .tuned)
    (run : (sweepTuned profile tunedNamespace (tunedName profile.name)).run cluster =
      (.ok (), after)) : Swept tunedNamespace profile cluster after := by
  cases identified : profile.metadata.uid with
  | none =>
    unfold sweepTuned at run
    rw [identified] at run
    cases run
    refine .of_none fun place outdated => ?_
    obtain ⟨_, _, _, known, _⟩ := outdated
    rw [identified] at known
    cases known
  | some uid =>
    obtain ⟨_, failed⟩ | ⟨_, done, swept⟩ :=
      run_sweepTuned_ends tunedNamespace orderly managed identified
    · rw [failed] at run
      cases run
    · rw [done] at run
      cases run
      exact swept

theorem Swept.stays_own {after : Cluster} (swept : Swept tunedNamespace profile cluster after)
    (orderly : cluster.Orderly kinds) (managed : kinds .tuned) {place : Place}
    (own : place ∈ componentPlaces tunedNamespace profile.name) :
    after.peekAny place.1 place.2 = cluster.peekAny place.1 place.2 :=
  swept.stays place (.inr fun outdated =>
    outdated.unowned orderly managed (List.mem_cons_of_mem _ own))

end Sweep
end Cluster
end NodeTuning
