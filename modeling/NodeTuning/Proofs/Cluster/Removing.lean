import NodeTuning.Proofs.Cluster.Footprint

/-!
What deletions and the collection of garbage leave of a cluster. An object that is still there after
its deletion is marked, and a marked object is gone once garbage is collected.
-/
namespace NodeTuning.Cluster
open Stored

variable (cluster : Cluster)

def holds (place : Place) : Bool := (cluster.peekAny place.1 place.2).isSome

def holdsAny (places : List Place) : Bool := places.any cluster.holds

theorem holdsAny_eq_false_iff {cluster : Cluster} {places : List Place} :
    cluster.holdsAny places = false ↔ ∀ place ∈ places, cluster.holds place = false := by
  simp [holdsAny]

theorem holdsAny_congr {cluster after : Cluster} {places : List Place}
    (same : ∀ place ∈ places, after.holds place = cluster.holds place) :
    after.holdsAny places = cluster.holdsAny places := by
  rw [Bool.eq_iff_iff, holdsAny, holdsAny, List.any_eq_true, List.any_eq_true]
  constructor
  · rintro ⟨place, member, held⟩
    exact ⟨place, member, same place member ▸ held⟩
  · rintro ⟨place, member, held⟩
    exact ⟨place, member, (same place member).trans held⟩

@[simp] theorem holds_record (verb : Verb) (kind : Kind) (key : String) (place : Place) :
    (cluster.record verb kind key).holds place = cluster.holds place := by
  simp [holds]

theorem holds_congr {cluster after : Cluster}
    (same : ∀ kind key, after.peekAny kind key = cluster.peekAny kind key) :
    after.holds = cluster.holds := by
  funext place
  simp [holds, same]

section Deletion
variable {K : Type} [Stored K] [Lawful K]

theorem peekAny_deletion (key : String) (kind : Kind) (other : String) :
    (Action.deletion K cluster key).peekAny kind other =
      if cluster.deferredDeletion = false ∧ kind = Resource.kind K ∧ other = key then none
      else cluster.peekAny kind other := by
  unfold Action.deletion
  split
  · rw [peekAny_record, peekAny_discard]
  · rename_i missing
    split
    · rename_i here
      obtain ⟨_, rfl, rfl⟩ := here
      rw [Lawful.peekAny_kind, Option.map_eq_none_iff]
      simpa using missing
    · rfl

theorem mem_terminating_deletion (key : String) (place : Place) :
    place ∈ (Action.deletion K cluster key).terminating ↔
      place ∈ cluster.terminating ∨ cluster.deferredDeletion = true ∧
        place = (Resource.kind K, key) ∧ cluster.holds place = true := by
  unfold Action.deletion discard
  split
  · rename_i found
    rw [← isSome_peekAny] at found
    split
    · rename_i deferred
      change place ∈ cluster.terminating.insert (Resource.kind K, key) ↔ _
      rw [List.mem_insert_iff]
      constructor
      · rintro (rfl | before)
        · exact .inr ⟨deferred, rfl, found⟩
        · exact .inl before
      · rintro (before | ⟨_, rfl, _⟩)
        · exact .inr before
        · exact .inl rfl
    · rename_i immediate
      change place ∈ (cluster.remove K key).terminating ↔ _
      simp [immediate]
  · rename_i missing
    rw [← isSome_peekAny] at missing
    constructor
    · exact .inl
    · rintro (before | ⟨_, rfl, found⟩)
      · exact before
      · exact absurd found missing

theorem calls_deletion (key : String) : (Action.deletion K cluster key).calls =
    cluster.calls ++
      if cluster.holds (Resource.kind K, key) then [⟨.delete, Resource.kind K, key⟩] else [] := by
  unfold Action.deletion
  rw [holds, isSome_peekAny]
  split
  · rw [calls_record, calls_discard]
  · rw [List.append_nil]

private theorem within_deletion (key : String) :
    cluster.Within { removes := fun _ => True } (Action.deletion K cluster key) :=
  Within.deletion trivial

@[simp] theorem deferredDeletion_deletion (key : String) :
    (Action.deletion K cluster key).deferredDeletion = cluster.deferredDeletion :=
  (within_deletion cluster key).deferredDeletion

@[simp] theorem failures_deletion (key : String) :
    (Action.deletion K cluster key).failures = cluster.failures :=
  (within_deletion cluster key).failures

end Deletion

private theorem find?_sweep {K : Type} (entries : List Place) (kind : Kind)
    (objects : SortedMap K) (key : String) :
    (entries.foldl (fun objects entry => if entry.1 = kind then objects.erase entry.2 else objects)
      objects).find? key = if (kind, key) ∈ entries then none else objects.find? key := by
  induction entries generalizing objects with
  | nil => simp
  | cons entry rest ih =>
    rw [List.foldl_cons, ih]
    by_cases later : (kind, key) ∈ rest
    · simp [later]
    · by_cases here : (kind, key) = entry
      · simp [← here]
      · have different : entry.1 = kind → key ≠ entry.2 := by
          rintro rfl rfl
          exact here rfl
        by_cases same : entry.1 = kind
        · simp [later, here, same, SortedMap.find?_erase, different same]
        · simp [later, here, same]

private theorem map_swept {K : Type} [Stored K] (object : K → AnyObject) (key : String) :
    ((cluster.swept : SortedMap K).find? key).map object =
      if (Resource.kind K, key) ∈ cluster.terminating then none
      else (cluster.peek K key).map object := by
  rw [swept, find?_sweep, apply_ite (Option.map object)]
  rfl

/-- The collection of garbage takes away what is marked, profiles and pools apart. -/
theorem peekAny_collectGarbage (kind : Kind) (key : String) :
    cluster.collectGarbage.peekAny kind key =
      if kind ≠ .performanceProfile ∧ kind ≠ .machineConfigPool ∧
        (kind, key) ∈ cluster.terminating then none
      else cluster.peekAny kind key := by
  cases kind with
  | performanceProfile => simp [peekAny, peek, collectGarbage, Stored.store]
  | machineConfigPool => simp [peekAny, peek, collectGarbage, Stored.store]
  | machineConfig =>
    have swept := map_swept cluster AnyObject.machineConfig key
    simpa [peekAny, peek, collectGarbage, Stored.store] using swept
  | kubeletConfig =>
    have swept := map_swept cluster AnyObject.kubeletConfig key
    simpa [peekAny, peek, collectGarbage, Stored.store] using swept
  | tuned =>
    have swept := map_swept cluster AnyObject.tuned key
    simpa [peekAny, peek, collectGarbage, Stored.store] using swept
  | runtimeClass =>
    have swept := map_swept cluster AnyObject.runtimeClass key
    simpa [peekAny, peek, collectGarbage, Stored.store] using swept

end NodeTuning.Cluster
