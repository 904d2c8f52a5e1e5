import NodeTuning.Cluster.Action
import NodeTuning.Proofs.Cluster.Objects
import NodeTuning.Proofs.Steps

/-!
When the operations of a cluster succeed and what they then leave behind. An operation fails if it
is made to fail, or if its object is missing or in the way.
-/
namespace NodeTuning.Cluster
open Stored

variable {K : Type} [Stored K] {cluster after : Cluster}

theorem check_error {verb : Verb} {kind : Kind} {fault : ClusterError}
    (failed : cluster.check verb kind = .error fault) : fault.isNotFound = false := by
  unfold check at failed
  split at failed
  · cases failed
    rfl
  · cases failed

theorem check_of_calm (calm : cluster.failures = .empty) (verb : Verb) (kind : Kind) :
    cluster.check verb kind = .ok () := by
  simp [check, calm]

theorem failures_of_check {verb : Verb} {kind : Kind} {fault : ClusterError}
    (failed : cluster.check verb kind = .error fault) : cluster.failures ≠ .empty := by
  intro calm
  rw [check_of_calm calm] at failed
  cases failed

theorem present_eq_ok_iff {key : String} {object : K} :
    cluster.present K key = .ok object ↔ cluster.peek K key = some object := by
  unfold present
  cases cluster.peek K key <;> simp

theorem read_eq_ok_iff {key : String} {object : K} : cluster.read K key = .ok object ↔
    cluster.check .get (Resource.kind K) = .ok () ∧ cluster.peek K key = some object := by
  simp only [read, except_bind_eq_ok_iff, present_eq_ok_iff]
  constructor
  · rintro ⟨_, allowed, found⟩
    exact ⟨allowed, found⟩
  · rintro ⟨allowed, found⟩
    exact ⟨(), allowed, found⟩

theorem create_eq_ok_iff {object created : K} : cluster.create object = .ok (created, after) ↔
    cluster.check .create (Resource.kind K) = .ok () ∧ cluster.peek K (storeKey object) = none ∧
      created = cluster.asCreated object ∧ after = ((cluster.countUid object).put created).record
        .create (Resource.kind K) (storeKey object) := by
  simp only [create, except_bind_eq_ok_iff]
  constructor
  · rintro ⟨_, allowed, done⟩
    split at done
    · cases done
    · rename_i missing
      cases done
      exact ⟨allowed, by simpa using missing, rfl, rfl⟩
  · rintro ⟨allowed, absent, rfl, rfl⟩
    exact ⟨(), allowed, by simp [absent]; rfl⟩

theorem update_eq_ok_iff {object updated : K} : cluster.update object = .ok (updated, after) ↔
    cluster.check .update (Resource.kind K) = .ok () ∧
      ∃ existing, cluster.peek K (storeKey object) = some existing ∧
        updated = asUpdated existing object ∧
        after = (cluster.put updated).record .update (Resource.kind K) (storeKey object) := by
  simp only [update, except_bind_eq_ok_iff, present_eq_ok_iff]
  constructor
  · rintro ⟨_, allowed, existing, found, done⟩
    cases done
    exact ⟨allowed, existing, found, rfl, rfl⟩
  · rintro ⟨allowed, existing, found, rfl, rfl⟩
    exact ⟨(), allowed, existing, found, rfl⟩

theorem updateProfile_eq_ok_iff {profile updated : Profile} :
    cluster.updateProfile profile = .ok (updated, after) ↔
    cluster.check .update .performanceProfile = .ok () ∧
      ∃ existing, cluster.peek Profile profile.name = some existing ∧
        updated = { profile with status := existing.status } ∧
        after = (if updated.isReleased then cluster.remove Profile profile.name
          else cluster.put updated).record .update .performanceProfile profile.name := by
  simp only [updateProfile, except_bind_eq_ok_iff, present_eq_ok_iff]
  constructor
  · rintro ⟨_, allowed, existing, found, done⟩
    cases done
    exact ⟨allowed, existing, found, rfl, rfl⟩
  · rintro ⟨allowed, existing, found, rfl, rfl⟩
    exact ⟨(), allowed, existing, found, rfl⟩

theorem updateProfile_error {profile : Profile} {fault : ClusterError}
    (failed : cluster.updateProfile profile = .error fault) (calm : cluster.failures = .empty) :
    cluster.peek Profile profile.name = none := by
  cases found : cluster.peek Profile profile.name with
  | none => rfl
  | some existing =>
    have ok := updateProfile_eq_ok_iff.2 ⟨check_of_calm calm _ _, existing, found, rfl, rfl⟩
    rw [failed] at ok
    cases ok

theorem name_of_updateProfile {profile updated : Profile}
    (ok : cluster.updateProfile profile = .ok (updated, after)) : updated.name = profile.name := by
  obtain ⟨_, existing, _, rfl, _⟩ := updateProfile_eq_ok_iff.1 ok
  rfl

theorem patchStatus_eq_ok_iff {key : String} {status : ProfileStatus} {done : Unit} :
    cluster.patchStatus key status = .ok (done, after) ↔
    cluster.check .updateStatus .performanceProfile = .ok () ∧
      ∃ existing, cluster.peek Profile key = some existing ∧
        after = (cluster.put { existing with status := some status }).record
          .updateStatus .performanceProfile key := by
  simp only [patchStatus, except_bind_eq_ok_iff, present_eq_ok_iff]
  constructor
  · rintro ⟨_, allowed, existing, found, done⟩
    cases done
    exact ⟨allowed, existing, found, rfl⟩
  · rintro ⟨allowed, existing, found, rfl⟩
    exact ⟨(), allowed, existing, found, rfl⟩

section Failing
variable {fault : ClusterError} {key : String}

theorem create_blocked {object : K}
    (blocked : cluster.check .create (Resource.kind K) = .error fault) :
    cluster.create object = .error fault := by
  simp only [create, blocked]
  rfl

theorem create_present {object : K} (allowed : cluster.check .create (Resource.kind K) = .ok ())
    (present : (cluster.peek K (storeKey object)).isSome) :
    cluster.create object = .error (.alreadyExists (Resource.kind K) (storeKey object)) := by
  simp only [create, allowed, present]
  rfl

theorem update_blocked {object : K}
    (blocked : cluster.check .update (Resource.kind K) = .error fault) :
    cluster.update object = .error fault := by
  simp only [update, blocked]
  rfl

theorem update_absent {object : K} (allowed : cluster.check .update (Resource.kind K) = .ok ())
    (absent : cluster.peek K (storeKey object) = none) :
    cluster.update object = .error (.notFound (Resource.kind K) (storeKey object)) := by
  simp only [update, allowed, present, absent]
  rfl

theorem updateProfile_blocked {profile : Profile}
    (blocked : cluster.check .update .performanceProfile = .error fault) :
    cluster.updateProfile profile = .error fault := by
  simp only [updateProfile, blocked]
  rfl

theorem updateProfile_absent {profile : Profile}
    (allowed : cluster.check .update .performanceProfile = .ok ())
    (absent : cluster.peek Profile profile.name = none) :
    cluster.updateProfile profile = .error (.notFound .performanceProfile profile.name) := by
  simp only [updateProfile, allowed, present, absent]
  rfl

theorem patchStatus_blocked {status : ProfileStatus}
    (blocked : cluster.check .updateStatus .performanceProfile = .error fault) :
    cluster.patchStatus key status = .error fault := by
  simp only [patchStatus, blocked]
  rfl

theorem patchStatus_absent {status : ProfileStatus}
    (allowed : cluster.check .updateStatus .performanceProfile = .ok ())
    (absent : cluster.peek Profile key = none) :
    cluster.patchStatus key status = .error (.notFound .performanceProfile key) := by
  simp only [patchStatus, allowed, present, absent]
  rfl

end Failing

namespace Action
open Steps
variable {α : Type}

theorem run_ofRead (operation : Cluster → Except ClusterError α) (cluster : Cluster) :
    (ofRead operation).run cluster = (operation cluster, cluster) := rfl

theorem run_ofWrite (operation : Cluster → Except ClusterError (α × Cluster))
    (cluster : Cluster) : (ofWrite operation).run cluster =
      match operation cluster with
      | Except.ok (value, after) => (Except.ok value, after)
      | Except.error fault => (Except.error fault, cluster) := rfl

theorem run_ofWrite_ok {operation : Cluster → Except ClusterError (α × Cluster)} {value : α}
    (ok : operation cluster = .ok (value, after)) :
    (ofWrite operation).run cluster = (.ok value, after) := by
  rw [run_ofWrite, ok]

theorem run_ofWrite_error {operation : Cluster → Except ClusterError (α × Cluster)}
    {fault : ClusterError} (failed : operation cluster = .error fault) :
    (ofWrite operation).run cluster = (.error fault, cluster) := by
  rw [run_ofWrite, failed]

theorem run_ofWrite_cases (operation : Cluster → Except ClusterError (α × Cluster))
    (cluster : Cluster) :
    (∃ value after, operation cluster = .ok (value, after) ∧
      (ofWrite operation).run cluster = (.ok value, after)) ∨
    (∃ fault, operation cluster = .error fault ∧
      (ofWrite operation).run cluster = (.error fault, cluster)) := by
  cases outcome : operation cluster with
  | ok done => exact .inl ⟨done.1, done.2, rfl, run_ofWrite_ok outcome⟩
  | error fault => exact .inr ⟨fault, rfl, run_ofWrite_error outcome⟩

theorem run_ofWrite_eq_ok_iff {operation : Cluster → Except ClusterError (α × Cluster)} {value : α}
    {after : Cluster} : (ofWrite operation).run cluster = (.ok value, after) ↔
      operation cluster = .ok (value, after) := by
  rw [run_ofWrite]
  constructor
  · intro run
    cases outcome : operation cluster <;> rw [outcome] at run <;> cases run
    rfl
  · intro ok
    rw [ok]

theorem run_find? (cluster : Cluster) (key : String) : (find? K key).run cluster =
    ((cluster.check .get (Resource.kind K)).map fun _ => cluster.peek K key, cluster) := by
  unfold find? read present
  rw [run_ofRead]
  cases allowed : cluster.check .get (Resource.kind K) with
  | error fault => simp [bind, Except.bind, check_error allowed, Except.map]
  | ok =>
    cases cluster.peek K key <;> simp [bind, Except.bind, ClusterError.isNotFound, Except.map]

theorem gives_find? (K : Type) [Stored K] (cluster : Cluster) (key : String) :
    Gives (cluster.check .get (Resource.kind K) ≠ .ok ()) (find? K key) cluster
      (cluster.peek K key) cluster := by
  unfold Gives
  rw [run_find?]
  cases cluster.check .get (Resource.kind K) with
  | ok => exact .inl rfl
  | error fault => exact .inr ⟨nofun, fault, cluster, rfl⟩

/-- What a deletion that does not fail leaves behind, whether or not there was an object. -/
def deletion (K : Type) [Stored K] (cluster : Cluster) (key : String) : Cluster :=
  if (cluster.peek K key).isSome then
    (cluster.discard K key).record .delete (Resource.kind K) key
  else cluster

theorem run_ensureDeleted_ok (allowed : cluster.check .delete (Resource.kind K) = .ok ())
    (key : String) :
    (ensureDeleted K key).run cluster = (.ok (), deletion K cluster key) := by
  apply run_ofWrite_ok
  simp only [delete, present, allowed, deletion]
  cases cluster.peek K key <;> rfl

theorem run_ensureDeleted_error {fault : ClusterError}
    (failed : cluster.check .delete (Resource.kind K) = .error fault) (key : String) :
    (ensureDeleted K key).run cluster = (.error fault, cluster) := by
  unfold ensureDeleted
  rw [run_ofWrite]
  simp [delete, failed, bind, Except.bind, check_error failed]

theorem gives_ensureDeleted (K : Type) [Stored K] {failures : SortedMap String}
    (same : cluster.failures = failures) (key : String) :
    Gives (failures ≠ .empty) (ensureDeleted K key) cluster () (deletion K cluster key) := by
  subst same
  cases allowed : cluster.check .delete (Resource.kind K) with
  | ok => exact .inl (run_ensureDeleted_ok allowed key)
  | error fault =>
    exact .inr ⟨failures_of_check allowed, fault, cluster, run_ensureDeleted_error allowed key⟩

end Action
end NodeTuning.Cluster
