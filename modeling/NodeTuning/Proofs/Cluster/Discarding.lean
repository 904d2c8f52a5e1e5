import NodeTuning.Proofs.Cluster.Removing

/-!
How objects go from a cluster. Unless deletion is deferred an object goes at once and no mark is
made; if it is deferred only profiles go. Main statement: every write keeps to this.
-/
namespace NodeTuning.Cluster
open Stored Steps

/-- One cluster comes from another by work that deletes objects in the way of the first one. -/
structure Discards (before after : Cluster) : Prop where
  deferredDeletion : after.deferredDeletion = before.deferredDeletion
  marked : ∀ place ∈ before.terminating, place ∈ after.terminating
  immediate : before.deferredDeletion = false → after.terminating = before.terminating
  deferred : before.deferredDeletion = true → ∀ place, place.1 ≠ .performanceProfile →
    before.holds place = true → after.holds place = true

structure Unmoved (before after : Cluster) (place : Place) : Prop where
  object : after.peekAny place.1 place.2 = before.peekAny place.1 place.2
  mark : place ∈ after.terminating ↔ place ∈ before.terminating

/-- What was at a place is gone, or marked if deletion is deferred. -/
structure Discarded (before after : Cluster) (place : Place) : Prop where
  immediate : before.deferredDeletion = false → after.peekAny place.1 place.2 = none ∧
    (place ∈ after.terminating ↔ place ∈ before.terminating)
  deferred : before.deferredDeletion = true →
    after.peekAny place.1 place.2 = before.peekAny place.1 place.2 ∧ place ∈ after.terminating

namespace Discards

theorem refl (cluster : Cluster) : Discards cluster cluster :=
  ⟨rfl, fun _ member => member, fun _ => rfl, fun _ _ _ held => held⟩

theorem trans {first second third : Cluster} (one : Discards first second)
    (two : Discards second third) : Discards first third where
  deferredDeletion := two.deferredDeletion.trans one.deferredDeletion
  marked place member := two.marked place (one.marked place member)
  immediate once := by
    have again := one.deferredDeletion.trans once
    exact (two.immediate again).trans (one.immediate once)
  deferred late place other held := by
    have again := one.deferredDeletion.trans late
    exact two.deferred again place other (one.deferred late place other held)

instance : IsPreorder Cluster Discards where
  refl := refl
  trans _ _ _ := trans

/-- Work that marks nothing and empties places of profiles only. -/
theorem of_holds {before after : Cluster}
    (deferredDeletion : after.deferredDeletion = before.deferredDeletion)
    (terminating : after.terminating = before.terminating)
    (holds : ∀ place, place.1 ≠ .performanceProfile → before.holds place = true →
      after.holds place = true) : Discards before after :=
  ⟨deferredDeletion, fun _ member => terminating ▸ member, fun _ => terminating, fun _ => holds⟩

variable {K : Type} [Stored K] [Lawful K]

theorem put (cluster : Cluster) (object : K) (verb : Verb) (kind : Kind) (key : String) :
    Discards cluster ((cluster.put object).record verb kind key) := by
  refine of_holds (deferredDeletion_put cluster object) (terminating_put cluster object) ?_
  intro place _ held
  rw [holds_record, Cluster.holds, peekAny_put]
  split
  · rfl
  · exact held

omit [Lawful K] in
theorem countUid (cluster : Cluster) (object : K) :
    Discards cluster (cluster.countUid object) := by
  refine of_holds ?_ ?_ fun place _ held => by simpa [Cluster.holds] using held
  · unfold Cluster.countUid
    split <;> rfl
  · unfold Cluster.countUid
    split <;> rfl

theorem remove_profile (cluster : Cluster) (key : String) (verb : Verb) (kind : Kind) :
    Discards cluster ((cluster.remove Profile key).record verb kind key) := by
  refine of_holds (deferredDeletion_remove cluster key) (terminating_remove cluster key) ?_
  intro place other held
  rw [holds_record, Cluster.holds, peekAny_remove, if_neg fun found => other found.1]
  exact held

theorem deletion (cluster : Cluster) (key : String) :
    Discards cluster (Action.deletion K cluster key) where
  deferredDeletion := deferredDeletion_deletion cluster key
  marked place member := (mem_terminating_deletion cluster key place).2 (.inl member)
  immediate once := by
    unfold Action.deletion discard
    split
    · rw [if_neg (by simp [once])]
      exact terminating_remove cluster key
    · rfl
  deferred late place _ held := by
    rw [holds, peekAny_deletion, if_neg (by simp [late])]
    exact held

end Discards

namespace Action
variable {K : Type} [Stored K] [Lawful K]

theorem discards_create (object : K) : Keeps Discards (ofWrite (Cluster.create · object)) := by
  apply keeps_ofWrite
  intro cluster created after ok
  obtain ⟨_, _, rfl, rfl⟩ := create_eq_ok_iff.1 ok
  exact (Discards.countUid cluster object).trans (Discards.put ..)

theorem discards_update (object : K) : Keeps Discards (ofWrite (Cluster.update · object)) := by
  apply keeps_ofWrite
  intro cluster updated after ok
  obtain ⟨_, existing, _, rfl, rfl⟩ := update_eq_ok_iff.1 ok
  exact Discards.put ..

theorem discards_updateProfile (profile : Profile) :
    Keeps Discards (ofWrite (Cluster.updateProfile · profile)) := by
  apply keeps_ofWrite
  intro cluster updated after ok
  obtain ⟨_, existing, _, rfl, rfl⟩ := updateProfile_eq_ok_iff.1 ok
  split
  · exact Discards.remove_profile ..
  · exact Discards.put ..

theorem discards_patchStatus (key : String) (status : ProfileStatus) :
    Keeps Discards (ofWrite (Cluster.patchStatus · key status)) := by
  apply keeps_ofWrite
  intro cluster done after ok
  obtain ⟨_, existing, _, rfl⟩ := patchStatus_eq_ok_iff.1 ok
  exact Discards.put ..

theorem discards_ensureDeleted (K : Type) [Stored K] [Lawful K] (key : String) :
    Keeps Discards (ensureDeleted K key) := by
  intro cluster
  cases allowed : cluster.check .delete (Resource.kind K) with
  | ok =>
    rw [run_ensureDeleted_ok allowed]
    exact Discards.deletion cluster key
  | error fault =>
    rw [run_ensureDeleted_error allowed]
    exact Discards.refl cluster

end Action
end NodeTuning.Cluster
