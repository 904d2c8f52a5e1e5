import NodeTuning.Proofs.Cluster.Outcome

/-!
What a stretch of work may do to a cluster. A footprint names the places that may be written, those
where only the status of a profile may change, and those that may become empty. Main statement: the
footprints of single operations, whatever is made to fail.
-/
namespace NodeTuning

def AnyObject.bare : AnyObject → AnyObject
  | .profile own => .profile { own with status := none }
  | object => object

/-- The places that may be changed, by what may happen there. -/
structure Footprint where
  writes : Place → Prop := fun _ => False
  reports : Place → Prop := fun _ => False
  removes : Place → Prop := fun _ => False

namespace Footprint

/-- What a footprint lets happen at a place. -/
def Allows (footprint : Footprint) (place : Place) (before after : Option AnyObject) : Prop :=
  after = before ∨ footprint.writes place ∨ footprint.removes place ∧ after = none ∨
    footprint.reports place ∧ after.map AnyObject.bare = before.map AnyObject.bare

def Touches (footprint : Footprint) (place : Place) : Prop :=
  footprint.writes place ∨ footprint.reports place ∨ footprint.removes place

/-- The writes that a footprint lets be logged. -/
def Permits (footprint : Footprint) (call : Call) : Prop :=
  match call.verb with
  | .create | .update => footprint.writes (call.kind, call.key)
  | .updateStatus => footprint.reports (call.kind, call.key)
  | .delete => footprint.removes (call.kind, call.key)
  | .get | .list => False

/-- Whatever may happen at one place. -/
def only (place : Place) : Footprint where
  writes := (· = place)
  reports := (· = place)
  removes := (· = place)

structure Below (footprint wide : Footprint) : Prop where
  writes : ∀ place, footprint.writes place → wide.writes place := by simp
  reports : ∀ place, footprint.reports place → wide.reports place := by simp
  removes : ∀ place, footprint.removes place → wide.removes place := by simp

variable {footprint : Footprint} {place : Place} {first second third : Option AnyObject}

theorem Below.permits {wide : Footprint} {call : Call} (wider : footprint.Below wide)
    (permitted : footprint.Permits call) : wide.Permits call := by
  unfold Permits at permitted ⊢
  cases verb : call.verb with
  | create | update =>
    rw [verb] at permitted
    exact wider.writes _ permitted
  | updateStatus =>
    rw [verb] at permitted
    exact wider.reports _ permitted
  | delete =>
    rw [verb] at permitted
    exact wider.removes _ permitted
  | get | list =>
    rw [verb] at permitted
    exact permitted

theorem touches_of_permits {call : Call} (permitted : footprint.Permits call) :
    footprint.Touches (call.kind, call.key) := by
  unfold Permits at permitted
  cases verb : call.verb with
  | create | update =>
    rw [verb] at permitted
    exact .inl permitted
  | updateStatus =>
    rw [verb] at permitted
    exact .inr (.inl permitted)
  | delete =>
    rw [verb] at permitted
    exact .inr (.inr permitted)
  | get | list =>
    rw [verb] at permitted
    exact permitted.elim

theorem Allows.trans (one : footprint.Allows place first second)
    (two : footprint.Allows place second third) : footprint.Allows place first third := by
  rcases two with rfl | written | gone | ⟨reported, same⟩
  · exact one
  · exact .inr (.inl written)
  · exact .inr (.inr (.inl gone))
  · rcases one with rfl | written | ⟨removed, rfl⟩ | ⟨_, before⟩
    · exact .inr (.inr (.inr ⟨reported, same⟩))
    · exact .inr (.inl written)
    · exact .inr (.inr (.inl ⟨removed, by simpa using same⟩))
    · exact .inr (.inr (.inr ⟨reported, same.trans before⟩))

end Footprint

namespace Cluster
open Stored Steps

/-- One cluster comes from another by work within a footprint. -/
structure Within (footprint : Footprint) (before after : Cluster) : Prop where
  objects : ∀ kind key,
    footprint.Allows (kind, key) (before.peekAny kind key) (after.peekAny kind key)
  calls : ∃ more, after.calls = before.calls ++ more ∧ ∀ call ∈ more, footprint.Permits call
  terminating : ∀ place ∈ after.terminating, place ∈ before.terminating ∨ footprint.removes place
  failures : after.failures = before.failures
  deferredDeletion : after.deferredDeletion = before.deferredDeletion

variable {footprint : Footprint} {K : Type} [Stored K] [Lawful K]

namespace Within

theorem refl (footprint : Footprint) (cluster : Cluster) : Within footprint cluster cluster where
  objects _ _ := .inl rfl
  calls := ⟨[], by simp⟩
  terminating _ member := .inl member
  failures := rfl
  deferredDeletion := rfl

theorem trans {first second third : Cluster} (one : Within footprint first second)
    (two : Within footprint second third) : Within footprint first third where
  objects kind key := (one.objects kind key).trans (two.objects kind key)
  calls := by
    obtain ⟨earlier, logged, permitted⟩ := one.calls
    obtain ⟨later, loggedLater, permittedLater⟩ := two.calls
    refine ⟨earlier ++ later, by rw [loggedLater, logged, List.append_assoc], ?_⟩
    intro call member
    rcases List.mem_append.1 member with old | new
    · exact permitted call old
    · exact permittedLater call new
  terminating place member :=
    (two.terminating place member).elim (one.terminating place) .inr
  failures := two.failures.trans one.failures
  deferredDeletion := two.deferredDeletion.trans one.deferredDeletion

theorem mono {wide : Footprint} {before after : Cluster} (within : Within footprint before after)
    (wider : footprint.Below wide) : Within wide before after where
  objects kind key := by
    rcases within.objects kind key with same | written | ⟨removed, gone⟩ | ⟨reported, same⟩
    · exact .inl same
    · exact .inr (.inl (wider.writes _ written))
    · exact .inr (.inr (.inl ⟨wider.removes _ removed, gone⟩))
    · exact .inr (.inr (.inr ⟨wider.reports _ reported, same⟩))
  calls := by
    obtain ⟨more, logged, permitted⟩ := within.calls
    exact ⟨more, logged, fun call member => wider.permits (permitted call member)⟩
  terminating place member := (within.terminating place member).imp_right (wider.removes place)
  failures := within.failures
  deferredDeletion := within.deferredDeletion

theorem peekAny_eq {before after : Cluster} (within : Within footprint before after) {kind : Kind}
    {key : String} (apart : ¬ footprint.Touches (kind, key)) :
    after.peekAny kind key = before.peekAny kind key := by
  rcases within.objects kind key with same | written | ⟨removed, _⟩ | ⟨reported, _⟩
  · exact same
  · exact absurd (.inl written) apart
  · exact absurd (.inr (.inr removed)) apart
  · exact absurd (.inr (.inl reported)) apart

theorem peek_eq {before after : Cluster} (within : Within footprint before after) {key : String}
    (apart : ¬ footprint.Touches (Resource.kind K, key)) :
    after.peek K key = before.peek K key :=
  peek_congr (within.peekAny_eq apart)

instance : IsPreorder Cluster (Within footprint) where
  refl := refl footprint
  trans _ _ _ := trans

theorem of_change {before after : Cluster} {verb : Verb} {kind : Kind} {key : String}
    (objects : ∀ kind key,
      footprint.Allows (kind, key) (before.peekAny kind key) (after.peekAny kind key))
    (permitted : footprint.Permits ⟨verb, kind, key⟩) (calls : after.calls = before.calls)
    (terminating : ∀ place ∈ after.terminating,
      place ∈ before.terminating ∨ footprint.removes place)
    (failures : after.failures = before.failures)
    (deferredDeletion : after.deferredDeletion = before.deferredDeletion) :
    Within footprint before (after.record verb kind key) where
  objects kind key := by
    rw [peekAny_record]
    exact objects kind key
  calls := ⟨[⟨verb, kind, key⟩], by simp [record, calls], by simpa using permitted⟩
  terminating := terminating
  failures := failures
  deferredDeletion := deferredDeletion

theorem put {cluster : Cluster} {object : K} {verb : Verb} {kind : Kind} {key : String}
    (written : footprint.writes (Resource.kind K, storeKey object))
    (permitted : footprint.Permits ⟨verb, kind, key⟩) :
    Within footprint cluster ((cluster.put object).record verb kind key) := by
  refine of_change ?_ permitted (by simp) (fun _ member => .inl (by simpa using member)) (by simp)
    (by simp)
  intro other place
  rw [peekAny_put]
  split
  · rename_i here
    exact .inr (.inl (by rw [here.1, here.2]; exact written))
  · exact .inl rfl

omit [Lawful K] in
theorem countUid (footprint : Footprint) (cluster : Cluster) (object : K) :
    Within footprint cluster (cluster.countUid object) := by
  refine ⟨fun _ _ => .inl (by simp), ⟨[], ?_, by simp⟩, ?_, ?_, ?_⟩ <;> unfold Cluster.countUid <;>
    split <;> simp +contextual

/-- Storing a profile that differs from what is there in its status only. -/
theorem report {cluster : Cluster} {existing : Profile} {key : String} (status : ProfileStatus)
    (found : cluster.peek Profile key = some existing) (own : storeKey existing = key)
    (reported : footprint.reports (.performanceProfile, key)) :
    Within footprint cluster ((cluster.put { existing with status := some status }).record
      .updateStatus .performanceProfile key) := by
  refine of_change ?_ reported (by simp) (fun _ member => .inl (by simpa using member)) (by simp)
    (by simp)
  intro other place
  rw [peekAny_put]
  split
  · rename_i here
    obtain ⟨rfl, rfl⟩ := here
    have before : cluster.peekAny .performanceProfile key = some (.profile existing) := by
      simp [peekAny, found]
    change footprint.Allows (.performanceProfile, storeKey existing)
      (cluster.peekAny .performanceProfile (storeKey existing)) _
    rw [own, before]
    exact .inr (.inr (.inr ⟨reported, rfl⟩))
  · exact .inl rfl

theorem deletion {cluster : Cluster} {key : String}
    (removed : footprint.removes (Resource.kind K, key)) :
    Within footprint cluster (Action.deletion K cluster key) := by
  unfold Action.deletion
  split
  · unfold discard
    split
    · refine of_change (fun _ _ => .inl (by simp)) removed rfl ?_ rfl rfl
      intro place member
      rcases List.mem_insert_iff.1 member with rfl | before
      · exact .inr removed
      · exact .inl before
    · refine of_change ?_ removed (by simp) (fun _ member => .inl (by simpa using member))
        (by simp) (by simp)
      intro other place
      rw [peekAny_remove]
      split
      · rename_i here
        exact .inr (.inr (.inl ⟨by rw [here.1, here.2]; exact removed, rfl⟩))
      · exact .inl rfl
  · exact refl footprint cluster

end Within

namespace Action
variable {α : Type} {relation : Cluster → Cluster → Prop} [IsPreorder Cluster relation]

theorem keeps_ofRead (operation : Cluster → Except ClusterError α) :
    Keeps relation (ofRead operation) :=
  fun cluster => refl_of relation cluster

theorem keeps_ofWrite {operation : Cluster → Except ClusterError (α × Cluster)}
    (related : ∀ cluster value after, operation cluster = .ok (value, after) →
      relation cluster after) : Keeps relation (ofWrite operation) := by
  intro cluster
  obtain ⟨value, after, ok, run⟩ | ⟨fault, _, run⟩ := run_ofWrite_cases operation cluster
  · rw [run]
    exact related cluster value after ok
  · rw [run]
    exact refl_of relation cluster

theorem keeps_create (object : K)
    (written : footprint.writes (Resource.kind K, storeKey object)) :
    Keeps (Within footprint) (ofWrite (Cluster.create · object)) := by
  apply keeps_ofWrite
  intro cluster created after ok
  obtain ⟨_, _, rfl, rfl⟩ := create_eq_ok_iff.1 ok
  refine (Within.countUid footprint cluster object).trans (Within.put ?_ written)
  rw [storeKey_asCreated]
  exact written

theorem keeps_update (object : K)
    (written : footprint.writes (Resource.kind K, storeKey object)) :
    Keeps (Within footprint) (ofWrite (Cluster.update · object)) := by
  apply keeps_ofWrite
  intro cluster updated after ok
  obtain ⟨_, existing, _, rfl, rfl⟩ := update_eq_ok_iff.1 ok
  refine Within.put ?_ written
  rw [storeKey_asUpdated]
  exact written

theorem keeps_updateProfile (profile : Profile)
    (stored : footprint.writes (.performanceProfile, storeKey profile))
    (named : footprint.writes (.performanceProfile, profile.name)) :
    Keeps (Within footprint) (ofWrite (Cluster.updateProfile · profile)) := by
  apply keeps_ofWrite
  intro cluster updated after ok
  obtain ⟨_, existing, _, rfl, rfl⟩ := updateProfile_eq_ok_iff.1 ok
  split
  · refine Within.of_change ?_ named (by simp) (fun _ member => .inl (by simpa using member))
      (by simp) (by simp)
    intro kind key
    rw [peekAny_remove]
    split
    · rename_i here
      exact .inr (.inl (by rw [here.1, here.2]; exact named))
    · exact .inl rfl
  · exact Within.put stored named

/-- A status is written to the profile under the key, wherever that profile says that it belongs. -/
theorem keeps_patchStatus (key : String) (status : ProfileStatus)
    (written : ∀ other, footprint.writes (.performanceProfile, other))
    (reported : footprint.reports (.performanceProfile, key)) :
    Keeps (Within footprint) (ofWrite (Cluster.patchStatus · key status)) := by
  apply keeps_ofWrite
  intro cluster done after ok
  obtain ⟨_, existing, _, rfl⟩ := patchStatus_eq_ok_iff.1 ok
  exact Within.put (written _) reported

theorem keeps_ensureDeleted {key : String}
    (removed : footprint.removes (Resource.kind K, key)) :
    Keeps (Within footprint) (ensureDeleted K key) := by
  intro cluster
  cases allowed : cluster.check .delete (Resource.kind K) with
  | ok =>
    rw [run_ensureDeleted_ok allowed]
    exact Within.deletion removed
  | error fault =>
    rw [run_ensureDeleted_error allowed]
    exact Within.refl footprint cluster

end Action
end Cluster
end NodeTuning
