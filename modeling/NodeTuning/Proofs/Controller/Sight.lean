import NodeTuning.Proofs.Cluster.Likeness
import NodeTuning.Proofs.Controller.Confinement
import NodeTuning.Proofs.Coupling

/-!
What a pass sees of a cluster. Two clusters that look alike to a profile may differ in all that its
passes neither read nor write. Main statement: they still look alike after work at one place of the
profile, if it leaves the same there.
-/
namespace NodeTuning
open Stored Cluster.Action

/-- A profile with the places beside its own that are looked at, and the places where nothing was
stored at first. -/
structure Sight where
  settings : Settings
  profile : Profile
  others : Place → Prop
  fresh : Place → Bool

namespace Sight

def own (sight : Sight) : List Place :=
  profilePlaces sight.settings.tunedNamespace sight.profile.name

def Sees (sight : Sight) (place : Place) : Prop := place ∈ sight.own ∨ sight.others place

/-- Once a pass has begun to write, new objects may have other uids and conditions other times. -/
def blur (sight : Sight) (late : Bool) (place : Place) (object : AnyObject) : AnyObject :=
  if late then
    if sight.fresh place then object.timeless.anonymous else object.timeless
  else object

end Sight

namespace Cluster

def Outdating (cluster : Cluster) (sight : Sight) (place : Place) : Prop :=
  cluster.Outdated sight.settings.tunedNamespace sight.profile place

structure Alike (sight : Sight) (late : Bool) (one two : Cluster) : Prop where
  orderlyOne : one.Orderly fun _ => True
  orderlyTwo : two.Orderly fun _ => True
  objects : ∀ place, sight.Sees place →
    (one.peekAny place.1 place.2).map (sight.blur late place) =
      (two.peekAny place.1 place.2).map (sight.blur late place)
  marks : ∀ place, sight.Sees place → (place ∈ one.terminating ↔ place ∈ two.terminating)
  pools : one.pools = two.pools
  failures : one.failures = two.failures
  deferredDeletion : one.deferredDeletion = two.deferredDeletion
  calls : (one.calls.filter fun call => (call.kind, call.key) ∈ sight.own) =
    two.calls.filter fun call => (call.kind, call.key) ∈ sight.own
  stuck : one.check .delete .tuned ≠ .ok () →
    ((∃ place, one.Outdating sight place) ↔ ∃ place, two.Outdating sight place)

namespace Alike
variable {sight : Sight} {late : Bool} {one two : Cluster} {place : Place}

theorem check (alike : Alike sight late one two) (verb : Verb) (kind : Kind) :
    one.check verb kind = two.check verb kind :=
  check_congr alike.failures verb kind

theorem check_cases (alike : Alike sight late one two) (verb : Verb) (kind : Kind) :
    (∃ fault, one.check verb kind = .error fault ∧ two.check verb kind = .error fault) ∨
      one.check verb kind = .ok () ∧ two.check verb kind = .ok () := by
  rw [alike.check]
  cases two.check verb kind with
  | error fault => exact .inl ⟨fault, rfl, rfl⟩
  | ok => exact .inr ⟨rfl, rfl⟩

theorem holds (alike : Alike sight late one two) (seen : sight.Sees place) :
    one.holds place = two.holds place := by
  have same := congrArg Option.isSome (alike.objects place seen)
  rwa [Option.isSome_map, Option.isSome_map] at same

theorem peek_cases {K : Type} [Stored K] [Lawful K] {key : String}
    (alike : Alike sight late one two) (seen : sight.Sees (Resource.kind K, key)) :
    (one.peek K key = none ∧ two.peek K key = none) ∨
    ∃ object object', one.peek K key = some object ∧ two.peek K key = some object' ∧
      sight.blur late (Resource.kind K, key) (toAny object) =
        sight.blur late (Resource.kind K, key) (toAny object') := by
  have same := alike.objects _ seen
  rw [Lawful.peekAny_kind, Lawful.peekAny_kind] at same
  cases found : one.peek K key with
  | none =>
    cases found' : two.peek K key with
    | none => exact .inl ⟨rfl, rfl⟩
    | some object' =>
      rw [found, found'] at same
      cases same
  | some object =>
    cases found' : two.peek K key with
    | none =>
      rw [found, found'] at same
      cases same
    | some object' =>
      rw [found, found'] at same
      exact .inr ⟨object, object', rfl, rfl, Option.some.inj same⟩

theorem peekAny_early (alike : Alike sight false one two) (seen : sight.Sees place) :
    one.peekAny place.1 place.2 = two.peekAny place.1 place.2 := by
  have same := alike.objects place seen
  have early : sight.blur false place = id := rfl
  rwa [early, Option.map_id, id, id] at same

theorem peek_early {K : Type} [Stored K] [Lawful K] {key : String}
    (alike : Alike sight false one two) (seen : sight.Sees (Resource.kind K, key)) :
    one.peek K key = two.peek K key :=
  peek_congr (alike.peekAny_early seen)

theorem weaken (alike : Alike sight false one two) (late : Bool) : Alike sight late one two :=
  { alike with objects := fun place seen => by rw [alike.peekAny_early seen] }

end Alike

theorem pools_of_peekAny {one two : Cluster} (same : ∀ key,
    two.peekAny .machineConfigPool key = one.peekAny .machineConfigPool key) :
    two.pools = one.pools := by
  apply SortedMap.ext_find?
  intro key
  have found : two.peek MachineConfigPool key = one.peek MachineConfigPool key :=
    peek_congr (same key)
  exact found

theorem not_outdating_own {cluster : Cluster} {sight : Sight} {place : Place}
    (orderly : cluster.Orderly fun _ => True) (own : place ∈ sight.own) :
    ¬ cluster.Outdating sight place :=
  fun outdated => outdated.unowned orderly trivial own

/-- Work at one place, which marks it at most. -/
structure Acts (place : Place) (before after : Cluster) : Prop where
  orderly : before.Orderly (fun _ => True) → after.Orderly fun _ => True
  within : before.Within (.only place) after
  marked : ∀ other ∈ before.terminating, other ∈ after.terminating

namespace Acts
variable {place : Place} {before middle after : Cluster}

theorem put {K : Type} [Stored K] [Lawful K] (cluster : Cluster) {object : K} {verb : Verb}
    {key : String} (own : storeKey object = key) (named : (Resource.metadata object).name.isSome)
    (logged : (Footprint.only (Resource.kind K, key)).Permits ⟨verb, Resource.kind K, key⟩) :
    Acts (Resource.kind K, key) cluster
      ((cluster.put object).record verb (Resource.kind K) key) where
  orderly orderly := (orderly.put named).record _ _ _
  within := Within.put (by rw [own]; rfl) logged
  marked := (Discards.put cluster object verb (Resource.kind K) key).marked

theorem remove (cluster : Cluster) (key : String) : Acts (.performanceProfile, key) cluster
    ((cluster.remove Profile key).record .update .performanceProfile key) where
  orderly orderly := (orderly.remove key).record _ _ _
  within := by
    refine Within.of_change ?_ rfl (by simp) (fun _ member => .inl (by simpa using member))
      (by simp) (by simp)
    intro kind other
    rw [peekAny_remove]
    split
    · rename_i here
      exact .inr (.inl (Prod.ext here.1 here.2))
    · exact .inl rfl
  marked := (Discards.remove_profile cluster key .update .performanceProfile).marked

theorem deletion (K : Type) [Stored K] [Lawful K] (cluster : Cluster) (key : String) :
    Acts (Resource.kind K, key) cluster (Action.deletion K cluster key) where
  orderly orderly := orderly.deletion key
  within := Within.deletion rfl
  marked := (Discards.deletion (K := K) cluster key).marked

theorem untouched {other : Place} (apart : other ≠ place) :
    ¬ (Footprint.only place).Touches other := by
  rintro (same | same | same) <;> exact apart same

/-- Work at a place of the profile makes nothing outdated and leaves alone what was. -/
theorem outdating_iff {sight : Sight} (acts : Acts place before after) (own : place ∈ sight.own)
    (orderly : before.Orderly fun _ => True) (other : Place) :
    after.Outdating sight other ↔ before.Outdating sight other := by
  by_cases here : other = place
  · subst here
    exact ⟨fun outdated => absurd outdated (not_outdating_own (acts.orderly orderly) own),
      fun outdated => absurd outdated (not_outdating_own orderly own)⟩
  · have same := acts.within.peekAny_eq (untouched here)
    exact ⟨fun outdated => outdated.congr same.symm, fun outdated => outdated.congr same⟩

end Acts

theorem kind_of_mem_own {sight : Sight} {place : Place} (own : place ∈ sight.own) :
    place.1 ≠ .machineConfigPool := by
  rw [Sight.own, profilePlaces, List.mem_cons] at own
  rcases own with rfl | member
  · intro impossible
    cases impossible
  · exact (kind_of_mem_componentPlaces member).2

namespace Alike
variable {sight : Sight} {late : Bool} {one one' two two' : Cluster} {place : Place}

/-- Clusters that look alike still do after work at a place of the profile, if they look alike
there. -/
theorem act (alike : Alike sight late one two) (own : place ∈ sight.own)
    (first : Acts place one one') (second : Acts place two two')
    (object : (one'.peekAny place.1 place.2).map (sight.blur late place) =
      (two'.peekAny place.1 place.2).map (sight.blur late place))
    (mark : place ∈ one'.terminating ↔ place ∈ two'.terminating)
    (calls : ∃ more, one'.calls = one.calls ++ more ∧ two'.calls = two.calls ++ more) :
    Alike sight late one' two' := by
  refine ⟨first.orderly alike.orderlyOne, second.orderly alike.orderlyTwo, ?_, ?_, ?_, ?_, ?_, ?_,
    ?_⟩
  · intro other seen
    by_cases here : other = place
    · rw [here, object]
    · rw [first.within.peekAny_eq (Acts.untouched here),
        second.within.peekAny_eq (Acts.untouched here)]
      exact alike.objects other seen
  · intro other seen
    by_cases here : other = place
    · rw [here]
      exact mark
    · have before := alike.marks other seen
      constructor
      · intro member
        have old := (first.within.terminating other member).resolve_right here
        exact second.marked other (before.1 old)
      · intro member
        have old := (second.within.terminating other member).resolve_right here
        exact first.marked other (before.2 old)
  · have apart : ∀ key, (Kind.machineConfigPool, key) ≠ place := by
      rintro key rfl
      exact kind_of_mem_own own rfl
    rw [pools_of_peekAny fun key => first.within.peekAny_eq (Acts.untouched (apart key)),
      pools_of_peekAny fun key => second.within.peekAny_eq (Acts.untouched (apart key)),
      alike.pools]
  · rw [first.within.failures, second.within.failures, alike.failures]
  · rw [first.within.deferredDeletion, second.within.deferredDeletion, alike.deferredDeletion]
  · obtain ⟨more, loggedOne, loggedTwo⟩ := calls
    rw [loggedOne, loggedTwo, List.filter_append, List.filter_append, alike.calls]
  · intro blocked
    rw [check_congr first.within.failures] at blocked
    simp only [first.outdating_iff own alike.orderlyOne, second.outdating_iff own alike.orderlyTwo]
    exact alike.stuck blocked

theorem put {K : Type} [Stored K] [Lawful K] {object object' : K} {verb : Verb} {key : String}
    (alike : Alike sight late one two) (own : (Resource.kind K, key) ∈ sight.own)
    (here : storeKey object = key) (here' : storeKey object' = key)
    (named : (Resource.metadata object).name.isSome)
    (named' : (Resource.metadata object').name.isSome)
    (logged : (Footprint.only (Resource.kind K, key)).Permits ⟨verb, Resource.kind K, key⟩)
    (same : sight.blur late (Resource.kind K, key) (toAny object) =
      sight.blur late (Resource.kind K, key) (toAny object')) :
    Alike sight late ((one.put object).record verb (Resource.kind K) key)
      ((two.put object').record verb (Resource.kind K) key) := by
  refine alike.act own (Acts.put one here named logged) (Acts.put two here' named' logged) ?_ ?_ ?_
  · rw [peekAny_record, peekAny_record, peekAny_put, peekAny_put, if_pos ⟨rfl, here.symm⟩,
      if_pos ⟨rfl, here'.symm⟩, Option.map_some, Option.map_some, same]
  · have before := alike.marks _ (.inl own)
    simpa [record] using before
  · exact ⟨[⟨verb, Resource.kind K, key⟩], by simp [record], by simp [record]⟩

theorem remove_profile {key : String} (alike : Alike sight late one two)
    (own : (Kind.performanceProfile, key) ∈ sight.own) :
    Alike sight late ((one.remove Profile key).record .update .performanceProfile key)
      ((two.remove Profile key).record .update .performanceProfile key) := by
  refine alike.act own (Acts.remove one key) (Acts.remove two key) ?_ ?_ ?_
  · simp [peekAny_remove]
  · have before := alike.marks _ (.inl own)
    simpa [record] using before
  · exact ⟨[⟨.update, .performanceProfile, key⟩], by simp [record], by simp [record]⟩

theorem countUid {K : Type} [Stored K] (alike : Alike sight late one two) (object : K) :
    Alike sight late (one.countUid object) (two.countUid object) := by
  unfold Cluster.countUid
  split
  · exact alike
  · have same : ∀ (cluster : Cluster) kind key,
        ({ cluster with uidCount := cluster.uidCount + 1 } : Cluster).peekAny kind key =
          cluster.peekAny kind key := by
      intro cluster kind key
      cases kind <;> rfl
    refine ⟨alike.orderlyOne.of_objects (same one), alike.orderlyTwo.of_objects (same two), ?_,
      alike.marks, alike.pools, alike.failures, alike.deferredDeletion, alike.calls, alike.stuck⟩
    intro place seen
    rw [same, same]
    exact alike.objects place seen

end Alike
end Cluster
end NodeTuning
