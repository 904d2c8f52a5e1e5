import NodeTuning.Proofs.Controller.Sight

/-!
The operations of a pass on two clusters that look alike to its profile. Main statements: each of
them comes to the same result on both, and they still look alike afterwards.
-/
namespace NodeTuning
open Stored Steps Cluster.Action

section Blurring
variable {sight : Sight} {place : Place}

theorem blur_status {own own' : Profile} {status status' : ProfileStatus}
    (same : sight.blur true place (.profile own) = sight.blur true place (.profile own'))
    (undated : status.undated = status'.undated) :
    sight.blur true place (.profile { own with status := some status }) =
      sight.blur true place (.profile { own' with status := some status' }) := by
  unfold Sight.blur at same ⊢
  simp only [if_true] at same ⊢
  split at same
  · rename_i fresh
    rw [if_pos fresh, if_pos fresh]
    simp only [AnyObject.anonymous, AnyObject.timeless, AnyObject.withMetadata, AnyObject.metadata,
      AnyObject.profile.injEq, Profile.mk.injEq, Option.map_some, undated] at same ⊢
    exact ⟨same.1, same.2.1, trivial⟩
  · rename_i stale
    rw [if_neg stale, if_neg stale]
    simp only [AnyObject.timeless, AnyObject.profile.injEq, Profile.mk.injEq, Option.map_some,
      undated] at same ⊢
    exact ⟨same.1, same.2.1, trivial⟩

theorem blur_asCreated {K : Type} [Stored K] [Lawful K] [Plain K] {one two : Cluster} (object : K)
    (fresh : sight.fresh place = true) : sight.blur true place (toAny (one.asCreated object)) =
      sight.blur true place (toAny (two.asCreated object)) := by
  simp only [Sight.blur, if_true, fresh, Cluster.asCreated, Lawful.toAny_withMetadata,
    AnyObject.timeless_withMetadata, AnyObject.anonymous, AnyObject.metadata_withMetadata,
    AnyObject.withMetadata_withMetadata]

/-- Objects that look alike have the same metadata but for the uid. -/
theorem metadata_of_blur {late : Bool} {object object' : AnyObject}
    (same : sight.blur late place object = sight.blur late place object') :
    { object.metadata with uid := none } = { object'.metadata with uid := none } := by
  have blurred : ∀ object : AnyObject,
      { (sight.blur late place object).metadata with uid := none } =
        { object.metadata with uid := none } := by
    intro object
    unfold Sight.blur
    split
    · split
      · simp [AnyObject.anonymous]
      · simp
    · rfl
  rw [← blurred object, same, blurred object']

end Blurring

namespace Cluster

theorem Outdated.of_metadata {one two : Cluster} {tunedNamespace : String} {profile : Profile}
    {place : Place} {tuned tuned' : Tuned} (outdated : one.Outdated tunedNamespace profile place)
    (found : one.peek Tuned place.2 = some tuned) (found' : two.peek Tuned place.2 = some tuned')
    (same : { tuned.metadata with uid := none } = { tuned'.metadata with uid := none }) :
    two.Outdated tunedNamespace profile place := by
  obtain ⟨kind, uid, other, identified, stored, spaced, owned⟩ := outdated
  rw [found] at stored
  cases stored
  have owners := congrArg ObjectMeta.ownerReferences same
  have name := congrArg ObjectMeta.name same
  have generated := congrArg ObjectMeta.generateName same
  have space := congrArg ObjectMeta.inNamespace same
  dsimp only at owners name generated space
  refine ⟨kind, uid, tuned', identified, found', space ▸ spaced, ?_⟩
  rw [← owned]
  simp [isOutdated, Resource.owners, Resource.displayName, Resource.metadata, owners, name,
    generated]

namespace Alike
variable {sight : Sight} {late : Bool} {one two : Cluster} {place : Place}

theorem outdating_iff (alike : Alike sight late one two) (seen : sight.Sees place) :
    one.Outdating sight place ↔ two.Outdating sight place := by
  obtain ⟨kind, key⟩ := place
  have apart : ∀ cluster : Cluster, kind ≠ .tuned → ¬ cluster.Outdating sight (kind, key) :=
    fun _ other outdated => other outdated.1
  by_cases tuned : kind = .tuned
  · subst tuned
    obtain ⟨absent, absent'⟩ | ⟨object, object', found, found', same⟩ :=
      alike.peek_cases (K := Tuned) seen
    · constructor
      · rintro ⟨_, _, _, _, found, _⟩
        rw [absent] at found
        cases found
      · rintro ⟨_, _, _, _, found, _⟩
        rw [absent'] at found
        cases found
    · have metadata := metadata_of_blur same
      exact ⟨fun outdated => outdated.of_metadata found found' metadata,
        fun outdated => outdated.of_metadata found' found metadata.symm⟩
  · exact ⟨fun outdated => absurd outdated (apart one tuned),
      fun outdated => absurd outdated (apart two tuned)⟩

theorem swept {one' two' : Cluster} (alike : Alike sight late one two)
    (first : Swept sight.settings.tunedNamespace sight.profile one one')
    (second : Swept sight.settings.tunedNamespace sight.profile two two')
    (allowed : (∃ place, one.Outdating sight place) → one.check .delete .tuned = .ok ()) :
    Alike sight late one' two' where
  orderlyOne := alike.orderlyOne.within first.within fun _ _ => id
  orderlyTwo := alike.orderlyTwo.within second.within fun _ _ => id
  objects place seen := by
    -- The same objects are outdated in both, so one goes from both or stays in both.
    have outdated := alike.outdating_iff seen
    by_cases taken : one.deferredDeletion = false ∧ one.Outdating sight place
    · have taken' : two.deferredDeletion = false ∧ two.Outdating sight place :=
        ⟨alike.deferredDeletion ▸ taken.1, outdated.1 taken.2⟩
      rw [first.taken taken.1 place taken.2, second.taken taken'.1 place taken'.2]
    · have spared : one.deferredDeletion = true ∨ ¬ one.Outdating sight place := by
        by_cases immediate : one.deferredDeletion = false
        · exact .inr fun reached => taken ⟨immediate, reached⟩
        · exact .inl (by simpa using immediate)
      have spared' : two.deferredDeletion = true ∨ ¬ two.Outdating sight place := by
        rwa [← alike.deferredDeletion, ← outdated]
      rw [first.stays place spared, second.stays place spared']
      exact alike.objects place seen
  marks place seen := by
    have outdated := alike.outdating_iff seen
    unfold Outdating at outdated
    rw [first.marks, second.marks, alike.marks place seen, alike.deferredDeletion, outdated]
  pools := by
    have kept : ∀ {before after : Cluster}, Swept sight.settings.tunedNamespace sight.profile
        before after → after.pools = before.pools := by
      intro before after swept
      apply pools_of_peekAny
      intro key
      refine swept.stays (.machineConfigPool, key) (.inr ?_)
      rintro ⟨impossible, _⟩
      cases impossible
    rw [kept first, kept second, alike.pools]
  failures := by rw [first.within.failures, second.within.failures, alike.failures]
  deferredDeletion := by
    rw [first.within.deferredDeletion, second.within.deferredDeletion, alike.deferredDeletion]
  calls := by
    -- None of the places that the filter lets through is swept.
    have kept : ∀ {before after : Cluster}, before.Orderly (fun _ => True) →
        Swept sight.settings.tunedNamespace sight.profile before after →
        (after.calls.filter fun call => (call.kind, call.key) ∈ sight.own) =
          before.calls.filter fun call => (call.kind, call.key) ∈ sight.own := by
      intro before after orderly swept
      obtain ⟨more, logged, permitted⟩ := swept.within.calls
      have apart : (more.filter fun call => (call.kind, call.key) ∈ sight.own) = [] := by
        rw [List.filter_eq_nil_iff]
        intro call member own
        have touched := Footprint.touches_of_permits (permitted call member)
        have outdated : before.Outdating sight (call.kind, call.key) := by
          simpa [Outdating, Footprint.Touches] using touched
        exact not_outdating_own orderly (by simpa using own) outdated
      rw [logged, List.filter_append, apart, List.append_nil]
    rw [kept alike.orderlyOne first, kept alike.orderlyTwo second, alike.calls]
  stuck := by
    intro blocked
    rw [check_congr first.within.failures] at blocked
    have none : ¬ ∃ place, one.Outdating sight place := fun some => blocked (allowed some)
    have none' : ¬ ∃ place, two.Outdating sight place :=
      fun some => none ((alike.stuck blocked).2 some)
    constructor
    · rintro ⟨place, outdated⟩
      exact absurd ⟨place, outdated.of_within first.within id⟩ none
    · rintro ⟨place, outdated⟩
      exact absurd ⟨place, outdated.of_within second.within id⟩ none'

end Alike
end Cluster

section Reading
variable {sight : Sight} {late : Bool}

theorem couples_find? (K : Type) [Stored K] [Lawful K] {key : String}
    (own : (Resource.kind K, key) ∈ sight.own) :
    Couples (Cluster.Alike sight false) (Cluster.Alike sight false) (find? K key)
      (find? K key) := by
  intro one two alike
  rw [run_find?, run_find?, alike.check, alike.peek_early (.inl own)]
  exact ⟨rfl, alike⟩

theorem couples_isStored (K : Type) [Stored K] [Lawful K] {key : String}
    (own : (Resource.kind K, key) ∈ sight.own) :
    Couples (Cluster.Alike sight false) (Cluster.Alike sight false) (isStored K key)
      (isStored K key) := by
  unfold isStored
  rw [map_eq_pure_bind]
  exact (couples_find? K own).bind (fun found => .pure found.isSome fun _ _ => id) fun _ _ => id

theorem couples_collectPools (labels : List (String × String))
    (found : SortedMap MachineConfigPool) :
    Couples (Cluster.Alike sight late) (Cluster.Alike sight late) (collectPools labels found)
      (collectPools labels found) := by
  induction labels generalizing found with
  | nil => exact .pure _ fun _ _ => id
  | cons label rest ih =>
    obtain ⟨key, value⟩ := label
    have listed : ∀ query, Couples (Cluster.Alike sight late) (Cluster.Alike sight late)
        (ofRead (Cluster.listPools · query)) (ofRead (Cluster.listPools · query)) := by
      intro query one two alike
      rw [run_ofRead, run_ofRead, Cluster.listPools, Cluster.listPools, alike.check, alike.pools]
      exact ⟨rfl, alike⟩
    unfold collectPools
    exact (listed _).bind (fun pools => ih _) fun _ _ => id

end Reading

section Deleting
variable {sight : Sight} {late : Bool}

theorem couples_ensureDeleted (K : Type) [Stored K] [Lawful K] {key : String}
    (own : (Resource.kind K, key) ∈ sight.own) :
    Couples (Cluster.Alike sight late) (Cluster.Alike sight late) (ensureDeleted K key)
      (ensureDeleted K key) := by
  intro one two alike
  have held := alike.holds (.inl own)
  obtain ⟨fault, blocked, blocked'⟩ | ⟨allowed, allowed'⟩ :=
    alike.check_cases .delete (Resource.kind K)
  · rw [run_ensureDeleted_error blocked, run_ensureDeleted_error blocked']
    exact ⟨rfl, alike⟩
  · rw [run_ensureDeleted_ok allowed, run_ensureDeleted_ok allowed']
    refine ⟨rfl, alike.act own (.deletion K one key) (.deletion K two key) ?_ ?_ ?_⟩
    · rw [Cluster.peekAny_deletion, Cluster.peekAny_deletion, alike.deferredDeletion]
      split
      · rfl
      · exact alike.objects _ (.inl own)
    · rw [Cluster.mem_terminating_deletion, Cluster.mem_terminating_deletion,
        alike.deferredDeletion, alike.marks _ (.inl own), held]
    · rw [Cluster.calls_deletion, Cluster.calls_deletion, held]
      exact ⟨_, rfl, rfl⟩

theorem couples_sweepTuned :
    Couples (Cluster.Alike sight late) (Cluster.Alike sight late)
      (sweepTuned sight.profile sight.settings.tunedNamespace (tunedName sight.profile.name))
      (sweepTuned sight.profile sight.settings.tunedNamespace (tunedName sight.profile.name)) := by
  intro one two alike
  cases identified : sight.profile.metadata.uid with
  | none =>
    unfold sweepTuned
    rw [identified]
    exact ⟨rfl, alike⟩
  | some uid =>
    have first := Cluster.run_sweepTuned_cases sight.settings.tunedNamespace alike.orderlyOne
      trivial identified
    have second := Cluster.run_sweepTuned_cases sight.settings.tunedNamespace alike.orderlyTwo
      trivial identified
    rw [← alike.check, ← alike.check] at second
    -- The same checks fail in both, which leaves three of the nine pairs of ends.
    obtain ⟨fault, unlisted, run⟩ | ⟨listed, fault, blocked, outdated, run⟩ |
      ⟨listed, allowed, after, run, swept⟩ := first
    · obtain ⟨fault', unlisted', run'⟩ | ⟨listed', _⟩ | ⟨listed', _⟩ := second
      · rw [unlisted] at unlisted'
        cases unlisted'
        rw [run, run']
        exact ⟨rfl, alike⟩
      · rw [unlisted] at listed'
        cases listed'
      · rw [unlisted] at listed'
        cases listed'
    · have outdated' := (alike.stuck (by simp [blocked])).1 outdated
      obtain ⟨_, unlisted', _⟩ | ⟨_, fault', blocked', _, run'⟩ | ⟨_, allowed', _⟩ := second
      · rw [listed] at unlisted'
        cases unlisted'
      · rw [blocked] at blocked'
        cases blocked'
        rw [run, run']
        exact ⟨rfl, alike⟩
      · rw [blocked] at allowed'
        cases allowed' outdated'
    · obtain ⟨_, unlisted', _⟩ | ⟨_, fault', blocked', outdated', _⟩ |
        ⟨_, _, after', run', swept'⟩ := second
      · rw [listed] at unlisted'
        cases unlisted'
      · have reached := allowed ((alike.stuck (by simp [blocked'])).2 outdated')
        rw [blocked'] at reached
        cases reached
      · rw [run, run']
        exact ⟨rfl, alike.swept swept swept' allowed⟩

end Deleting

section Profiles
variable {sight : Sight}

theorem own_profile (sight : Sight) : (Kind.performanceProfile, sight.profile.name) ∈ sight.own :=
  List.mem_cons_self ..

/-- The profile is rewritten before its status is, so both runs find the same status. -/
theorem couples_updateProfile (named : sight.profile.metadata.name = some sight.profile.name)
    (unspaced : sight.profile.metadata.inNamespace = none) (finalizers : List String) :
    let next := sight.profile.withFinalizers finalizers
    Couples (Cluster.Alike sight false) (Cluster.Alike sight false)
      (ofWrite (Cluster.updateProfile · next)) (ofWrite (Cluster.updateProfile · next)) := by
  intro next
  apply couples_ofWrite
  intro one two alike
  have place : storeKey next = sight.profile.name := by
    simp [next, storeKey, Profile.withFinalizers, Resource.metadata, named, unspaced, keyIn]
  have own := own_profile sight
  have same : one.peek Profile sight.profile.name = two.peek Profile sight.profile.name :=
    alike.peek_early (.inl own)
  obtain ⟨fault, blocked, blocked'⟩ | ⟨allowed, allowed'⟩ :=
    alike.check_cases .update .performanceProfile
  · exact .inl ⟨fault, Cluster.updateProfile_blocked blocked,
      Cluster.updateProfile_blocked blocked', alike⟩
  cases found : one.peek Profile sight.profile.name with
  | none =>
    exact .inl ⟨_, Cluster.updateProfile_absent allowed found,
      Cluster.updateProfile_absent allowed' (same.symm.trans found), alike⟩
  | some existing =>
    let updated : Profile := { next with status := existing.status }
    have ok : one.updateProfile next = .ok (updated, _) :=
      Cluster.updateProfile_eq_ok_iff.2 ⟨allowed, existing, found, rfl, rfl⟩
    have ok' : two.updateProfile next = .ok (updated, _) :=
      Cluster.updateProfile_eq_ok_iff.2 ⟨allowed', existing, same.symm.trans found, rfl, rfl⟩
    refine .inr ⟨_, _, _, ok, ok', ?_⟩
    split
    · exact alike.remove_profile own
    · have name : (Resource.metadata updated).name.isSome := by
        simp [updated, next, Profile.withFinalizers, Resource.metadata, named]
      exact alike.put own place place name name rfl rfl

theorem couples_patchStatus {status status' : ProfileStatus}
    (undated : status.undated = status'.undated) :
    Couples (Cluster.Alike sight true) (Cluster.Alike sight true)
      (ofWrite (Cluster.patchStatus · sight.profile.name status))
      (ofWrite (Cluster.patchStatus · sight.profile.name status')) := by
  apply couples_ofWrite
  intro one two alike
  have own := own_profile sight
  obtain ⟨fault, blocked, blocked'⟩ | ⟨allowed, allowed'⟩ :=
    alike.check_cases .updateStatus .performanceProfile
  · exact .inl ⟨fault, Cluster.patchStatus_blocked blocked, Cluster.patchStatus_blocked blocked',
      alike⟩
  obtain ⟨absent, absent'⟩ | ⟨existing, existing', found, found', same⟩ :=
    alike.peek_cases (K := Profile) (.inl own)
  · exact .inl ⟨_, Cluster.patchStatus_absent allowed absent,
      Cluster.patchStatus_absent allowed' absent', alike⟩
  · have ok : one.patchStatus sight.profile.name status = .ok ((), _) :=
      Cluster.patchStatus_eq_ok_iff.2 ⟨allowed, existing, found, rfl⟩
    have ok' : two.patchStatus sight.profile.name status' = .ok ((), _) :=
      Cluster.patchStatus_eq_ok_iff.2 ⟨allowed', existing', found', rfl⟩
    have belongs := alike.orderlyOne.peek trivial found
    have belongs' := alike.orderlyTwo.peek trivial found'
    refine .inr ⟨_, _, _, ok, ok', alike.put own belongs.2 belongs'.2 belongs.1 belongs'.1 rfl ?_⟩
    exact blur_status same undated

end Profiles

section Components
variable {sight : Sight} {K : Type} [Component K] [Lawful K] [Plain K] {key : String}

theorem couples_create {object : K} (own : (Resource.kind K, key) ∈ sight.own)
    (belongs : (Resource.metadata object).BelongsUnder key)
    (fresh : sight.fresh (Resource.kind K, key) = true) :
    CouplesSilently (Cluster.Alike sight true) (Cluster.Alike sight true)
      (ofWrite (Cluster.create · object)) (ofWrite (Cluster.create · object)) := by
  apply couplesSilently_ofWrite
  intro one two alike
  obtain ⟨named, rfl⟩ := belongs
  obtain ⟨fault, blocked, blocked'⟩ | ⟨allowed, allowed'⟩ :=
    alike.check_cases .create (Resource.kind K)
  · exact .inl ⟨fault, Cluster.create_blocked blocked, Cluster.create_blocked blocked', alike⟩
  obtain ⟨absent, absent'⟩ | ⟨existing, existing', found, found', _⟩ :=
    alike.peek_cases (K := K) (.inl own)
  · have ok : one.create object = .ok (one.asCreated object, _) :=
      Cluster.create_eq_ok_iff.2 ⟨allowed, absent, rfl, rfl⟩
    have ok' : two.create object = .ok (two.asCreated object, _) :=
      Cluster.create_eq_ok_iff.2 ⟨allowed', absent', rfl, rfl⟩
    have name : ∀ cluster : Cluster,
        (Resource.metadata (cluster.asCreated object)).name.isSome := by
      intro cluster
      rw [Cluster.asCreated, Lawful.metadata_withMetadata]
      exact named
    have counted := alike.countUid object
    refine .inr ⟨_, _, _, _, ok, ok', counted.put own (Cluster.storeKey_asCreated one object)
      (Cluster.storeKey_asCreated two object) (name one) (name two) rfl ?_⟩
    exact blur_asCreated object fresh
  · have present : (one.peek K (storeKey object)).isSome := Option.isSome_iff_exists.2 ⟨_, found⟩
    have present' : (two.peek K (storeKey object)).isSome := Option.isSome_iff_exists.2 ⟨_, found'⟩
    exact .inl ⟨_, Cluster.create_present allowed present, Cluster.create_present allowed' present',
      alike⟩

theorem couples_update {object : K} (own : (Resource.kind K, key) ∈ sight.own)
    (belongs : (Resource.metadata object).BelongsUnder key)
    (stale : sight.fresh (Resource.kind K, key) = false) :
    Couples (Cluster.Alike sight true) (Cluster.Alike sight true)
      (ofWrite (Cluster.update · object)) (ofWrite (Cluster.update · object)) := by
  apply couples_ofWrite
  intro one two alike
  obtain ⟨named, rfl⟩ := belongs
  obtain ⟨fault, blocked, blocked'⟩ | ⟨allowed, allowed'⟩ :=
    alike.check_cases .update (Resource.kind K)
  · exact .inl ⟨fault, Cluster.update_blocked blocked, Cluster.update_blocked blocked', alike⟩
  obtain ⟨absent, absent'⟩ | ⟨existing, existing', found, found', same⟩ :=
    alike.peek_cases (K := K) (.inl own)
  · exact .inl ⟨_, Cluster.update_absent allowed absent, Cluster.update_absent allowed' absent',
      alike⟩
  · obtain rfl : existing = existing' := by
      apply Lawful.toAny_injective (K := K)
      simpa [Sight.blur, stale, Plain.timeless_toAny] using same
    have ok : one.update object = .ok (Cluster.asUpdated existing object, _) :=
      Cluster.update_eq_ok_iff.2 ⟨allowed, existing, found, rfl, rfl⟩
    have ok' : two.update object = .ok (Cluster.asUpdated existing object, _) :=
      Cluster.update_eq_ok_iff.2 ⟨allowed', existing, found', rfl, rfl⟩
    have name : (Resource.metadata (Cluster.asUpdated existing object)).name.isSome := by
      rw [Cluster.asUpdated, Lawful.metadata_withMetadata]
      exact named
    have place := Cluster.storeKey_asUpdated existing object
    exact .inr ⟨_, _, _, ok, ok', alike.put own place place name name rfl rfl⟩

end Components
end NodeTuning
