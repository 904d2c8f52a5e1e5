import NodeTuning.Proofs.Cluster.Likeness
import NodeTuning.Proofs.Controller.Applied

/-!
Objects that have been brought to what they should be. Merging is idempotent, so what has been
written once is not changed again, whatever uid and version it was given. Main statement: planning
anew from settled objects asks for the same objects.
-/
namespace NodeTuning
open Stored Steps Cluster.Action

theorem mergeLabels_self (labels : Option Labels) : mergeLabels labels labels = labels := by
  unfold mergeLabels
  cases labels with
  | none => rfl
  | some own =>
    dsimp only
    split
    · rfl
    · refine congrArg some (SortedMap.ext_find? fun key => ?_)
      rw [Option.getD_some, SortedMap.find?_extend, Option.or_self]

theorem mergeLabels_mergeLabels (existing desired : Option Labels) :
    mergeLabels (mergeLabels existing desired) desired = mergeLabels existing desired := by
  unfold mergeLabels
  cases desired with
  | none => rfl
  | some own =>
    dsimp only
    split
    · rfl
    · refine congrArg some (SortedMap.ext_find? fun key => ?_)
      simp only [Option.getD_some, SortedMap.find?_extend]
      cases own.find? key <;> rfl

theorem mergeLabels_eq_self {existing desired : Option Labels}
    (realized : ∀ key, (existing.getD .empty).find? key =
      ((desired.getD .empty).find? key).or ((existing.getD .empty).find? key)) :
    mergeLabels existing desired = existing := by
  unfold mergeLabels
  cases desired with
  | none => rfl
  | some labels =>
    dsimp only
    split
    · rfl
    rename_i filled
    have same : (existing.getD .empty).extend labels = existing.getD .empty := by
      apply SortedMap.ext_find?
      intro key
      rw [SortedMap.find?_extend]
      exact (realized key).symm
    rw [same]
    cases existing with
    | some own => rfl
    | none =>
      -- Without labels none can have a desired value, so none is desired.
      cases entries : labels.entries with
      | nil => simp [SortedMap.isEmpty, entries] at filled
      | cons entry rest =>
        have wanted := (labels.mem_entries_iff entry.1 entry.2).1 (by simp [entries])
        have there := realized entry.1
        simp [wanted] at there

namespace ObjectMeta

theorem merge_self (metadata : ObjectMeta) : metadata.merge metadata = metadata := by
  simp only [merge, mergeLabels_self]

theorem merge_merge (existing desired : ObjectMeta) :
    (existing.merge desired).merge desired = existing.merge desired := by
  simp only [merge, mergeLabels_mergeLabels]

def unversioned (metadata : ObjectMeta) : ObjectMeta :=
  { metadata with uid := none, resourceVersion := none }

/-- Merging keeps uids and versions, so it can't change these alone. -/
theorem merge_eq_self {existing desired : ObjectMeta}
    (same : (existing.merge desired).unversioned = existing.unversioned) :
    existing.merge desired = existing := by
  have labels : mergeLabels existing.labels desired.labels = existing.labels :=
    congrArg ObjectMeta.labels same
  have annotations : mergeLabels existing.annotations desired.annotations = existing.annotations :=
    congrArg ObjectMeta.annotations same
  rw [merge, labels, annotations]

end ObjectMeta

section Objects
variable {K : Type} [Component K] [Stored.Lawful K] [Component.Lawful K] [Plain K]

def unversioned (object : K) : K :=
  Resource.withMetadata object (Resource.metadata object).unversioned

/-- What a desired object comes to over what is there, if anything. -/
def mergedInto (existing : Option K) (desired : K) : K :=
  match existing with
  | none => desired
  | some existing => merged existing desired

omit [Component.Lawful K] [Plain K] in
theorem toAny_unversioned (object : K) :
    toAny (unversioned object) = (toAny object).unversioned := by
  rw [unversioned, Lawful.toAny_withMetadata, AnyObject.unversioned, Lawful.metadata_toAny]
  rfl

omit [Component.Lawful K] in
theorem unversioned_withMetadata (object : K) {metadata : ObjectMeta}
    (same : metadata.unversioned = (Resource.metadata object).unversioned) :
    unversioned (Resource.withMetadata object metadata) = unversioned object := by
  rw [unversioned, Lawful.metadata_withMetadata, Plain.withMetadata_withMetadata, same]
  rfl

theorem merged_merged (existing desired : K) :
    merged (merged existing desired) desired = merged existing desired := by
  have metadata := metadata_merged existing desired
  rw [merged, metadata, ObjectMeta.merge_merge, ← metadata, Plain.withMetadata_metadata, merged,
    Component.Lawful.withSpecOf_withSpecOf]

theorem merged_mergedInto (existing : Option K) (desired : K) :
    merged (mergedInto existing desired) desired = mergedInto existing desired := by
  cases existing with
  | none =>
    rw [mergedInto, merged, ObjectMeta.merge_self, Plain.withMetadata_metadata,
      Component.Lawful.withSpecOf_self]
  | some existing => exact merged_merged existing desired

theorem unversioned_merged (existing desired : K) :
    unversioned (merged existing desired) = merged (unversioned existing) desired := by
  have metadata := metadata_merged existing desired
  rw [unversioned, metadata, merged, merged, ← Component.Lawful.withSpecOf_withMetadata,
    Plain.withMetadata_withMetadata, unversioned, Plain.withMetadata_withMetadata,
    Lawful.metadata_withMetadata]
  rfl

theorem unversioned_merged_congr {existing other : K} (desired : K)
    (same : unversioned existing = unversioned other) :
    unversioned (merged existing desired) = unversioned (merged other desired) := by
  rw [unversioned_merged, unversioned_merged, same]

theorem merged_eq_of_unversioned {existing desired : K}
    (same : unversioned (merged existing desired) = unversioned existing) :
    merged existing desired = existing := by
  have restored : ∀ object : K, object =
      Resource.withMetadata (unversioned object) (Resource.metadata object) := by
    intro object
    rw [unversioned, Plain.withMetadata_withMetadata, Plain.withMetadata_metadata]
  have own : Resource.metadata (merged existing desired) = Resource.metadata existing := by
    have parts := congrArg Resource.metadata same
    simp only [unversioned, Lawful.metadata_withMetadata, metadata_merged] at parts
    rw [metadata_merged, ObjectMeta.merge_eq_self parts]
  rw [restored (merged existing desired), same, own, ← restored]

omit [Component.Lawful K] in
theorem Realizes.merged_eq {stored desired : K} (realizes : Realizes (some stored) desired stored) :
    merged stored desired = stored := by
  have metadata : (Resource.metadata stored).merge (Resource.metadata desired) =
      Resource.metadata stored := by
    unfold ObjectMeta.merge
    rw [mergeLabels_eq_self realizes.labels, mergeLabels_eq_self realizes.annotations]
  rw [merged, metadata, Plain.withMetadata_metadata, realizes.spec]

omit [Component.Lawful K] in
theorem Realizes.plan_eq_unchanged {before : Option K} {desired stored : K}
    (realizes : Realizes before desired stored) :
    Write.plan (some stored) desired = .unchanged := by
  have again : Realizes (some stored) desired stored := by
    refine ⟨realizes.spec, fun key => ?_, fun key => ?_, fun object same => ?_⟩
    · rw [Option.bind_some, realizes.labels]
      cases (Resource.labels desired).find? key <;> rfl
    · rw [Option.bind_some, realizes.annotations]
      cases (Resource.annotations desired).find? key <;> rfl
    · cases same
      rfl
  exact Write.plan_of_merged_eq again.merged_eq

end Objects

namespace Cluster
variable {K : Type} [Component K] [Stored.Lawful K] [Component.Lawful K] [Plain K]
variable {start middle now later : Cluster} {key : String} {desired : K}

/-- Under a key is what a desired object comes to over what was there at the start. -/
def Settled (start now : Cluster) (key : String) (desired : K) : Prop :=
  ∃ stored, now.peek K key = some stored ∧
    unversioned stored = unversioned (mergedInto (start.peek K key) desired)

omit [Lawful K] [Component.Lawful K] [Plain K] in
theorem Settled.congr (settled : start.Settled now key desired)
    (same : later.peek K key = now.peek K key) : start.Settled later key desired := by
  obtain ⟨stored, found, reached⟩ := settled
  exact ⟨stored, same.trans found, reached⟩

omit [Component.Lawful K] [Plain K] in
theorem Settled.agree (first : start.Settled now key desired)
    (second : start.Settled later key desired) :
    (now.peekAny (Resource.kind K) key).map AnyObject.unversioned =
      (later.peekAny (Resource.kind K) key).map AnyObject.unversioned := by
  obtain ⟨stored, found, reached⟩ := first
  obtain ⟨other, there, same⟩ := second
  simp only [Lawful.peekAny_kind, found, there, Option.map_some, ← toAny_unversioned, reached, same]

/-- What is settled over what was settled before is settled over the start. -/
theorem Settled.rebase
    (before : middle.peek K key = start.peek K key ∨ start.Settled middle key desired)
    (settled : middle.Settled now key desired) : start.Settled now key desired := by
  obtain ⟨stored, found, reached⟩ := settled
  refine ⟨stored, found, reached.trans ?_⟩
  rcases before with kept | ⟨earlier, there, same⟩
  · rw [kept]
  · rw [there]
    change unversioned (merged earlier desired) = _
    rw [unversioned_merged_congr desired same, merged_mergedInto]

omit [Component.Lawful K] in
theorem Settled.of_applied (applied : AppliedAt start now key desired)
    (same : now.peek K key = start.peek K key) : start.Settled now key desired := by
  obtain ⟨stored, found, realizes⟩ := applied
  have before := same.symm.trans found
  rw [before] at realizes
  refine ⟨stored, found, ?_⟩
  rw [before, mergedInto, realizes.merged_eq]

/-- What is settled has nothing left to change. -/
theorem Settled.merged_eq (settled : start.Settled now key desired) :
    ∃ stored, now.peek K key = some stored ∧ merged stored desired = stored := by
  obtain ⟨stored, found, reached⟩ := settled
  refine ⟨stored, found, merged_eq_of_unversioned ?_⟩
  rw [unversioned_merged_congr desired reached, merged_mergedInto, reached]

omit [Component.Lawful K] in
theorem settled_of_create {cluster after : Cluster} {created : K}
    (absent : start.peek K (storeKey desired) = none)
    (ok : cluster.create desired = .ok (created, after)) :
    start.Settled after (storeKey desired) desired := by
  obtain ⟨_, _, rfl, rfl⟩ := create_eq_ok_iff.1 ok
  refine ⟨cluster.asCreated desired, ?_, ?_⟩
  · rw [peek_record, peek_put, if_pos (storeKey_asCreated ..).symm]
  · rw [absent]
    exact unversioned_withMetadata desired rfl

theorem settled_of_update {cluster after : Cluster} {existing updated : K}
    (orderly : start.Orderly fun _ => True)
    (found : start.peek K (storeKey desired) = some existing)
    (ok : cluster.update (merged existing desired) = .ok (updated, after)) :
    start.Settled after (storeKey desired) desired := by
  obtain ⟨_, other, _, rfl, rfl⟩ := update_eq_ok_iff.1 ok
  have own : storeKey (merged existing desired) = storeKey desired := by
    have belongs := (orderly.peek trivial found).2
    rw [storeKey, metadata_merged]
    exact belongs
  refine ⟨asUpdated other (merged existing desired), ?_, ?_⟩
  · rw [peek_record, peek_put, storeKey_asUpdated, if_pos own.symm]
  · rw [found]
    exact unversioned_withMetadata (merged existing desired) rfl

/-- Under a key nothing has changed since, or what is desired there is settled. -/
def Settles (start : Cluster) (key : String) (desired : K) (before after : Cluster) : Prop :=
  after.peek K key = before.peek K key ∨ start.Settled after key desired

instance : IsPreorder Cluster (start.Settles key desired) where
  refl _ := .inl rfl
  trans _ _ _ first second := by
    rcases second with same | settled
    · rcases first with before | settled
      · exact .inl (same.trans before)
      · exact .inr (settled.congr same)
    · exact .inr settled

end Cluster

namespace Write
variable {K : Type} [Component K] [Lawful K] [Component.Lawful K] [Plain K]
variable {start : Cluster} {desired : K} {key : String}

theorem settles_perform (belongs : (Resource.metadata desired).BelongsUnder key)
    (orderly : start.Orderly fun _ => True) :
    Keeps (Pass.Clusters (start.Settles key desired))
      (plan (start.peek K (storeKey desired)) desired).perform := by
  obtain ⟨_, rfl⟩ := belongs
  apply keeps_perform
  · intro object planned
    obtain ⟨absent, rfl⟩ := plan_eq_create planned
    exact keeps_ofWrite fun _ _ _ ok => .inr (Cluster.settled_of_create absent ok)
  · intro object planned
    obtain ⟨existing, found, rfl⟩ := plan_eq_update planned
    exact keeps_ofWrite fun _ _ _ ok => .inr (Cluster.settled_of_update orderly found ok)

/-- A planned write that goes through settles its place. -/
theorem settled_of_run {before after : Controller}
    (belongs : (Resource.metadata desired).BelongsUnder key)
    (orderly : start.Orderly fun _ => True)
    (same : before.cluster.peek K key = start.peek K key)
    (run : (plan (start.peek K (storeKey desired)) desired).perform.run before =
      (.ok (), after)) : start.Settled after.cluster key desired := by
  obtain ⟨_, rfl⟩ := belongs
  cases planned : plan (start.peek K (storeKey desired)) desired with
  | create object =>
    obtain ⟨absent, rfl⟩ := plan_eq_create planned
    rw [planned] at run
    obtain ⟨_, middle, written, counted⟩ := run_bind_eq_ok_iff.1 run
    obtain ⟨cluster, ok, rfl⟩ := Pass.run_onCluster_eq_ok_iff.1 written
    cases counted
    exact Cluster.settled_of_create absent (run_ofWrite_eq_ok_iff.1 ok)
  | update object =>
    obtain ⟨existing, found, rfl⟩ := plan_eq_update planned
    rw [planned] at run
    obtain ⟨_, middle, written, counted⟩ := run_bind_eq_ok_iff.1 run
    obtain ⟨cluster, ok, rfl⟩ := Pass.run_onCluster_eq_ok_iff.1 written
    cases counted
    exact Cluster.settled_of_update orderly found (run_ofWrite_eq_ok_iff.1 ok)
  | unchanged =>
    rw [planned] at run
    cases run
    have idle : (plan (start.peek K (storeKey desired)) desired).isUnchanged = true := by
      rw [planned]
      rfl
    obtain ⟨object, existing, realizes⟩ := realizes_of_isUnchanged idle
    exact .of_applied ⟨object, same.trans existing, realizes⟩ same

end Write
end NodeTuning
