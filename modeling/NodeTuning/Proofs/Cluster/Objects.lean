import NodeTuning.Cluster.Operation

/-!
A cluster as one collection of objects, each at a place: its kind and its key. Every change of a
cluster is stated by what it does at each place. Main statements: what storing and taking away an
object does, and when and how the operations of a cluster succeed.
-/
namespace NodeTuning

abbrev Place := Kind × String

namespace AnyObject

def withMetadata (object : AnyObject) (metadata : ObjectMeta) : AnyObject :=
  match object with
  | .profile own => .profile { own with metadata }
  | .machineConfig own => .machineConfig { own with metadata }
  | .kubeletConfig own => .kubeletConfig { own with metadata }
  | .tuned own => .tuned { own with metadata }
  | .runtimeClass own => .runtimeClass { own with metadata }
  | .machineConfigPool own => .machineConfigPool { own with metadata }

@[simp] theorem metadata_withMetadata (object : AnyObject) (metadata : ObjectMeta) :
    (object.withMetadata metadata).metadata = metadata := by
  cases object <;> rfl

@[simp] theorem withMetadata_withMetadata (object : AnyObject) (first second : ObjectMeta) :
    (object.withMetadata first).withMetadata second = object.withMetadata second := by
  cases object <;> rfl

end AnyObject

namespace Stored

/-- The objects of a kind as part of the whole collection. Storing them leaves all else alone. -/
class Lawful (K : Type) [Stored K] where
  toAny : K → AnyObject
  toAny_injective : Function.Injective toAny := by
    intro first second same
    cases same
    rfl
  peekAny_kind (cluster : Cluster) (key : String) :
    cluster.peekAny (Resource.kind K) key = (cluster.peek K key).map toAny := by intros; rfl
  peekAny_withStore (cluster : Cluster) (objects : SortedMap K) (kind : Kind) (key : String)
    (other : kind ≠ Resource.kind K) :
    (withStore cluster objects).peekAny kind key = cluster.peekAny kind key := by
    intro _ _ kind _ other
    cases kind <;> first | rfl | exact absurd rfl other
  kind_toAny (object : K) : (toAny object).kind = Resource.kind K := by intros; rfl
  metadata_toAny (object : K) : (toAny object).metadata = Resource.metadata object := by
    intros; rfl
  toAny_withMetadata (object : K) (metadata : ObjectMeta) :
    toAny (Resource.withMetadata object metadata) = (toAny object).withMetadata metadata := by
      intros; rfl
  metadata_withMetadata (object : K) (metadata : ObjectMeta) :
    Resource.metadata (Resource.withMetadata object metadata) = metadata := by intros; rfl
  failures_withStore (cluster : Cluster) (objects : SortedMap K) :
    (withStore cluster objects).failures = cluster.failures := by intros; rfl
  calls_withStore (cluster : Cluster) (objects : SortedMap K) :
    (withStore cluster objects).calls = cluster.calls := by intros; rfl
  deferredDeletion_withStore (cluster : Cluster) (objects : SortedMap K) :
    (withStore cluster objects).deferredDeletion = cluster.deferredDeletion := by intros; rfl
  terminating_withStore (cluster : Cluster) (objects : SortedMap K) :
    (withStore cluster objects).terminating = cluster.terminating := by intros; rfl
  uidCount_withStore (cluster : Cluster) (objects : SortedMap K) :
    (withStore cluster objects).uidCount = cluster.uidCount := by intros; rfl

export Lawful (toAny)

instance : Lawful Profile where toAny := .profile

instance : Lawful MachineConfig where toAny := .machineConfig

instance : Lawful KubeletConfig where toAny := .kubeletConfig

instance : Lawful Tuned where toAny := .tuned

instance : Lawful RuntimeClass where toAny := .runtimeClass

instance : Lawful MachineConfigPool where toAny := .machineConfigPool

@[simp] theorem kind_profile : Resource.kind Profile = .performanceProfile := rfl

@[simp] theorem kind_machineConfig : Resource.kind MachineConfig = .machineConfig := rfl

@[simp] theorem kind_kubeletConfig : Resource.kind KubeletConfig = .kubeletConfig := rfl

@[simp] theorem kind_tuned : Resource.kind Tuned = .tuned := rfl

@[simp] theorem kind_runtimeClass : Resource.kind RuntimeClass = .runtimeClass := rfl

end Stored

namespace Cluster
open Stored

variable {K : Type} [Stored K] (cluster : Cluster)

@[simp] theorem peek_put (object : K) (key : String) :
    (cluster.put object).peek K key =
      if key = storeKey object then some object else cluster.peek K key := by
  simp only [peek, put, store_withStore, SortedMap.find?_insert]

@[simp] theorem peek_remove (key other : String) :
    (cluster.remove K key).peek K other = if other = key then none else cluster.peek K other := by
  simp only [peek, remove, store_withStore, SortedMap.find?_erase]

@[simp] theorem peekAny_record (verb : Verb) (kind : Kind) (key : String) (other : Kind)
    (place : String) : (cluster.record verb kind key).peekAny other place =
      cluster.peekAny other place := by
  cases other <;> rfl

@[simp] theorem peekAny_markTerminating (kind : Kind) (key : String) (other : Kind)
    (place : String) : (cluster.markTerminating kind key).peekAny other place =
      cluster.peekAny other place := by
  cases other <;> rfl

@[simp] theorem peekAny_countUid (object : K) (kind : Kind) (key : String) :
    (cluster.countUid object).peekAny kind key = cluster.peekAny kind key := by
  unfold countUid
  split
  · rfl
  · cases kind <;> rfl

@[simp] theorem calls_record (verb : Verb) (kind : Kind) (key : String) :
    (cluster.record verb kind key).calls = cluster.calls ++ [⟨verb, kind, key⟩] := rfl

@[simp] theorem calls_countUid (object : K) :
    (cluster.countUid object).calls = cluster.calls := by
  unfold countUid
  split <;> rfl

section Places
variable [Lawful K]

@[simp] theorem storeKey_withMetadata (object : K) (metadata : ObjectMeta) :
    storeKey (Resource.withMetadata object metadata) =
      keyIn metadata.inNamespace (metadata.name.getD "") := by
  simp only [storeKey, Lawful.metadata_withMetadata]

@[simp] theorem storeKey_asCreated (object : K) :
    storeKey (cluster.asCreated object) = storeKey object :=
  storeKey_withMetadata ..

omit cluster in
@[simp] theorem storeKey_asUpdated (existing object : K) :
    storeKey (asUpdated existing object) = storeKey object :=
  storeKey_withMetadata ..

omit cluster in
theorem peek_congr {first second : Cluster} {key : String}
    (same : first.peekAny (Resource.kind K) key = second.peekAny (Resource.kind K) key) :
    first.peek K key = second.peek K key := by
  rw [Lawful.peekAny_kind, Lawful.peekAny_kind] at same
  exact Option.map_injective Lawful.toAny_injective same

@[simp] theorem peek_record (verb : Verb) (kind : Kind) (key other : String) :
    (cluster.record verb kind key).peek K other = cluster.peek K other :=
  peek_congr (peekAny_record ..)

theorem isSome_peekAny (key : String) :
    (cluster.peekAny (Resource.kind K) key).isSome = (cluster.peek K key).isSome := by
  rw [Lawful.peekAny_kind, Option.isSome_map]

theorem peekAny_put (object : K) (kind : Kind) (key : String) :
    (cluster.put object).peekAny kind key =
      if kind = Resource.kind K ∧ key = storeKey object then some (toAny object)
      else cluster.peekAny kind key := by
  by_cases same : kind = Resource.kind K
  · subst same
    rw [Lawful.peekAny_kind, Lawful.peekAny_kind, peek_put]
    by_cases here : key = storeKey object <;> simp [here]
  · rw [put, Lawful.peekAny_withStore _ _ _ _ same]
    simp [same]

theorem peekAny_remove (key : String) (kind : Kind) (other : String) :
    (cluster.remove K key).peekAny kind other =
      if kind = Resource.kind K ∧ other = key then none else cluster.peekAny kind other := by
  by_cases same : kind = Resource.kind K
  · subst same
    rw [Lawful.peekAny_kind, Lawful.peekAny_kind, peek_remove]
    by_cases here : other = key <;> simp [here]
  · rw [remove, Lawful.peekAny_withStore _ _ _ _ same]
    simp [same]

theorem peekAny_discard (key : String) (kind : Kind) (other : String) :
    (cluster.discard K key).peekAny kind other =
      if cluster.deferredDeletion = false ∧ kind = Resource.kind K ∧ other = key then none
      else cluster.peekAny kind other := by
  unfold discard
  split
  · rename_i deferred
    rw [peekAny_markTerminating, if_neg (by simp [deferred])]
  · rename_i immediate
    simp [peekAny_remove, immediate]

@[simp] theorem failures_put (object : K) : (cluster.put object).failures = cluster.failures :=
  Lawful.failures_withStore ..

@[simp] theorem calls_put (object : K) : (cluster.put object).calls = cluster.calls :=
  Lawful.calls_withStore ..

@[simp] theorem deferredDeletion_put (object : K) :
    (cluster.put object).deferredDeletion = cluster.deferredDeletion :=
  Lawful.deferredDeletion_withStore ..

@[simp] theorem terminating_put (object : K) :
    (cluster.put object).terminating = cluster.terminating :=
  Lawful.terminating_withStore ..

@[simp] theorem uidCount_put (object : K) : (cluster.put object).uidCount = cluster.uidCount :=
  Lawful.uidCount_withStore ..

@[simp] theorem failures_remove (key : String) :
    (cluster.remove K key).failures = cluster.failures :=
  Lawful.failures_withStore ..

@[simp] theorem calls_remove (key : String) : (cluster.remove K key).calls = cluster.calls :=
  Lawful.calls_withStore ..

@[simp] theorem deferredDeletion_remove (key : String) :
    (cluster.remove K key).deferredDeletion = cluster.deferredDeletion :=
  Lawful.deferredDeletion_withStore ..

@[simp] theorem terminating_remove (key : String) :
    (cluster.remove K key).terminating = cluster.terminating :=
  Lawful.terminating_withStore ..

@[simp] theorem calls_discard (key : String) :
    (cluster.discard K key).calls = cluster.calls := by
  unfold discard
  split
  · rfl
  · exact calls_remove ..

@[simp] theorem uidCount_remove (key : String) :
    (cluster.remove K key).uidCount = cluster.uidCount :=
  Lawful.uidCount_withStore ..

end Places

end Cluster
end NodeTuning
