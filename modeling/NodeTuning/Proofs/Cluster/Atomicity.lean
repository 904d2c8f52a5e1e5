import NodeTuning.Proofs.Cluster.Operations
import NodeTuning.Proofs.Cluster.Profiles

/-!
What single operations change. An operation that is refused or only reads changes nothing. A write
that succeeds adds its call to the log, changes at most the object that the call names, and is seen
by the next look at that object. Main statement: this holds of every operation and every cluster
whose objects are under their own keys.
-/
namespace NodeTuning
open Stored

namespace AnyObject

def place (object : AnyObject) : Place := (object.kind, object.key)

/-- An object with what the cluster gives it when it stores it. -/
def stamped (object : AnyObject) (uid version : Option String) : AnyObject :=
  object.withMetadata { object.metadata with uid, resourceVersion := version }

variable (object : AnyObject) (uid version : Option String)

@[simp] theorem uid_stamped : (object.stamped uid version).metadata.uid = uid := by
  rw [stamped, metadata_withMetadata]

@[simp] theorem version_stamped :
    (object.stamped uid version).metadata.resourceVersion = version := by
  rw [stamped, metadata_withMetadata]

@[simp] theorem kind_stamped : (object.stamped uid version).kind = object.kind := by
  cases object <;> rfl

@[simp] theorem key_stamped : (object.stamped uid version).key = object.key := by
  rw [key, stamped, metadata_withMetadata, key]

end AnyObject

def Call.place (call : Call) : Place := (call.kind, call.key)

namespace Operation

/-- A profile to update has a name and no namespace. -/
def Plain : Operation → Prop
  | .update (.profile profile) => profile.Under profile.name
  | _ => True

/-- Whether the cluster makes up a uid for the object. -/
def asksUid : Operation → Bool
  | .create object => object.metadata.uid.isNone
  | _ => false

end Operation

namespace Cluster

/-- Every object is under its own key. -/
def Keyed (cluster : Cluster) : Prop :=
  ∀ kind key object, cluster.peekAny kind key = some object → object.key = key

/-- A cluster without its objects. -/
def bare (cluster : Cluster) : Cluster where
  calls := cluster.calls
  failures := cluster.failures
  deferredDeletion := cluster.deferredDeletion
  terminating := cluster.terminating
  uidCount := cluster.uidCount

/-- Whether an operation marks its object instead of taking it away. -/
def defers (cluster : Cluster) (operation : Operation) : Bool :=
  operation.call.verb = .delete ∧ cluster.deferredDeletion = true

/-- What a write that succeeds makes of one cluster. -/
structure Writes (operation : Operation) (before after : Cluster) : Prop where
  bare : after.bare = { before.bare with
    calls := before.calls ++ [operation.call]
    terminating := if before.defers operation then before.terminating.insert operation.call.place
      else before.terminating
    uidCount := before.uidCount + if operation.asksUid then 1 else 0 }
  elsewhere : ∀ kind key, (kind, key) ≠ operation.call.place →
    after.peekAny kind key = before.peekAny kind key
  deferred : before.defers operation = true → ∀ kind key,
    after.peekAny kind key = before.peekAny kind key

theorem Writes.texts {operation : Operation} {before after : Cluster}
    (written : Writes operation before after) :
    after.calls.map Call.text = before.calls.map Call.text ++ [operation.call.verb.name ++ " " ++
      operation.call.kind.name ++ " " ++ operation.call.key] := by
  have logged : after.calls = before.calls ++ [operation.call] :=
    congrArg Cluster.calls written.bare
  rw [logged, List.map_append]
  rfl

/-- An object is stored, and to look it up gives it, unless lookups are made to fail. -/
structure ReadsBack (cluster : Cluster) (object : AnyObject) : Prop where
  stored : cluster.peekAny object.kind object.key = some object
  found : ∀ inNamespace name, keyIn inNamespace name = object.key →
    cluster.check .get object.kind = .ok () →
    cluster.perform (.get object.kind inNamespace name) = (.ok (.object object), cluster)

/-- What an operation comes to, and what it leaves of a cluster. -/
structure Atomic (before : Cluster) (operation : Operation) (result : Except ClusterError Reply)
    (after : Cluster) : Prop where
  refused : ∀ fault, result = .error fault ↔ before.refusal? operation.call = some fault
  failed : ∀ fault, result = .error fault → after = before
  read : operation.call.verb.writes = false → after = before
  written : ∀ reply, result = .ok reply → operation.call.verb.writes = true →
    Writes operation before after
  created : ∀ object reply, operation = .create object → result = .ok reply → ∃ stored,
    reply = .object stored ∧ after.ReadsBack stored ∧
    stored = object.stamped (object.metadata.uid.or (some before.nextUid)) (some "1")
  updated : ∀ object reply, operation = .update object → object.kind ≠ .performanceProfile →
    result = .ok reply → ∃ existing stored,
    before.peekAny object.kind object.key = some existing ∧
    reply = .object stored ∧ after.ReadsBack stored ∧
    stored = object.stamped existing.metadata.uid
      (some (nextVersion existing.metadata.resourceVersion))
  deleted : ∀ kind inNamespace name reply, operation = .delete kind inNamespace name →
    result = .ok reply → after.peekAny kind (keyIn inNamespace name) =
      if before.deferredDeletion then before.peekAny kind (keyIn inNamespace name) else none

section Bare
variable {K : Type} [Stored K] (cluster : Cluster)

theorem bare_record (verb : Verb) (kind : Kind) (key : String) :
    (cluster.record verb kind key).bare =
      { cluster.bare with calls := cluster.calls ++ [⟨verb, kind, key⟩] } := rfl

theorem bare_countUid (object : K) : (cluster.countUid object).bare = { cluster.bare with
    uidCount := cluster.uidCount + if (Resource.metadata object).uid.isNone then 1 else 0 } := by
  unfold countUid
  split
  · rename_i given
    rw [given]
    rfl
  · rename_i missing
    rw [missing]
    rfl

variable [Lawful K]

theorem bare_put (object : K) : (cluster.put object).bare = cluster.bare := by
  simp [bare]

theorem bare_remove (key : String) : (cluster.remove K key).bare = cluster.bare := by
  simp [bare]

theorem bare_discard (key : String) : (cluster.discard K key).bare = { cluster.bare with
    terminating := if cluster.deferredDeletion then
      cluster.terminating.insert (Resource.kind K, key) else cluster.terminating } := by
  unfold discard
  split
  · rfl
  · exact bare_remove cluster key

theorem key_toAny (object : K) : (toAny object).key = storeKey object := by
  rw [AnyObject.key, Lawful.metadata_toAny, storeKey]

end Bare

section Single
variable {cluster after : Cluster} {operation : Operation} {reply : Reply}

namespace Succeeds

theorem eq_of_reads (succeeds : cluster.Succeeds operation reply after)
    (reads : operation.call.verb.writes = false) : after = cluster := by
  cases succeeds with
  | get | listTuned | listPools => rfl
  | create =>
    rw [call_create] at reads
    cases reads
  | update other =>
    rw [call_update _ other] at reads
    cases reads
  | updateProfile | delete | patchStatus => cases reads

theorem bare (succeeds : cluster.Succeeds operation reply after)
    (writes : operation.call.verb.writes = true) : after.bare = { cluster.bare with
      calls := cluster.calls ++ [operation.call]
      terminating := if cluster.defers operation then
        cluster.terminating.insert operation.call.place else cluster.terminating
      uidCount := cluster.uidCount + if operation.asksUid then 1 else 0 } := by
  unfold defers
  cases succeeds with
  | get | listTuned | listPools => cases writes
  | @create K _ _ object absent =>
    rw [call_create, bare_record, bare_put, bare_countUid, calls_put, calls_countUid,
      Operation.asksUid, Lawful.metadata_toAny]
    rfl
  | update other found =>
    rw [call_update _ other, bare_record, bare_put, calls_put]
    rfl
  | @updateProfile profile existing updated found merged =>
    rw [bare_record]
    split
    · rw [bare_remove, calls_remove]
      rfl
    · rw [bare_put, calls_put]
      rfl
  | delete K held =>
    rw [bare_record, bare_discard, calls_discard]
    simp only [Operation.call, Operation.asksUid, Call.place, true_and, decide_eq_true_eq]
    rfl
  | patchStatus found =>
    rw [bare_record, bare_put, calls_put]
    rfl

/-- Only profiles can be misplaced, which takes one that is under another key than its own. -/
theorem peekAny_elsewhere (succeeds : cluster.Succeeds operation reply after) {kind : Kind}
    {key : String} (regular : kind = .performanceProfile → cluster.Keyed ∧ operation.Plain)
    (elsewhere : (kind, key) ≠ operation.call.place) :
    after.peekAny kind key = cluster.peekAny kind key := by
  have apart (other : Kind) (place : String) (here : operation.call.place = (other, place)) :
      ¬ (kind = other ∧ key = place) := by
    rintro ⟨rfl, rfl⟩
    exact elsewhere here.symm
  cases succeeds with
  | get | listTuned | listPools => rfl
  | @create K _ _ object absent =>
    rw [peekAny_record, peekAny_put, storeKey_asCreated, peekAny_countUid,
      if_neg (apart _ _ (by rw [call_create]; rfl))]
  | update other found =>
    rw [peekAny_record, peekAny_put, storeKey_asUpdated,
      if_neg (apart _ _ (by rw [call_update _ other]; rfl))]
  | @updateProfile profile existing updated found merged =>
    rw [peekAny_record]
    split
    · rw [peekAny_remove, if_neg (apart (Resource.kind Profile) profile.name rfl)]
    · rw [peekAny_put, if_neg]
      rintro ⟨rfl, rfl⟩
      have own : storeKey updated = profile.name := by
        rw [merged]
        exact (regular rfl).2.storeKey_eq
      exact apart (Resource.kind Profile) profile.name rfl ⟨rfl, own⟩
  | @delete K _ _ inNamespace name held =>
    rw [peekAny_record, peekAny_discard,
      if_neg fun here => apart (Resource.kind K) (keyIn inNamespace name) rfl here.2]
  | @patchStatus place status existing found =>
    rw [peekAny_record, peekAny_put, if_neg]
    rintro ⟨rfl, rfl⟩
    have own : storeKey existing = place :=
      (regular rfl).1 .performanceProfile place (.profile existing) (by
        rw [← kind_profile, Lawful.peekAny_kind, found]
        rfl)
    exact apart (Resource.kind Profile) place rfl ⟨rfl, own⟩

theorem peekAny_deferred (succeeds : cluster.Succeeds operation reply after)
    (defers : cluster.defers operation = true) (kind : Kind) (key : String) :
    after.peekAny kind key = cluster.peekAny kind key := by
  obtain ⟨deletes, deferred⟩ : operation.call.verb = .delete ∧ cluster.deferredDeletion = true := by
    simpa [Cluster.defers] using defers
  cases succeeds with
  | get | listTuned | listPools => rfl
  | create =>
    rw [call_create] at deletes
    cases deletes
  | update other =>
    rw [call_update _ other] at deletes
    cases deletes
  | updateProfile | patchStatus => cases deletes
  | delete K held => rw [peekAny_record, peekAny_discard, if_neg (by simp [deferred])]

theorem writes (succeeds : cluster.Succeeds operation reply after) (keyed : cluster.Keyed)
    (plain : operation.Plain) (writes : operation.call.verb.writes = true) :
    Writes operation cluster after where
  bare := succeeds.bare writes
  elsewhere _ _ := succeeds.peekAny_elsewhere fun _ => ⟨keyed, plain⟩
  deferred := succeeds.peekAny_deferred

theorem found {kind : Kind} {inNamespace : Option String} {name : String}
    (succeeds : cluster.Succeeds (.get kind inNamespace name) reply after) :
    after = cluster ∧ ∃ object, reply = .object object ∧
      cluster.peekAny kind (keyIn inNamespace name) = some object := by
  cases succeeds with
  | get found =>
    refine ⟨rfl, _, rfl, ?_⟩
    rw [Lawful.peekAny_kind, found]
    rfl

theorem created {object : AnyObject} (succeeds : cluster.Succeeds (.create object) reply after) :
    ∃ stored, reply = .object stored ∧ after.peekAny object.kind object.key = some stored ∧
      stored = object.stamped (object.metadata.uid.or (some cluster.nextUid)) (some "1") := by
  cases succeeds with
  | @create K _ _ object absent =>
    refine ⟨_, rfl, ?_, ?_⟩
    · rw [peekAny_record, peekAny_put, storeKey_asCreated, Lawful.kind_toAny, key_toAny,
        if_pos ⟨rfl, rfl⟩]
    · rw [asCreated, Lawful.toAny_withMetadata, AnyObject.stamped, Lawful.metadata_toAny]

theorem updated {object : AnyObject} (succeeds : cluster.Succeeds (.update object) reply after)
    (other : object.kind ≠ .performanceProfile) : ∃ existing stored,
      cluster.peekAny object.kind object.key = some existing ∧ reply = .object stored ∧
      after.peekAny object.kind object.key = some stored ∧
      stored = object.stamped existing.metadata.uid
        (some (nextVersion existing.metadata.resourceVersion)) := by
  cases succeeds with
  | updateProfile => exact absurd rfl other
  | @update K _ _ object existing _ found =>
    refine ⟨toAny existing, _, ?_, rfl, ?_, ?_⟩
    · rw [Lawful.kind_toAny, key_toAny, Lawful.peekAny_kind, found]
      rfl
    · rw [peekAny_record, peekAny_put, storeKey_asUpdated, Lawful.kind_toAny, key_toAny,
        if_pos ⟨rfl, rfl⟩]
    · rw [asUpdated, Lawful.toAny_withMetadata, AnyObject.stamped, Lawful.metadata_toAny,
        Lawful.metadata_toAny]

theorem deleted {kind : Kind} {inNamespace : Option String} {name : String}
    (succeeds : cluster.Succeeds (.delete kind inNamespace name) reply after) :
    after.peekAny kind (keyIn inNamespace name) =
      if cluster.deferredDeletion then cluster.peekAny kind (keyIn inNamespace name)
      else none := by
  cases succeeds with
  | delete K held =>
    rw [peekAny_record, peekAny_discard]
    cases cluster.deferredDeletion <;> simp

end Succeeds

/-- What is under its own key is what a lookup gives. -/
theorem readsBack_of_peekAny {object : AnyObject}
    (found : cluster.peekAny object.kind object.key = some object) : cluster.ReadsBack object := by
  refine ⟨found, fun inNamespace name here allowed => ?_⟩
  have clear : cluster.refusal? (Operation.get object.kind inNamespace name).call = none := by
    rw [Operation.call, refusal?_of_allowed allowed, here, found]
    rfl
  cases concludes cluster (.get object.kind inNamespace name) with
  | refused refusal =>
    rw [clear] at refusal
    cases refusal
  | succeeded _ succeeds performed =>
    obtain ⟨rfl, stored, rfl, there⟩ := succeeds.found
    rw [here, found] at there
    cases there
    exact performed

theorem atomic_of_error {fault : ClusterError}
    (refusal : cluster.refusal? operation.call = some fault) :
    Atomic cluster operation (.error fault) cluster where
  refused _ := by rw [refusal, Except.error.injEq, Option.some.injEq]
  failed _ _ := rfl
  read _ := rfl
  written _ ok := nomatch ok
  created _ _ _ ok := nomatch ok
  updated _ _ _ _ ok := nomatch ok
  deleted _ _ _ _ _ ok := nomatch ok

theorem Succeeds.atomic (succeeds : cluster.Succeeds operation reply after)
    (clear : cluster.refusal? operation.call = none) (keyed : cluster.Keyed)
    (plain : operation.Plain) : Atomic cluster operation (.ok reply) after where
  refused _ := by simp [clear]
  failed := nofun
  read := succeeds.eq_of_reads
  written _ _ writes := succeeds.writes keyed plain writes
  created object given creates ok := by
    cases ok
    subst creates
    obtain ⟨stored, rfl, there, rfl⟩ := succeeds.created
    exact ⟨_, rfl, readsBack_of_peekAny (by simpa using there), rfl⟩
  updated object given updates other ok := by
    cases ok
    subst updates
    obtain ⟨existing, stored, found, rfl, there, rfl⟩ := succeeds.updated other
    exact ⟨existing, _, found, rfl, readsBack_of_peekAny (by simpa using there), rfl⟩
  deleted kind inNamespace name _ deletes _ := by
    subst deletes
    exact succeeds.deleted

theorem atomic_perform (keyed : cluster.Keyed) (plain : operation.Plain) :
    Atomic cluster operation (cluster.perform operation).1 (cluster.perform operation).2 := by
  cases concludes cluster operation with
  | refused refusal performed =>
    rw [performed]
    exact atomic_of_error refusal
  | succeeded clear succeeds performed =>
    rw [performed]
    exact succeeds.atomic clear keyed plain

end Single

end Cluster
end NodeTuning
