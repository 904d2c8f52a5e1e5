import NodeTuning.Controller.Merge
import NodeTuning.Proofs.Cluster.Removing

/-!
Operations as values: when they fail, what each one does when it succeeds, and sequences of
operations of which each succeeds. Main statement: an operation is refused and changes nothing, or
does what `Succeeds` says.
-/
namespace NodeTuning
open Stored

/-- Whether operations with the verb change a cluster. -/
def Verb.writes : Verb → Bool
  | .get | .list => false
  | .create | .update | .updateStatus | .delete => true

def AnyObject.key (object : AnyObject) : String :=
  keyIn object.metadata.inNamespace (object.metadata.name.getD "")

/-- Why a call fails, by whether there is an object under its key. -/
def Call.objection? (call : Call) (held : Bool) : Option ClusterError :=
  match call.verb with
  | .list => none
  | .create => if held then some (.alreadyExists call.kind call.key) else none
  | .get | .update | .updateStatus | .delete =>
    if held then none else some (.notFound call.kind call.key)

namespace Operation

/-- The call that an operation makes. One that only reads is not logged. -/
def call : Operation → Call
  | .get kind inNamespace name => ⟨.get, kind, keyIn inNamespace name⟩
  | .create object => ⟨.create, object.kind, object.key⟩
  | .update (.profile profile) => ⟨.update, .performanceProfile, profile.name⟩
  | .update object => ⟨.update, object.kind, object.key⟩
  | .delete kind inNamespace name => ⟨.delete, kind, keyIn inNamespace name⟩
  | .listTuned inNamespace => ⟨.list, .tuned, inNamespace⟩
  | .listPools query => ⟨.list, .machineConfigPool, query⟩
  | .patchStatus profile _ => ⟨.updateStatus, .performanceProfile, profile⟩

def calls : Operation → List Call
  | .get .. | .listTuned _ | .listPools _ => []
  | .create object => [⟨.create, object.kind,
      keyIn object.metadata.inNamespace (object.metadata.name.getD "")⟩]
  | .update (.profile profile) => [⟨.update, .performanceProfile, profile.name⟩]
  | .update object => [⟨.update, object.kind,
      keyIn object.metadata.inNamespace (object.metadata.name.getD "")⟩]
  | .delete kind inNamespace name => [⟨.delete, kind, keyIn inNamespace name⟩]
  | .patchStatus profile _ => [⟨.updateStatus, .performanceProfile, profile⟩]

theorem calls_eq (operation : Operation) :
    operation.calls = if operation.call.verb.writes then [operation.call] else [] := by
  cases operation with
  | update object => cases object <;> rfl
  | _ => rfl

end Operation

namespace Cluster

/-- The operations succeed one after the other. -/
inductive Performs : List Operation → Cluster → Cluster → Prop
  | nil (cluster : Cluster) : Performs [] cluster cluster
  | cons {operation : Operation} {reply : Reply} {rest : List Operation}
      {before middle after : Cluster} (first : before.perform operation = (.ok reply, middle))
      (later : Performs rest middle after) : Performs (operation :: rest) before after

theorem Performs.append {first second : List Operation} {before middle after : Cluster}
    (head : Performs first before middle) (rest : Performs second middle after) :
    Performs (first ++ second) before after := by
  induction head with
  | nil => exact rest
  | cons performed _ ih => exact .cons performed (ih rest)

/-- The reply of an operation and the cluster that it leaves, which is the same if it fails. -/
def concluded (cluster : Cluster) (outcome : Except ClusterError (Reply × Cluster)) :
    Except ClusterError Reply × Cluster :=
  match outcome with
  | .ok (reply, after) => (.ok reply, after)
  | .error fault => (.error fault, cluster)

/-- Why a call fails: it is made to, or its object is missing or in the way. -/
def refusal? (cluster : Cluster) (call : Call) : Option ClusterError :=
  match cluster.failures.find? (operationName call.verb call.kind) with
  | some message => some (.failed message)
  | none => call.objection? (cluster.peekAny call.kind call.key).isSome

/-- What an operation that succeeds replies and leaves behind. -/
inductive Succeeds (cluster : Cluster) : Operation → Reply → Cluster → Prop
  | get {K : Type} [Stored K] [Lawful K] {inNamespace : Option String} {name : String} {object : K}
      (found : cluster.peek K (keyIn inNamespace name) = some object) :
      Succeeds cluster (.get (Resource.kind K) inNamespace name) (.object (toAny object)) cluster
  | create {K : Type} [Stored K] [Lawful K] {object : K}
      (absent : cluster.peek K (storeKey object) = none) :
      Succeeds cluster (.create (toAny object)) (.object (toAny (cluster.asCreated object)))
        (((cluster.countUid object).put (cluster.asCreated object)).record
          .create (Resource.kind K) (storeKey object))
  | update {K : Type} [Stored K] [Lawful K] {object existing : K}
      (other : Resource.kind K ≠ .performanceProfile)
      (found : cluster.peek K (storeKey object) = some existing) :
      Succeeds cluster (.update (toAny object)) (.object (toAny (asUpdated existing object)))
        ((cluster.put (asUpdated existing object)).record
          .update (Resource.kind K) (storeKey object))
  | updateProfile {profile existing updated : Profile}
      (found : cluster.peek Profile profile.name = some existing)
      (merged : updated = { profile with status := existing.status }) :
      Succeeds cluster (.update (.profile profile)) (.object (.profile updated))
        ((if updated.isReleased then cluster.remove Profile profile.name
          else cluster.put updated).record .update .performanceProfile profile.name)
  | delete (K : Type) [Stored K] [Lawful K] {inNamespace : Option String} {name : String}
      (held : (cluster.peek K (keyIn inNamespace name)).isSome) :
      Succeeds cluster (.delete (Resource.kind K) inNamespace name) .nothing
        ((cluster.discard K (keyIn inNamespace name)).record
          .delete (Resource.kind K) (keyIn inNamespace name))
  | listTuned {inNamespace : String} {listed : List Tuned}
      (found : cluster.listTuned inNamespace = .ok listed) :
      Succeeds cluster (.listTuned inNamespace) (.objects (listed.map .tuned)) cluster
  | listPools {query : String} {listed : List MachineConfigPool}
      (found : cluster.listPools query = .ok listed) :
      Succeeds cluster (.listPools query) (.objects (listed.map .machineConfigPool)) cluster
  | patchStatus {key : String} {status : ProfileStatus} {existing : Profile}
      (found : cluster.peek Profile key = some existing) :
      Succeeds cluster (.patchStatus key status) .nothing
        ((cluster.put { existing with status := some status }).record
          .updateStatus .performanceProfile key)

/-- An operation either is refused and changes nothing, or succeeds. -/
inductive Concludes (cluster : Cluster) (operation : Operation) : Prop
  | refused {fault : ClusterError} (refusal : cluster.refusal? operation.call = some fault)
      (performed : cluster.perform operation = (.error fault, cluster))
  | succeeded {reply : Reply} {after : Cluster} (clear : cluster.refusal? operation.call = none)
      (succeeds : cluster.Succeeds operation reply after)
      (performed : cluster.perform operation = (.ok reply, after))

section Cases
variable {cluster : Cluster} {verb : Verb} {kind : Kind} {key : String} {fault : ClusterError}

theorem refusal?_of_blocked (blocked : cluster.check verb kind = .error fault) :
    cluster.refusal? ⟨verb, kind, key⟩ = some fault := by
  cases found : cluster.failures.find? (operationName verb kind) with
  | some message =>
    rw [check, found] at blocked
    cases blocked
    simp only [refusal?, found]
  | none =>
    rw [check, found] at blocked
    cases blocked

theorem refusal?_of_allowed (allowed : cluster.check verb kind = .ok ()) :
    cluster.refusal? ⟨verb, kind, key⟩ =
      Call.objection? ⟨verb, kind, key⟩ (cluster.peekAny kind key).isSome := by
  cases found : cluster.failures.find? (operationName verb kind) with
  | some message =>
    rw [check, found] at allowed
    cases allowed
  | none => simp only [refusal?, found]

variable {K : Type} [Stored K] [Lawful K]

theorem create_cases (cluster : Cluster) (object : K) :
    (∃ fault, cluster.refusal? ⟨.create, Resource.kind K, storeKey object⟩ = some fault ∧
      cluster.create object = .error fault) ∨
    cluster.refusal? ⟨.create, Resource.kind K, storeKey object⟩ = none ∧
      cluster.peek K (storeKey object) = none ∧
      cluster.create object = .ok (cluster.asCreated object,
        ((cluster.countUid object).put (cluster.asCreated object)).record
          .create (Resource.kind K) (storeKey object)) := by
  cases allowed : cluster.check .create (Resource.kind K) with
  | error fault => exact .inl ⟨fault, refusal?_of_blocked allowed, create_blocked allowed⟩
  | ok =>
    rw [refusal?_of_allowed allowed, isSome_peekAny]
    cases found : cluster.peek K (storeKey object) with
    | none => exact .inr ⟨rfl, rfl, create_eq_ok_iff.2 ⟨allowed, found, rfl, rfl⟩⟩
    | some object =>
      exact .inl ⟨_, rfl, create_present allowed (by rw [found]; rfl)⟩

/-- What all operations on an object that is there have in common. -/
theorem present_cases {α : Type} (cluster : Cluster) (verb : Verb) (key : String)
    (seeks : verb ≠ .list ∧ verb ≠ .create) (next : K → Except ClusterError α) :
    (∃ fault, cluster.refusal? ⟨verb, Resource.kind K, key⟩ = some fault ∧
      (do cluster.check verb (Resource.kind K); next (← cluster.present K key)) = .error fault) ∨
    ∃ existing, cluster.refusal? ⟨verb, Resource.kind K, key⟩ = none ∧
      cluster.peek K key = some existing ∧
      (do cluster.check verb (Resource.kind K); next (← cluster.present K key)) =
        next existing := by
  cases allowed : cluster.check verb (Resource.kind K) with
  | error fault => exact .inl ⟨fault, refusal?_of_blocked allowed, rfl⟩
  | ok =>
    have objection : ∀ held, Call.objection? ⟨verb, Resource.kind K, key⟩ held =
        if held then none else some (.notFound (Resource.kind K) key) := by
      intro held
      cases verb with
      | list => exact absurd rfl seeks.1
      | create => exact absurd rfl seeks.2
      | _ => rfl
    rw [refusal?_of_allowed allowed, isSome_peekAny, objection]
    unfold present
    cases found : cluster.peek K key with
    | none => exact .inl ⟨_, rfl, rfl⟩
    | some existing => exact .inr ⟨existing, rfl, rfl, rfl⟩

theorem call_create (object : K) :
    (Operation.create (toAny object)).call = ⟨.create, Resource.kind K, storeKey object⟩ := by
  simp only [Operation.call, AnyObject.key, Lawful.kind_toAny, Lawful.metadata_toAny, storeKey]

theorem call_update (object : K) (other : Resource.kind K ≠ .performanceProfile) :
    (Operation.update (toAny object)).call = ⟨.update, Resource.kind K, storeKey object⟩ := by
  rw [← Lawful.kind_toAny object] at other ⊢
  rw [storeKey, ← Lawful.metadata_toAny object]
  cases same : toAny object with
  | profile => exact absurd (congrArg AnyObject.kind same) other
  | _ => rfl

private theorem concludes_get (K : Type) [Stored K] [Lawful K] {inNamespace : Option String}
    {name : String} (performs : cluster.perform (.get (Resource.kind K) inNamespace name) =
      cluster.concluded (((cluster.read K (keyIn inNamespace name)).map toAny) >>= fun object =>
        pure (.object object, cluster))) :
    cluster.Concludes (.get (Resource.kind K) inNamespace name) := by
  rcases present_cases (K := K) cluster .get (keyIn inNamespace name) (by decide) pure with
    ⟨fault, refusal, failed⟩ | ⟨object, clear, found, ok⟩
  · rw [bind_pure] at failed
    rw [read, failed] at performs
    exact .refused refusal performs
  · rw [bind_pure] at ok
    rw [read, ok] at performs
    exact .succeeded clear (.get found) performs

private theorem concludes_create (object : K)
    (performs : cluster.perform (.create (toAny object)) = cluster.concluded
      (((cluster.create object).map fun done => (toAny done.1, done.2)) >>= fun done =>
        pure (.object done.1, done.2))) :
    cluster.Concludes (.create (toAny object)) := by
  rcases create_cases cluster object with ⟨fault, refusal, failed⟩ | ⟨clear, absent, ok⟩
  · rw [failed] at performs
    exact .refused (by rw [call_create, refusal]) performs
  · rw [ok] at performs
    exact .succeeded (by rw [call_create, clear]) (.create absent) performs

private theorem concludes_update (object : K) (other : Resource.kind K ≠ .performanceProfile)
    (performs : cluster.perform (.update (toAny object)) = cluster.concluded
      (((cluster.update object).map fun done => (toAny done.1, done.2)) >>= fun done =>
        pure (.object done.1, done.2))) :
    cluster.Concludes (.update (toAny object)) := by
  rw [update] at performs
  rcases present_cases cluster .update (storeKey object) (by decide) fun existing : K =>
    pure (asUpdated existing object, (cluster.put (asUpdated existing object)).record .update
      (Resource.kind K) (storeKey object)) with
    ⟨fault, refusal, failed⟩ | ⟨existing, clear, found, ok⟩
  · rw [failed] at performs
    exact .refused (by rw [call_update object other, refusal]) performs
  · rw [ok] at performs
    exact .succeeded (by rw [call_update object other, clear]) (.update other found) performs

private theorem concludes_delete (K : Type) [Stored K] [Lawful K] {inNamespace : Option String}
    {name : String} (performs : cluster.perform (.delete (Resource.kind K) inNamespace name) =
      cluster.concluded (cluster.delete K (keyIn inNamespace name) >>= fun done =>
        pure (.nothing, done.2))) :
    cluster.Concludes (.delete (Resource.kind K) inNamespace name) := by
  rw [delete] at performs
  rcases present_cases cluster .delete (keyIn inNamespace name) (by decide) fun _ : K =>
    pure ((), (cluster.discard K (keyIn inNamespace name)).record .delete (Resource.kind K)
      (keyIn inNamespace name)) with
    ⟨fault, refusal, failed⟩ | ⟨object, clear, found, ok⟩
  · rw [failed] at performs
    exact .refused refusal performs
  · rw [ok] at performs
    exact .succeeded clear (.delete K (by rw [found]; rfl)) performs

omit [Lawful K] [Stored K] in
private theorem concludes_list {α : Type} {operation : Operation} {listed : α} {answer : α → Reply}
    (found : Except ClusterError α) (call : operation.call = ⟨.list, kind, key⟩)
    (lists : found = do cluster.check .list kind; return listed)
    (succeeds : found = .ok listed → cluster.Succeeds operation (answer listed) cluster)
    (performs : cluster.perform operation =
      cluster.concluded (found >>= fun value => pure (answer value, cluster))) :
    cluster.Concludes operation := by
  cases allowed : cluster.check .list kind with
  | error fault =>
    rw [lists, allowed] at performs
    exact .refused (by rw [call, refusal?_of_blocked allowed]) performs
  | ok =>
    rw [allowed] at lists
    rw [lists] at performs
    exact .succeeded (by rw [call, refusal?_of_allowed allowed]; rfl) (succeeds lists) performs

private theorem concludes_updateProfile (cluster : Cluster) (profile : Profile) :
    cluster.Concludes (.update (.profile profile)) := by
  have performs : cluster.perform (.update (.profile profile)) = cluster.concluded
      (((cluster.updateProfile profile).map fun done => (AnyObject.profile done.1, done.2)) >>=
        fun done => pure (.object done.1, done.2)) := rfl
  rcases present_cases cluster .update profile.name (by decide) fun existing : Profile =>
    let updated := { profile with status := existing.status }
    pure (updated, (if updated.isReleased then cluster.remove Profile profile.name
      else cluster.put updated).record .update .performanceProfile profile.name) with
    ⟨fault, refusal, failed⟩ | ⟨existing, clear, found, ok⟩
  · have failed : cluster.updateProfile profile = .error fault := failed
    rw [failed] at performs
    exact .refused refusal performs
  · have ok : cluster.updateProfile profile = .ok _ := ok
    rw [ok] at performs
    exact .succeeded clear (.updateProfile found rfl) performs

private theorem concludes_patchStatus (cluster : Cluster) (key : String) (status : ProfileStatus) :
    cluster.Concludes (.patchStatus key status) := by
  have performs : cluster.perform (.patchStatus key status) = cluster.concluded
      (cluster.patchStatus key status >>= fun done => pure (.nothing, done.2)) := rfl
  rcases present_cases cluster .updateStatus key (by decide) fun existing : Profile =>
    pure ((), (cluster.put { existing with status := some status }).record
      .updateStatus .performanceProfile key) with
    ⟨fault, refusal, failed⟩ | ⟨existing, clear, found, ok⟩
  · have failed : cluster.patchStatus key status = .error fault := failed
    rw [failed] at performs
    exact .refused refusal performs
  · have ok : cluster.patchStatus key status = .ok _ := ok
    rw [ok] at performs
    exact .succeeded clear (.patchStatus found) performs

theorem concludes (cluster : Cluster) (operation : Operation) : cluster.Concludes operation := by
  cases operation with
  | get kind inNamespace name =>
    cases kind with
    | performanceProfile => exact concludes_get Profile rfl
    | machineConfig => exact concludes_get MachineConfig rfl
    | kubeletConfig => exact concludes_get KubeletConfig rfl
    | tuned => exact concludes_get Tuned rfl
    | runtimeClass => exact concludes_get RuntimeClass rfl
    | machineConfigPool => exact concludes_get MachineConfigPool rfl
  | create object =>
    cases object with
    | profile object => exact concludes_create object rfl
    | machineConfig object => exact concludes_create object rfl
    | kubeletConfig object => exact concludes_create object rfl
    | tuned object => exact concludes_create object rfl
    | runtimeClass object => exact concludes_create object rfl
    | machineConfigPool object => exact concludes_create object rfl
  | update object =>
    cases object with
    | profile profile => exact concludes_updateProfile cluster profile
    | machineConfig object => exact concludes_update object (by decide) rfl
    | kubeletConfig object => exact concludes_update object (by decide) rfl
    | tuned object => exact concludes_update object (by decide) rfl
    | runtimeClass object => exact concludes_update object (by decide) rfl
    | machineConfigPool object => exact concludes_update object (by decide) rfl
  | delete kind inNamespace name =>
    cases kind with
    | performanceProfile => exact concludes_delete Profile rfl
    | machineConfig => exact concludes_delete MachineConfig rfl
    | kubeletConfig => exact concludes_delete KubeletConfig rfl
    | tuned => exact concludes_delete Tuned rfl
    | runtimeClass => exact concludes_delete RuntimeClass rfl
    | machineConfigPool => exact concludes_delete MachineConfigPool rfl
  | listTuned inNamespace => exact concludes_list (cluster.listTuned inNamespace) rfl rfl .listTuned rfl
  | listPools query => exact concludes_list (cluster.listPools query) rfl rfl .listPools rfl
  | patchStatus profile status => exact concludes_patchStatus cluster profile status

end Cases

section Conclusions
variable {cluster after : Cluster} {operation : Operation} {reply : Reply}

theorem succeeds_of_perform (performed : cluster.perform operation = (.ok reply, after)) :
    cluster.Succeeds operation reply after := by
  cases concludes cluster operation with
  | refused _ failed =>
    rw [failed] at performed
    cases performed
  | succeeded _ succeeds ok =>
    rw [ok] at performed
    cases performed
    exact succeeds

theorem delete_eq_ok_iff {K : Type} [Stored K] {key : String} {done : Unit} :
    cluster.delete K key = .ok (done, after) ↔
      cluster.check .delete (Resource.kind K) = .ok () ∧ (cluster.peek K key).isSome ∧
        after = (cluster.discard K key).record .delete (Resource.kind K) key := by
  simp only [delete, except_bind_eq_ok_iff, present_eq_ok_iff, Option.isSome_iff_exists]
  constructor
  · rintro ⟨_, allowed, object, found, done⟩
    cases done
    exact ⟨allowed, ⟨object, found⟩, rfl⟩
  · rintro ⟨allowed, ⟨object, found⟩, rfl⟩
    exact ⟨(), allowed, object, found, rfl⟩

theorem Succeeds.calls (succeeds : cluster.Succeeds operation reply after) :
    after.calls = cluster.calls ++ operation.calls := by
  rw [Operation.calls_eq]
  cases succeeds with
  | get | listTuned | listPools => exact (List.append_nil _).symm
  | create absent =>
    rw [call_create]
    simp [Verb.writes]
  | update other found =>
    rw [call_update _ other]
    simp [Verb.writes]
  | @updateProfile profile existing updated found merged =>
    split <;> simp [Operation.call, Verb.writes]
  | delete => simp [Operation.call, Verb.writes]
  | patchStatus => simp [Operation.call, Verb.writes]

theorem calls_perform (performed : cluster.perform operation = (.ok reply, after)) :
    after.calls = cluster.calls ++ operation.calls :=
  (succeeds_of_perform performed).calls

theorem Performs.calls {operations : List Operation} {before : Cluster}
    (performs : Performs operations before after) :
    after.calls = before.calls ++ operations.flatMap Operation.calls := by
  induction performs with
  | nil => simp
  | cons performed _ ih => rw [ih, calls_perform performed, List.flatMap_cons, List.append_assoc]

end Conclusions

/-- The kinds of components, whose objects are created and updated as any others. -/
class Performed (K : Type) [Component K] [Lawful K] : Prop where
  perform_create (cluster : Cluster) (object : K) : cluster.perform (.create (toAny object)) =
    cluster.concluded ((cluster.create object).map fun done => (.object (toAny done.1), done.2)) := by
      intro cluster object
      change cluster.concluded (((cluster.create object).map fun done =>
        (toAny done.1, done.2)) >>= fun done => pure (.object done.1, done.2)) = _
      cases cluster.create object <;> rfl
  perform_update (cluster : Cluster) (object : K) : cluster.perform (.update (toAny object)) =
    cluster.concluded ((cluster.update object).map fun done => (.object (toAny done.1), done.2)) := by
      intro cluster object
      change cluster.concluded (((cluster.update object).map fun done =>
        (toAny done.1, done.2)) >>= fun done => pure (.object done.1, done.2)) = _
      cases cluster.update object <;> rfl

instance : Performed MachineConfig where

instance : Performed KubeletConfig where

instance : Performed Tuned where

instance : Performed RuntimeClass where

theorem perform_delete_tuned (cluster : Cluster) (inNamespace : Option String) (name : String) :
    cluster.perform (.delete .tuned inNamespace name) =
      cluster.concluded ((cluster.delete Tuned (keyIn inNamespace name)).map fun done =>
        (.nothing, done.2)) := by
  change cluster.concluded (cluster.delete Tuned (keyIn inNamespace name) >>= fun done =>
    pure (.nothing, done.2)) = _
  cases cluster.delete Tuned (keyIn inNamespace name) <;> rfl

theorem perform_listTuned (cluster : Cluster) (inNamespace : String) :
    cluster.perform (.listTuned inNamespace) =
      cluster.concluded ((cluster.listTuned inNamespace).map fun listed =>
        (.objects (listed.map .tuned), cluster)) := by
  change cluster.concluded (cluster.listTuned inNamespace >>= fun listed =>
    pure (.objects (listed.map .tuned), cluster)) = _
  cases cluster.listTuned inNamespace <;> rfl

end Cluster
end NodeTuning
