import NodeTuning.Cluster.State
import NodeTuning.Object.Selector

/-!
The operations of a cluster. An operation that fails changes nothing, and a write that succeeds
changes the objects under one key and adds one call to the log.
-/
namespace NodeTuning.Cluster

/-- Fails if the operation is one of those that are made to fail. -/
def check (cluster : Cluster) (verb : Verb) (kind : Kind) : Except ClusterError Unit :=
  match cluster.failures.find? (operationName verb kind) with
  | some message => .error (.failed message)
  | none => .ok ()

def record (cluster : Cluster) (verb : Verb) (kind : Kind) (key : String) : Cluster :=
  { cluster with calls := cluster.calls ++ [⟨verb, kind, key⟩] }

section Objects
variable {K : Type} [Stored K]

/-- The object under a key, whatever is made to fail. -/
def peek (K : Type) [Stored K] (cluster : Cluster) (key : String) : Option K :=
  (Stored.store cluster).find? key

/-- Puts an object in its place without a trace in the log. -/
def put (cluster : Cluster) (object : K) : Cluster :=
  Stored.withStore cluster ((Stored.store cluster).insert (storeKey object) object)

def remove (K : Type) [Stored K] (cluster : Cluster) (key : String) : Cluster :=
  Stored.withStore cluster ((Stored.store (K := K) cluster).erase key)

def present (K : Type) [Stored K] (cluster : Cluster) (key : String) : Except ClusterError K :=
  match cluster.peek K key with
  | some object => .ok object
  | none => .error (.notFound (Resource.kind K) key)

def read (K : Type) [Stored K] (cluster : Cluster) (key : String) : Except ClusterError K := do
  cluster.check .get (Resource.kind K)
  cluster.present K key

def nextUid (cluster : Cluster) : String := "mock-uid-" ++ toString (cluster.uidCount + 1)

/-- An object as it is stored when it is new. It keeps its uid or else gets a new one, and has
version 1. -/
def asCreated (cluster : Cluster) (object : K) : K :=
  let own := Resource.metadata object
  Resource.withMetadata object
    { own with uid := own.uid.or (some cluster.nextUid), resourceVersion := some "1" }

def countUid (cluster : Cluster) (object : K) : Cluster :=
  match (Resource.metadata object).uid with
  | some _ => cluster
  | none => { cluster with uidCount := cluster.uidCount + 1 }

def create (cluster : Cluster) (object : K) : Except ClusterError (K × Cluster) := do
  let kind := Resource.kind K
  let key := storeKey object
  cluster.check .create kind
  if (cluster.peek K key).isSome then throw (.alreadyExists kind key)
  let created := cluster.asCreated object
  return (created, ((cluster.countUid object).put created).record .create kind key)

/-- The version after the given one, as a 64-bit word. A text that is no such word counts as 0. -/
def nextVersion (version : Option String) : String :=
  let current := (version.bind fun text => Text.unsigned? UInt64.size text.toList).getD 0
  toString ((current + 1) % UInt64.size)

/-- An object as it is stored in place of another one. The uid stays, and the version becomes the
next one. -/
def asUpdated (existing object : K) : K :=
  let stored := Resource.metadata existing
  Resource.withMetadata object { Resource.metadata object with
    uid := stored.uid
    resourceVersion := some (nextVersion stored.resourceVersion) }

def update (cluster : Cluster) (object : K) : Except ClusterError (K × Cluster) := do
  let kind := Resource.kind K
  let key := storeKey object
  cluster.check .update kind
  let updated := asUpdated (← cluster.present K key) object
  return (updated, (cluster.put updated).record .update kind key)

def markTerminating (cluster : Cluster) (kind : Kind) (key : String) : Cluster :=
  { cluster with terminating := cluster.terminating.insert (kind, key) }

/-- Takes an object away, or marks it if deletion is deferred. -/
def discard (K : Type) [Stored K] (cluster : Cluster) (key : String) : Cluster :=
  if cluster.deferredDeletion then cluster.markTerminating (Resource.kind K) key
  else cluster.remove K key

def delete (K : Type) [Stored K] (cluster : Cluster) (key : String) :
    Except ClusterError (Unit × Cluster) := do
  let kind := Resource.kind K
  cluster.check .delete kind
  let _ ← cluster.present K key
  return ((), (cluster.discard K key).record .delete kind key)

end Objects

/-- Replaces a profile but for its status. A profile that is being deleted goes with its last
finalizer. -/
def updateProfile (cluster : Cluster) (profile : Profile) :
    Except ClusterError (Profile × Cluster) := do
  let key := profile.name
  cluster.check .update .performanceProfile
  let existing ← cluster.present Profile key
  let updated := { profile with status := existing.status }
  let after := if updated.isReleased then cluster.remove Profile key else cluster.put updated
  return (updated, after.record .update .performanceProfile key)

def patchStatus (cluster : Cluster) (key : String) (status : ProfileStatus) :
    Except ClusterError (Unit × Cluster) := do
  cluster.check .updateStatus .performanceProfile
  let existing ← cluster.present Profile key
  let after := cluster.put { existing with status := some status }
  return ((), after.record .updateStatus .performanceProfile key)

def listTuned (cluster : Cluster) (inNamespace : String) : Except ClusterError (List Tuned) := do
  cluster.check .list .tuned
  return cluster.tuneds.values.filter fun tuned => tuned.metadata.inNamespace = some inNamespace

/-- The pools with all labels of a query. -/
def listPools (cluster : Cluster) (query : String) :
    Except ClusterError (List MachineConfigPool) := do
  cluster.check .list .machineConfigPool
  let wanted := LabelSelector.ofLabels (LabelSelector.labelsOfQuery query)
  return cluster.pools.values.filter fun pool => wanted.selects (Resource.labels pool)

def failOn (cluster : Cluster) (operation message : String) : Cluster :=
  { cluster with failures := cluster.failures.insert operation message }

def clearFailures (cluster : Cluster) : Cluster := { cluster with failures := .empty }

def swept {K : Type} [Stored K] (cluster : Cluster) : SortedMap K :=
  let kind := Resource.kind K
  cluster.terminating.foldl
    (fun objects entry => if entry.1 = kind then objects.erase entry.2 else objects)
    (Stored.store cluster)

def collectGarbage (cluster : Cluster) : Cluster :=
  { cluster with
    machineConfigs := cluster.swept
    kubeletConfigs := cluster.swept
    tuneds := cluster.swept
    runtimeClasses := cluster.swept
    terminating := [] }

end NodeTuning.Cluster
