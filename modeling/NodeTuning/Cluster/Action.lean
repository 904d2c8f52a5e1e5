import NodeTuning.Cluster.Access

/-!
Sequences of operations on a cluster. What was written before a failure stays written.
-/
namespace NodeTuning.Cluster

/-- A sequence of operations, which ends early at the first failure. -/
abbrev Action := ExceptT ClusterError (StateM Cluster)

namespace Action
variable {α : Type}

def ofRead (operation : Cluster → Except ClusterError α) : Action α :=
  ExceptT.mk fun cluster => (operation cluster, cluster)

def ofWrite (operation : Cluster → Except ClusterError (α × Cluster)) : Action α :=
  ExceptT.mk fun cluster =>
    match operation cluster with
    | .ok (value, after) => (.ok value, after)
    | .error fault => (.error fault, cluster)

def find? (K : Type) [Stored K] (key : String) : Action (Option K) :=
  ofRead fun cluster =>
    match cluster.read K key with
    | .ok object => .ok (some object)
    | .error fault => if fault.isNotFound then .ok none else .error fault

/-- Deletes the object under a key, unless there is none. -/
def ensureDeleted (K : Type) [Stored K] (key : String) : Action Unit :=
  ofWrite fun cluster =>
    match cluster.delete K key with
    | .ok result => .ok result
    | .error fault => if fault.isNotFound then .ok ((), cluster) else .error fault

end Action
end NodeTuning.Cluster
