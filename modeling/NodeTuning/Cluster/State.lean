import NodeTuning.Cluster.Error
import NodeTuning.Object.KubeletConfig
import NodeTuning.Object.MachineConfig
import NodeTuning.Object.Pool
import NodeTuning.Object.Profile
import NodeTuning.Object.RuntimeClass
import NodeTuning.Object.Tuned

/-!
A cluster as a value: the objects of each kind under their keys, the log of writes, the operations
that are made to fail, and the objects that are being deleted.
-/
namespace NodeTuning

structure Cluster where
  profiles : SortedMap Profile := .empty
  machineConfigs : SortedMap MachineConfig := .empty
  kubeletConfigs : SortedMap KubeletConfig := .empty
  tuneds : SortedMap Tuned := .empty
  runtimeClasses : SortedMap RuntimeClass := .empty
  pools : SortedMap MachineConfigPool := .empty
  /-- The writes that succeeded, oldest first. -/
  calls : List Call := []
  /-- Messages of the operations that fail, by the names of the operations. -/
  failures : SortedMap String := .empty
  /-- Whether a deleted object stays until garbage is collected. -/
  deferredDeletion : Bool := false
  /-- The objects that stay until garbage is collected. -/
  terminating : List (Kind × String) := []
  /-- How many uids were made up, each for a creation that is in the log. The number is not cut to
  64 bits: it is at most the length of the log, and no log has as many as `2 ^ 64` entries. -/
  uidCount : Nat := 0
  deriving DecidableEq

instance : Inhabited Cluster := ⟨{}⟩

class Stored (K : Type) extends Resource K where
  store : Cluster → SortedMap K
  withStore : Cluster → SortedMap K → Cluster
  store_withStore : ∀ cluster objects, store (withStore cluster objects) = objects := by
    intros; rfl

namespace Stored

instance : Stored Profile where
  store := Cluster.profiles
  withStore cluster objects := { cluster with profiles := objects }

instance : Stored MachineConfig where
  store := Cluster.machineConfigs
  withStore cluster objects := { cluster with machineConfigs := objects }

instance : Stored KubeletConfig where
  store := Cluster.kubeletConfigs
  withStore cluster objects := { cluster with kubeletConfigs := objects }

instance : Stored Tuned where
  store := Cluster.tuneds
  withStore cluster objects := { cluster with tuneds := objects }

instance : Stored RuntimeClass where
  store := Cluster.runtimeClasses
  withStore cluster objects := { cluster with runtimeClasses := objects }

instance : Stored MachineConfigPool where
  store := Cluster.pools
  withStore cluster objects := { cluster with pools := objects }

end Stored

def keyIn (inNamespace : Option String) (name : String) : String :=
  match inNamespace with
  | some space => space ++ "/" ++ name
  | none => name

def storeKey {K : Type} [Resource K] (object : K) : String :=
  let own := Resource.metadata object
  keyIn own.inNamespace (own.name.getD "")

end NodeTuning
