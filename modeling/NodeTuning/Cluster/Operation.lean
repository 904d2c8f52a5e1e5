import NodeTuning.Cluster.Access
import NodeTuning.Object.Any

/-!
The operations on a cluster as values, so that one request can be carried out on a cluster at hand
or sent to a distant one.
-/
namespace NodeTuning

inductive Operation where
  | get (kind : Kind) (inNamespace : Option String) (name : String)
  | create (object : AnyObject)
  | update (object : AnyObject)
  | delete (kind : Kind) (inNamespace : Option String) (name : String)
  | listTuned (inNamespace : String)
  | listPools (query : String)
  | patchStatus (profile : String) (status : ProfileStatus)

inductive Reply where
  | nothing
  | object (object : AnyObject)
  | objects (objects : List AnyObject)

namespace Cluster

/-- The object of a kind under a key, whatever is made to fail. -/
def peekAny (cluster : Cluster) (kind : Kind) (key : String) : Option AnyObject :=
  match kind with
  | .performanceProfile => (cluster.peek Profile key).map .profile
  | .machineConfig => (cluster.peek MachineConfig key).map .machineConfig
  | .kubeletConfig => (cluster.peek KubeletConfig key).map .kubeletConfig
  | .tuned => (cluster.peek Tuned key).map .tuned
  | .runtimeClass => (cluster.peek RuntimeClass key).map .runtimeClass
  | .machineConfigPool => (cluster.peek MachineConfigPool key).map .machineConfigPool

private def readAny (cluster : Cluster) (kind : Kind) (key : String) :
    Except ClusterError AnyObject :=
  match kind with
  | .performanceProfile => (cluster.read Profile key).map .profile
  | .machineConfig => (cluster.read MachineConfig key).map .machineConfig
  | .kubeletConfig => (cluster.read KubeletConfig key).map .kubeletConfig
  | .tuned => (cluster.read Tuned key).map .tuned
  | .runtimeClass => (cluster.read RuntimeClass key).map .runtimeClass
  | .machineConfigPool => (cluster.read MachineConfigPool key).map .machineConfigPool

private def wrap {K : Type} (object : K → AnyObject)
    (result : Except ClusterError (K × Cluster)) : Except ClusterError (AnyObject × Cluster) :=
  result.map fun done => (object done.1, done.2)

private def createAny (cluster : Cluster) :
    AnyObject → Except ClusterError (AnyObject × Cluster)
  | .profile object => wrap .profile (cluster.create object)
  | .machineConfig object => wrap .machineConfig (cluster.create object)
  | .kubeletConfig object => wrap .kubeletConfig (cluster.create object)
  | .tuned object => wrap .tuned (cluster.create object)
  | .runtimeClass object => wrap .runtimeClass (cluster.create object)
  | .machineConfigPool object => wrap .machineConfigPool (cluster.create object)

private def updateAny (cluster : Cluster) :
    AnyObject → Except ClusterError (AnyObject × Cluster)
  | .profile object => wrap .profile (cluster.updateProfile object)
  | .machineConfig object => wrap .machineConfig (cluster.update object)
  | .kubeletConfig object => wrap .kubeletConfig (cluster.update object)
  | .tuned object => wrap .tuned (cluster.update object)
  | .runtimeClass object => wrap .runtimeClass (cluster.update object)
  | .machineConfigPool object => wrap .machineConfigPool (cluster.update object)

private def deleteAny (cluster : Cluster) (kind : Kind) (key : String) :
    Except ClusterError (Unit × Cluster) :=
  match kind with
  | .performanceProfile => cluster.delete Profile key
  | .machineConfig => cluster.delete MachineConfig key
  | .kubeletConfig => cluster.delete KubeletConfig key
  | .tuned => cluster.delete Tuned key
  | .runtimeClass => cluster.delete RuntimeClass key
  | .machineConfigPool => cluster.delete MachineConfigPool key

private def outcome (cluster : Cluster) :
    Operation → Except ClusterError (Reply × Cluster)
  | .get kind inNamespace name => do
    let object ← cluster.readAny kind (keyIn inNamespace name)
    return (.object object, cluster)
  | .create object => do
    let (created, after) ← cluster.createAny object
    return (.object created, after)
  | .update object => do
    let (updated, after) ← cluster.updateAny object
    return (.object updated, after)
  | .delete kind inNamespace name => do
    let (_, after) ← cluster.deleteAny kind (keyIn inNamespace name)
    return (.nothing, after)
  | .listTuned inNamespace => do
    let listed ← cluster.listTuned inNamespace
    return (.objects (listed.map .tuned), cluster)
  | .listPools query => do
    let listed ← cluster.listPools query
    return (.objects (listed.map .machineConfigPool), cluster)
  | .patchStatus profile status => do
    let (_, after) ← cluster.patchStatus profile status
    return (.nothing, after)

/-- Carries out an operation. One that fails changes nothing. -/
def perform (cluster : Cluster) (operation : Operation) :
    Except ClusterError Reply × Cluster :=
  match cluster.outcome operation with
  | .ok (reply, after) => (.ok reply, after)
  | .error fault => (.error fault, cluster)

end Cluster
end NodeTuning
