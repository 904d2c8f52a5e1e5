/-!
The kinds of objects in the cluster and how the API names them.
-/
namespace NodeTuning

inductive Kind where
  | performanceProfile
  | machineConfig
  | kubeletConfig
  | tuned
  | runtimeClass
  | machineConfigPool
  deriving DecidableEq

namespace Kind

def name : Kind → String
  | .performanceProfile => "PerformanceProfile"
  | .machineConfig => "MachineConfig"
  | .kubeletConfig => "KubeletConfig"
  | .tuned => "Tuned"
  | .runtimeClass => "RuntimeClass"
  | .machineConfigPool => "MachineConfigPool"

def all : List Kind := [
  .performanceProfile, .machineConfig, .kubeletConfig, .tuned, .runtimeClass, .machineConfigPool]

def ofName? (name : String) : Option Kind := all.find? fun kind => kind.name = name

def group : Kind → String
  | .performanceProfile => "performance.openshift.io"
  | .machineConfig | .kubeletConfig | .machineConfigPool => "machineconfiguration.openshift.io"
  | .tuned => "tuned.openshift.io"
  | .runtimeClass => "node.k8s.io"

def version : Kind → String
  | .performanceProfile => "v2"
  | _ => "v1"

def apiVersion (kind : Kind) : String := kind.group ++ "/" ++ kind.version

/-- Whether the objects of the kind live in namespaces. -/
def isNamespaced : Kind → Bool
  | .tuned => true
  | _ => false

def plural : Kind → String
  | .performanceProfile => "performanceprofiles"
  | .machineConfig => "machineconfigs"
  | .kubeletConfig => "kubeletconfigs"
  | .tuned => "tuneds"
  | .runtimeClass => "runtimeclasses"
  | .machineConfigPool => "machineconfigpools"

end Kind
end NodeTuning
