import NodeTuning.Cluster.Error
import NodeTuning.Component.Error
import NodeTuning.Config

/-!
Why the controller fails.
-/
namespace NodeTuning

inductive ControllerError where
  | cluster (fault : ClusterError)
  | synthesis (fault : SynthesisError)
  | poolStatus (fault : ClusterError)
  | configuration (fault : ConfigError)
  deriving DecidableEq

namespace ControllerError

def message : ControllerError → String
  | .cluster fault => "Cluster error: " ++ fault.message
  | .synthesis fault => "Component synthesis failed: " ++ fault.message
  | .poolStatus fault => "Failed to read machine config pool status: " ++ fault.message
  | .configuration fault => "Invalid configuration: " ++ fault.message

def isNotFound : ControllerError → Bool
  | .cluster fault => fault.isNotFound
  | _ => false

end ControllerError
end NodeTuning
