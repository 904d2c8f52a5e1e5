import NodeTuning.Object.KubeletConfig
import NodeTuning.Object.MachineConfig
import NodeTuning.Object.Pool
import NodeTuning.Object.Profile
import NodeTuning.Object.RuntimeClass
import NodeTuning.Object.Tuned

/-!
Objects of any kind, for operations that take or give objects of several kinds.
-/
namespace NodeTuning

inductive AnyObject where
  | profile (object : Profile)
  | machineConfig (object : MachineConfig)
  | kubeletConfig (object : KubeletConfig)
  | tuned (object : Tuned)
  | runtimeClass (object : RuntimeClass)
  | machineConfigPool (object : MachineConfigPool)
  deriving DecidableEq

namespace AnyObject

def kind : AnyObject → Kind
  | .profile _ => .performanceProfile
  | .machineConfig _ => .machineConfig
  | .kubeletConfig _ => .kubeletConfig
  | .tuned _ => .tuned
  | .runtimeClass _ => .runtimeClass
  | .machineConfigPool _ => .machineConfigPool

def metadata : AnyObject → ObjectMeta
  | .profile object => object.metadata
  | .machineConfig object => object.metadata
  | .kubeletConfig object => object.metadata
  | .tuned object => object.metadata
  | .runtimeClass object => object.metadata
  | .machineConfigPool object => object.metadata

def toJson : AnyObject → Json
  | .profile object => encode object
  | .machineConfig object => encode object
  | .kubeletConfig object => encode object
  | .tuned object => encode object
  | .runtimeClass object => encode object
  | .machineConfigPool object => encode object

def ofJson? (kind : Kind) (json : Json) : Option AnyObject :=
  match kind with
  | .performanceProfile => (decode? json).map .profile
  | .machineConfig => (decode? json).map .machineConfig
  | .kubeletConfig => (decode? json).map .kubeletConfig
  | .tuned => (decode? json).map .tuned
  | .runtimeClass => (decode? json).map .runtimeClass
  | .machineConfigPool => (decode? json).map .machineConfigPool

end AnyObject
end NodeTuning
