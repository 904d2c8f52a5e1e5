import NodeTuning.CpuSet.Error

/-!
Why no components can be derived from a profile.
-/
namespace NodeTuning

inductive RoleFault where
  | labelCount (found : Nat)
  | foreignKey (key : String)
  deriving DecidableEq

inductive SynthesisError where
  | cpuList (fault : CpuError)
  | hugePageSize (size : String)
  | role (fault : RoleFault)
  /-- The profile has no name or no uid to refer to. -/
  | missingOwner (profile : String)
  deriving DecidableEq

def rolePrefix : String := "node-role.kubernetes.io/"

namespace RoleFault
open NodeTuning.Text

def message : RoleFault → String
  | .labelCount found => s!"node selector must have exactly one label, found {found}"
  | .foreignKey key =>
    "node selector key " ++ quoted key ++ " does not start with " ++ quoted rolePrefix

end RoleFault

namespace SynthesisError
open NodeTuning.Text

def message : SynthesisError → String
  | .cpuList fault => "invalid CPU list: " ++ fault.message
  | .hugePageSize size =>
    "unsupported huge page size " ++ quoted size ++ ", supported sizes are 2M and 1G"
  | .role fault => "can't derive a machine config role: " ++ fault.message
  | .missingOwner profile => s!"profile {profile} has no uid, can't set owner references"

end SynthesisError
end NodeTuning
