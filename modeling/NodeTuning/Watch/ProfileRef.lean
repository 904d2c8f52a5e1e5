import NodeTuning.Component.Identity
import NodeTuning.Object.Any
import NodeTuning.Object.Selector

/-!
References to profiles, and which profiles an object concerns: those that own it, or those that
select it if it is a pool.
-/
namespace NodeTuning

structure ProfileRef where
  name : String
  inNamespace : Option String
  deriving DecidableEq

namespace ProfileRef

/-- The reference to a profile. A profile without a name has none. -/
def ofProfile? (profile : Profile) : Option ProfileRef :=
  profile.metadata.name.map fun name => ⟨name, profile.metadata.inNamespace⟩

/-- The profile that an owner reference of an object means. It is looked for in the namespace of the
object. -/
def ofOwner? (inNamespace : Option String) (owner : OwnerReference) : Option ProfileRef :=
  if owner.apiVersion = Kind.performanceProfile.apiVersion ∧
      owner.kind = Kind.performanceProfile.name then
    some ⟨owner.name, inNamespace⟩
  else none

def owners (metadata : ObjectMeta) : List ProfileRef :=
  (metadata.ownerReferences.getD []).filterMap (ofOwner? metadata.inNamespace)

end ProfileRef

namespace Profile

def selectsPool (profile : Profile) (pool : MachineConfigPool) : Bool :=
  match profile.poolLabels with
  | .ok labels => (LabelSelector.ofLabels labels).selects (Resource.labels pool)
  | .error _ => false

end Profile

/-- References to the profiles that roll out to a pool, unless one of them has no name. -/
def profilesForPool? (profiles : List Profile) (pool : MachineConfigPool) :
    Option (List ProfileRef) :=
  (profiles.filter (·.selectsPool pool)).mapM ProfileRef.ofProfile?

end NodeTuning
