import NodeTuning.Proofs.Cluster.Objects
import NodeTuning.Proofs.Controller.Conditions

/-!
Objects that are the same but for what the cluster gives them when it stores them, or for the times
of conditions.
-/
namespace NodeTuning

def ProfileStatus.undated (status : ProfileStatus) : ProfileStatus :=
  { status with conditions := timeless status.conditions }

namespace AnyObject

/-- An object without the times of its conditions. -/
def timeless : AnyObject → AnyObject
  | .profile own => .profile { own with status := own.status.map ProfileStatus.undated }
  | object => object

def anonymous (object : AnyObject) : AnyObject :=
  object.withMetadata { object.metadata with uid := none }

/-- An object without what the cluster gives it when it stores it. -/
def unversioned (object : AnyObject) : AnyObject :=
  object.withMetadata { object.metadata with uid := none, resourceVersion := none }

@[simp] theorem metadata_timeless (object : AnyObject) :
    object.timeless.metadata = object.metadata := by
  cases object <;> rfl

@[simp] theorem timeless_withMetadata (object : AnyObject) (metadata : ObjectMeta) :
    (object.withMetadata metadata).timeless = object.timeless.withMetadata metadata := by
  cases object <;> rfl

end AnyObject

/-- Kinds whose objects have metadata to replace and no times. -/
class Stored.Plain (K : Type) [Stored K] [Stored.Lawful K] : Prop where
  timeless_toAny (object : K) : (Stored.toAny object).timeless = Stored.toAny object := by
    intros; rfl
  withMetadata_withMetadata (object : K) (first second : ObjectMeta) :
    Resource.withMetadata (Resource.withMetadata object first) second =
      Resource.withMetadata object second := by intros; rfl
  withMetadata_metadata (object : K) :
    Resource.withMetadata object (Resource.metadata object) = object := by intros; rfl

instance : Stored.Plain MachineConfig where

instance : Stored.Plain KubeletConfig where

instance : Stored.Plain Tuned where

instance : Stored.Plain RuntimeClass where

end NodeTuning
