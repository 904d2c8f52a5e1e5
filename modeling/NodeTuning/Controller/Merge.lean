import NodeTuning.Cluster.State

/-!
Bringing an object of the cluster to what it should be. Its spec is replaced, the labels and
annotations that it should have are added, and all else that others wrote to it stays.
-/
namespace NodeTuning

class Component (K : Type) extends Stored K where
  /-- Replaces all of an object but its metadata by what another object has. -/
  withSpecOf : K → K → K
  equal : DecidableEq K

namespace Component

instance : Component MachineConfig where
  withSpecOf object other := { object with spec := other.spec }
  equal := inferInstance

instance : Component KubeletConfig where
  withSpecOf object other := { object with spec := other.spec }
  equal := inferInstance

instance : Component Tuned where
  withSpecOf object other := { object with spec := other.spec }
  equal := inferInstance

instance : Component RuntimeClass where
  withSpecOf object other := { other with metadata := object.metadata }
  equal := inferInstance

end Component

/-- The labels that are there with the desired ones added. Without desired ones nothing changes. -/
def mergeLabels (existing desired : Option Labels) : Option Labels :=
  match desired with
  | none => existing
  | some labels => if labels.isEmpty then existing else some ((existing.getD .empty).extend labels)

def ObjectMeta.merge (existing desired : ObjectMeta) : ObjectMeta :=
  { existing with
    labels := mergeLabels existing.labels desired.labels
    annotations := mergeLabels existing.annotations desired.annotations }

section Objects
variable {K : Type} [Component K]

/-- An object with what the desired one asks for. -/
def merged (existing desired : K) : K :=
  Component.withSpecOf
    (Resource.withMetadata existing
      ((Resource.metadata existing).merge (Resource.metadata desired)))
    desired

/-- The object to write, unless there is nothing to change. -/
def mutated? (existing desired : K) : Option K :=
  let _ := Component.equal (K := K)
  let updated := merged existing desired
  if updated = existing then none else some updated

inductive Write (K : Type) where
  | create (object : K)
  | update (object : K)
  | unchanged

def Write.isUnchanged {K : Type} : Write K → Bool
  | .unchanged => true
  | _ => false

/-- Compares what is there, if anything, with what should be there. -/
def Write.plan (existing : Option K) (desired : K) : Write K :=
  match existing with
  | none => .create desired
  | some existing =>
    match mutated? existing desired with
    | none => .unchanged
    | some updated => .update updated

end Objects
end NodeTuning
