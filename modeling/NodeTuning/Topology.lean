import NodeTuning.CpuSet.Basic
import NodeTuning.CpuSet.Error

/-!
Machines: NUMA nodes, their physical cores and the logical CPUs of each core. A reservation takes
whole cores for housekeeping, from the lowest cores on or evenly from every node, and leaves the
other CPUs isolated.
-/
namespace NodeTuning

structure Core where
  id : Nat
  cpus : List Nat
  deriving DecidableEq

structure NumaNode where
  id : Nat
  cores : List Core
  deriving DecidableEq

structure Topology where
  nodes : List NumaNode
  hyperthreading : Bool
  deriving DecidableEq

def NumaNode.cpuCount (node : NumaNode) : Nat := (node.cores.flatMap (·.cpus)).length

namespace Topology

/-- The core with the given number on a uniform machine of `total` cores. -/
def uniformCore (total : Nat) (hyperthreading : Bool) (core : Nat) : Core :=
  ⟨core, if hyperthreading then [core, core + total] else [core]⟩

def uniformNode (total perNode : Nat) (hyperthreading : Bool) (node : Nat) : NumaNode :=
  ⟨node, (List.range' (node * perNode) perNode).map (uniformCore total hyperthreading)⟩

/-- The machine whose cores are numbered through and spread evenly over the nodes. Numbers of cores
and CPUs fit into 32 bits. -/
def uniform (sockets coresPerSocket nodes : Nat) (hyperthreading : Bool) :
    Except CpuError Topology :=
  let total := sockets * coresPerSocket
  if sockets = 0 ∨ coresPerSocket = 0 ∨ nodes = 0 then
    .error (.invalidTopology (.notPositive sockets coresPerSocket nodes))
  else if UInt32.size ≤ total then .error (.invalidTopology .tooManyCores)
  else if total % nodes ≠ 0 then .error (.invalidTopology (.uneven total nodes))
  else if hyperthreading ∧ UInt32.size ≤ 2 * total then .error (.invalidTopology .tooManyCpus)
  else
    .ok ⟨(List.range nodes).map (uniformNode total (total / nodes) hyperthreading), hyperthreading⟩

def cores (topology : Topology) : List Core := topology.nodes.flatMap (·.cores)

def allCpus (topology : Topology) : CpuSet := CpuSet.ofList (topology.cores.flatMap (·.cpus))

def cpuCount (topology : Topology) : Nat := (topology.cores.flatMap (·.cpus)).length

/-- Takes cores in order until the share is full. A core that is too large for what is left of the
share is a fault. -/
def takeCores (share : Nat) : List Core → CpuSet → Except CpuError CpuSet
  | [], taken => .ok taken
  | core :: rest, taken =>
    if taken.size = share then .ok taken
    else if share < taken.size + core.cpus.length then .error (.splitsThreadSiblings share)
    else takeCores share rest (taken.insertAll core.cpus)

/-- What the node at a position contributes when `count` CPUs come evenly from `nodes` nodes. -/
def nodeShare (count nodes position : Nat) : Nat :=
  count / nodes + if position < count % nodes then 1 else 0

def takeShares (count nodes : Nat) : Nat → List NumaNode → CpuSet → Except CpuError CpuSet
  | _, [], taken => .ok taken
  | position, node :: rest, taken =>
    let share := nodeShare count nodes position
    if node.cpuCount < share then .error (.nodeCapacityExceeded node.id share node.cpuCount)
    else
      match takeCores share node.cores .empty with
      | .error fault => .error fault
      | .ok more => takeShares count nodes (position + 1) rest (taken.union more)

/-- The CPUs that a valid count reserves. -/
def reservedCpus (topology : Topology) (count : Nat) (split : Bool) : Except CpuError CpuSet :=
  if split ∧ topology.nodes ≠ [] then
    takeShares count topology.nodes.length 0 topology.nodes .empty
  else takeCores count topology.cores .empty

/-- The reserved and the isolated CPUs. The count leaves at least one CPU on each side. -/
def reserve (topology : Topology) (count : Int) (split : Bool) :
    Except CpuError (CpuSet × CpuSet) :=
  let most := topology.cpuCount - 1
  if 1 ≤ count ∧ count ≤ most then
    match topology.reservedCpus count.toNat split with
    | .ok reserved => .ok (reserved, topology.allCpus.diff reserved)
    | .error fault => .error fault
  else .error (.invalidReservedCount count most)

end Topology
end NodeTuning
