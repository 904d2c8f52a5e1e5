import NodeTuning.Text.Quoted

/-!
What can be wrong with a CPU list, a machine or a reservation, and how each fault is reported.
-/
namespace NodeTuning

inductive TopologyFault where
  | notPositive (sockets coresPerSocket nodes : Nat)
  | tooManyCores
  | uneven (cores nodes : Nat)
  | tooManyCpus
  deriving DecidableEq

inductive CpuError where
  /-- A piece of a list is neither a number nor a range. -/
  | invalidToken (token input : String)
  | reversedRange (start stop : Nat)
  | cpuOutOfRange (cpu most : Nat)
  | invalidTopology (fault : TopologyFault)
  | invalidReservedCount (requested : Int) (most : Nat)
  /-- A share would put the threads of one core on both sides. -/
  | splitsThreadSiblings (requested : Nat)
  | nodeCapacityExceeded (node requested available : Nat)
  deriving DecidableEq

namespace TopologyFault

def message : TopologyFault → String
  | .notPositive sockets cores nodes =>
    s!"sockets ({sockets}), cores per socket ({cores}) and NUMA nodes ({nodes}) " ++
      "must all be positive"
  | .tooManyCores => "too many cores"
  | .uneven cores nodes => s!"{cores} cores can't be spread evenly over {nodes} NUMA nodes"
  | .tooManyCpus => "too many CPUs"

end TopologyFault

namespace CpuError
open NodeTuning.Text

def message : CpuError → String
  | .invalidToken token input =>
    "invalid CPU list element " ++ quoted token ++ " in " ++ quoted input
  | .reversedRange start stop =>
    s!"invalid CPU range {start}-{stop}: start is greater than end"
  | .cpuOutOfRange cpu most => s!"CPU {cpu} is out of range, CPU ids go up to {most}"
  | .invalidTopology fault => "invalid topology: " ++ fault.message
  | .invalidReservedCount requested most =>
    s!"please specify the reserved CPU count in the range [1,{most}], got {requested}"
  | .splitsThreadSiblings requested =>
    s!"can't allocate {requested} CPUs without splitting the thread siblings of a physical core"
  | .nodeCapacityExceeded node requested available =>
    s!"NUMA node {node} has {available} CPUs, can't reserve {requested}"

end CpuError
end NodeTuning
