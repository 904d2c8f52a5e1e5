import NodeTuning.SortedMap

/-!
Counters of passes, of failed passes, and of the components that were written, by their kinds. Each
goes up by one at a time and decides nothing, so that they are not cut to 64 bits.
-/
namespace NodeTuning

structure Metrics where
  passes : Nat := 0
  failedPasses : Nat := 0
  applied : SortedMap Nat := .empty
  deriving DecidableEq

namespace Metrics

def countPass (metrics : Metrics) : Metrics := { metrics with passes := metrics.passes + 1 }

def countFailure (metrics : Metrics) : Metrics :=
  { metrics with failedPasses := metrics.failedPasses + 1 }

def appliedCount (metrics : Metrics) (kind : String) : Nat := (metrics.applied.find? kind).getD 0

def countApplied (metrics : Metrics) (kind : String) : Metrics :=
  { metrics with applied := metrics.applied.insert kind (metrics.appliedCount kind + 1) }

end Metrics
end NodeTuning
