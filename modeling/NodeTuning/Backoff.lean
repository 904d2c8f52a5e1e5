/-!
Delays between attempts: each delay is twice the one before, up to a cap, and a reset starts over.
Delays are whole seconds in 64-bit words, and doubling stops at the largest word.
-/
namespace NodeTuning

structure Backoff where
  least : UInt64
  current : UInt64
  most : UInt64
  deriving DecidableEq

namespace Backoff

/-- The sequence that starts at `least`, which counts as one second if it is zero. -/
def create (least most : UInt64) : Backoff :=
  let least := max least 1
  ⟨least, min least most, most⟩

/-- Twice a word, or the largest word if that is too large. -/
def double (n : UInt64) : UInt64 :=
  if 2 * n.toNat < UInt64.size then 2 * n else UInt64.ofNat (UInt64.size - 1)

def next (backoff : Backoff) : UInt64 × Backoff :=
  (backoff.current, { backoff with current := min (double backoff.current) backoff.most })

def reset (backoff : Backoff) : Backoff :=
  { backoff with current := min backoff.least backoff.most }

end Backoff
end NodeTuning
