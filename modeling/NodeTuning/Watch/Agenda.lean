import NodeTuning.Watch.ProfileRef

/-!
When profiles are due. Times are whole seconds. A request waits for one more second, so that several
in a row make one pass, and each profile has at most one request that waits.
-/
namespace NodeTuning

structure Pending where
  profile : ProfileRef
  due : Nat
  deriving DecidableEq

abbrev Agenda := List Pending

namespace Agenda

/-- Asks for a pass at a time. A request that would be due before that time stays, and a later one
gives way. -/
def request (profile : ProfileRef) (time : Nat) : Agenda → Agenda
  | [] => [⟨profile, time + 1⟩]
  | pending :: rest =>
    if pending.profile = profile then
      (if time ≤ pending.due then ⟨profile, time + 1⟩ else pending) :: rest
    else pending :: request profile time rest

def requestAll (agenda : Agenda) (profiles : List ProfileRef) (time : Nat) : Agenda :=
  profiles.foldl (fun agenda profile => request profile time agenda) agenda

/-- The profiles that are due, and the requests that go on waiting. -/
def takeDue (agenda : Agenda) (now : Nat) : List ProfileRef × Agenda :=
  let (due, waiting) := agenda.partition fun pending => pending.due ≤ now
  (due.map (·.profile), waiting)

end Agenda
end NodeTuning
