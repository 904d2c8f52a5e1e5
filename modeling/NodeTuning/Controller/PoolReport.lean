import NodeTuning.Object.Pool

/-!
What is wrong with pools, as a text with a line for each reason and each message.
-/
namespace NodeTuning

def faultConditions : List String := ["NodeDegraded", "RenderDegraded"]

def reportLine (pool what : String) (text : Option String) : List String :=
  match text with
  | none => []
  | some text =>
    if text.isEmpty then [] else ["Machine config pool " ++ pool ++ " Degraded " ++ what ++ ": " ++
      text ++ ".\n"]

namespace MachineConfigPool

def faultLines (pool : MachineConfigPool) (type : String) : List String :=
  match pool.condition? type with
  | none => []
  | some condition =>
    if condition.status = "True" then
      let name := Resource.displayName pool
      reportLine name "Reason" condition.reason ++ reportLine name "Message" condition.message
    else []

def report (pool : MachineConfigPool) : List String := faultConditions.flatMap pool.faultLines

end MachineConfigPool

/-- The report on all degraded pools. It is empty when none is degraded. -/
def degradedPoolsMessage (pools : List MachineConfigPool) : String :=
  String.join (pools.flatMap MachineConfigPool.report)

end NodeTuning
