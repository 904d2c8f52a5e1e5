import NodeTuning.Object.Profile

/-!
The sets of conditions that the controller reports. Each has the four types in a fixed order, and
exactly one of available, progressing and degraded holds.
-/
namespace NodeTuning

inductive Report where
  | available
  | progressing (reason message : String)
  | degraded (reason message : String)
  deriving DecidableEq

namespace Report

def plain (now : Timestamp) (type : ConditionType) (status : Bool) : Condition :=
  ⟨type, if status then .holds else .fails, none, none, some now, some now⟩

def explained (now : Timestamp) (type : ConditionType) (reason message : String) :
    Condition :=
  ⟨type, .holds, some reason, some message, some now, some now⟩

def conditions (now : Timestamp) : Report → List Condition
  | .available => [
    plain now .available true, plain now .upgradeable true,
    plain now .progressing false, plain now .degraded false]
  | .progressing reason message => [
    plain now .available false, plain now .upgradeable false,
    explained now .progressing reason message, plain now .degraded false]
  | .degraded reason message => [
    plain now .available false, plain now .upgradeable false,
    plain now .progressing false, explained now .degraded reason message]

end Report

namespace Condition

/-- Whether two conditions are the same but for their times. -/
def sameButTimes (first second : Condition) : Bool :=
  first.type = second.type && first.status = second.status && first.reason = second.reason &&
    first.message = second.message

/-- Keeps the time since when the status has been what it is, if an old condition knows it. -/
def carryTransition (old : List Condition) (condition : Condition) : Condition :=
  let before := old.find? fun other =>
    other.type = condition.type && other.status = condition.status
  match before.bind (·.lastTransitionTime) with
  | some time => { condition with lastTransitionTime := some time }
  | none => condition

end Condition

/-- Whether there are as many old conditions as new ones, and each new one is among the old ones. -/
def conditionsUnchanged (old new : List Condition) : Bool :=
  old.length = new.length && new.all fun condition => old.any condition.sameButTimes

end NodeTuning
