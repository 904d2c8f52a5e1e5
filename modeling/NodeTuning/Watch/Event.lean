import NodeTuning.Object.Kind
import NodeTuning.Object.Pool
import NodeTuning.Object.Profile

/-!
What watches tell. Generated objects matter by their metadata only, and the rest of them is not
read. An event is held as a whole before its object is read. In such a document a case that is given
an empty object counts as given nothing.
-/
namespace NodeTuning

inductive Change where
  | added
  | modified
  | deleted
  deriving DecidableEq

def Change.ofName? : String → Option Change
  | "ADDED" => some .added
  | "MODIFIED" => some .modified
  | "DELETED" => some .deleted
  | _ => none

/-- An event of one object, or the list of all objects that a watch starts from. -/
inductive WatchEvent where
  | profile (change : Change) (profile : Profile)
  | pool (pool : MachineConfigPool)
  | generated (metadata : ObjectMeta)
  | profiles (profiles : List Profile)
  | pools (pools : List MachineConfigPool)
  | unreadable

namespace WatchEvent

def metadata : WatchEvent → List ObjectMeta
  | .profile _ object => [object.metadata]
  | .pool object => [object.metadata]
  | .generated object => [object]
  | .profiles objects => objects.map (·.metadata)
  | .pools objects => objects.map (·.metadata)
  | .unreadable => []

/-- Whether a watch knows where to go on after an event. The event of an object has to give the
version of the object, while a list has a version of its own. -/
def isVersioned : WatchEvent → Bool
  | .profiles _ => true
  | .pools _ => true
  | .unreadable => false
  | event => event.metadata.all fun object => object.resourceVersion.getD "" ≠ ""

private def isCaseName (name : String) : Bool :=
  (ConditionType.ofName? name).isSome || (ConditionStatus.ofName? name).isSome

mutual

private def bare : Json → Json
  | .arr items => .arr (bareItems items)
  | .obj [(name, .obj [])] => .obj [(name, if isCaseName name then .null else .obj [])]
  | .obj members => .obj (bareMembers members)
  | other => other

private def bareItems : List Json → List Json
  | [] => []
  | item :: rest => bare item :: bareItems rest

private def bareMembers : List (String × Json) → List (String × Json)
  | [] => []
  | (name, value) :: rest => (name, bare value) :: bareMembers rest

end

private def read? (kind : Kind) (change : Change) (json : Json) : Option WatchEvent :=
  match kind with
  | .performanceProfile => (decode? (bare json)).map (WatchEvent.profile change)
  | .machineConfigPool => (decode? json).map WatchEvent.pool
  | _ => do
    let fields ← json.members?
    let metadata ← fields.withDefault "metadata" {}
    return .generated metadata

/-- The event that a watch of a kind tells by a document. -/
def read (kind : Kind) (change : Change) (json : Json) : WatchEvent :=
  (read? kind change json).getD .unreadable

end WatchEvent
end NodeTuning
