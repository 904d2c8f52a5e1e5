import NodeTuning.Cluster.Operation
import NodeTuning.Remote.Target

/-!
The requests by which operations are sent to a distant cluster.
-/
namespace NodeTuning

inductive Method where
  | get
  | post
  | put
  | patch
  | delete
  deriving DecidableEq

def Method.name : Method → String
  | .get => "GET"
  | .post => "POST"
  | .put => "PUT"
  | .patch => "PATCH"
  | .delete => "DELETE"

inductive ContentType where
  | json
  | mergePatch
  deriving DecidableEq

def ContentType.name : ContentType → String
  | .json => "application/json"
  | .mergePatch => "application/merge-patch+json"

structure Request where
  method : Method
  target : String
  body : Option (ContentType × Json)

namespace Request

/-- A request, if there is one for the text of its target. -/
def make? (method : Method) (target : String) (body : Option (ContentType × Json)) :
    Option Request :=
  (Target.read? target).map fun target => ⟨method, target, body⟩

/-- The text for one object. An object is not asked for without a name. -/
private def objectTarget? (collection name tail : String) : Option String :=
  if name.isEmpty then none else some (collection ++ "/" ++ name ++ tail)

private def spaceOf (inNamespace : Option String) : String := inNamespace.getD ""

private def collectionOf (object : AnyObject) : String :=
  Target.collection object.kind (spaceOf object.metadata.inNamespace)

/-- The name under which an object is sent. -/
def nameOf (metadata : ObjectMeta) : String := (metadata.name.or metadata.generateName).getD ""

def ofOperation? : Operation → Option Request
  | .get kind inNamespace name => do
    let target ← objectTarget? (Target.collection kind (spaceOf inNamespace)) name ""
    make? .get target none
  | .create object => make? .post (collectionOf object ++ "?") (some (.json, object.toJson))
  | .update object => do
    let target ← objectTarget? (collectionOf object) (nameOf object.metadata) "?"
    make? .put target (some (.json, object.toJson))
  | .delete kind inNamespace name => do
    let target ← objectTarget? (Target.collection kind (spaceOf inNamespace)) name "?"
    make? .delete target (some (.json, .obj []))
  | .listTuned inNamespace => make? .get (Target.collection .tuned inNamespace ++ "?") none
  | .listPools query =>
    make? .get (Target.collection .machineConfigPool "" ++ "?" ++ Target.labelQuery query) none
  | .patchStatus profile status => do
    let target ← objectTarget? (Target.collection .performanceProfile "") profile "/status?"
    make? .patch target (some (.mergePatch, .obj [("status", encode status)]))

end Request
end NodeTuning
