import NodeTuning.Object.Kind

/-!
Operations on the cluster, how they are named, and how they fail.
-/
namespace NodeTuning

inductive Verb where
  | get
  | list
  | create
  | update
  | updateStatus
  | delete
  deriving DecidableEq

def Verb.name : Verb → String
  | .get => "get"
  | .list => "list"
  | .create => "create"
  | .update => "update"
  | .updateStatus => "update_status"
  | .delete => "delete"

def operationName (verb : Verb) (kind : Kind) : String := verb.name ++ " " ++ kind.name

structure Call where
  verb : Verb
  kind : Kind
  key : String
  deriving DecidableEq

def Call.text (call : Call) : String := operationName call.verb call.kind ++ " " ++ call.key

inductive ClusterError where
  | notFound (kind : Kind) (key : String)
  | alreadyExists (kind : Kind) (key : String)
  | failed (message : String)
  deriving DecidableEq

namespace ClusterError

def message : ClusterError → String
  | .notFound kind key => "Not found: " ++ kind.name ++ " " ++ key
  | .alreadyExists kind key => "API error: " ++ kind.name ++ " " ++ key ++ " already exists"
  | .failed message => "API error: " ++ message

def isNotFound : ClusterError → Bool
  | .notFound _ _ => true
  | _ => false

end ClusterError
end NodeTuning
