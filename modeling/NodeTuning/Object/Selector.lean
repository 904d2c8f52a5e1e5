import NodeTuning.Json.Codec
import NodeTuning.Text.Basic

/-!
Label selectors: labels that must be there, and requirements on single keys. The labels of a
selector are also written as a query, `k1=v1,k2=v2`, and read back from one.
-/
namespace NodeTuning

structure Requirement where
  key : String
  operator : String
  values : List String
  deriving DecidableEq

structure LabelSelector where
  matchLabels : Labels
  matchExpressions : List Requirement
  deriving DecidableEq

instance : JsonCodec Requirement where
  encode requirement := .record [
    field "key" requirement.key,
    field "operator" requirement.operator,
    listField "values" requirement.values]
  decode? json := do
    let fields ← json.record? ["key", "operator", "values"]
    let key ← fields.required "key"
    let operator ← fields.required "operator"
    let values ← fields.withDefault "values" []
    return ⟨key, operator, values⟩

instance : JsonCodec LabelSelector where
  encode selector := .record [
    labelsField "matchLabels" selector.matchLabels,
    listField "matchExpressions" selector.matchExpressions]
  decode? json := do
    let fields ← json.record? ["matchLabels", "matchExpressions"]
    let matchLabels ← fields.withDefault "matchLabels" .empty
    let matchExpressions ← fields.withDefault "matchExpressions" []
    return ⟨matchLabels, matchExpressions⟩

namespace Requirement

/-- Whether the value that some labels give to the key is as required. An operator that is not known
is never satisfied. -/
def holds (requirement : Requirement) (labels : Labels) : Bool :=
  let value := labels.find? requirement.key
  match requirement.operator with
  | "In" => value.any requirement.values.contains
  | "NotIn" => value.all fun v => !requirement.values.contains v
  | "Exists" => value.isSome
  | "DoesNotExist" => value.isNone
  | _ => false

end Requirement

namespace LabelSelector
open NodeTuning.Text

def ofLabels (labels : Labels) : LabelSelector := ⟨labels, []⟩

def selects (selector : LabelSelector) (labels : Labels) : Bool :=
  selector.matchLabels.all (fun key value => labels.find? key = some value) &&
    selector.matchExpressions.all (·.holds labels)

def query (selector : LabelSelector) : String :=
  join "," (selector.matchLabels.entries.map fun entry => entry.1 ++ "=" ++ entry.2)

private def readPair (pair : List Char) : Option (String × String) :=
  (cut '=' pair).map fun halves =>
    (String.ofList (trim halves.1), String.ofList (trim halves.2))

/-- The labels that a query asks for. Pieces without an equals sign are ignored. -/
def labelsOfQuery (query : String) : Labels :=
  .ofList ((pieces ',' query.toList).filterMap readPair)

end LabelSelector
end NodeTuning
