import NodeTuning.Json.Value
import NodeTuning.Object.Any
import NodeTuning.Text.Quoted

/-!
What the answers of a server mean. A server that refuses says why in a document of its own. If it
does not, then its text is taken for the message. An object is looked for in the text as it stands.
The answers to a deletion, and what a list holds besides its objects, are taken as values.
-/
namespace NodeTuning

structure RawAnswer where
  status : Nat
  body : String

structure Refusal where
  message : String
  reason : String
  code : UInt16
  deriving DecidableEq

inductive AnswerError where
  | refused (refusal : Refusal)
  | unreadable
  deriving DecidableEq

namespace Refusal

private def ofJson? (json : Json) : Option Refusal := do
  let fields ← json.record? ["status", "message", "reason", "code"]
  let _ : String ← fields.required "status"
  let message ← fields.withDefault "message" ""
  let reason ← fields.withDefault "reason" ""
  let code ← fields.required "code"
  return ⟨message, reason, code⟩

def ofAnswer (answer : RawAnswer) : Refusal :=
  ((Json.read? answer.body).bind ofJson?).getD
    ⟨Text.quoted answer.body, "Failed to parse error data", UInt16.ofNat answer.status⟩

end Refusal

namespace RawAnswer

private def readable {α : Type} (value : Option α) : Except AnswerError α :=
  match value with
  | some value => .ok value
  | none => .error .unreadable

def document (answer : RawAnswer) : Except AnswerError Json :=
  if 400 ≤ answer.status ∧ answer.status < 600 then .error (.refused (.ofAnswer answer))
  else readable (Json.read? answer.body)

def object (answer : RawAnswer) (kind : Kind) : Except AnswerError AnyObject := do
  readable (AnyObject.ofJson? kind (← answer.document))

private def listMetadata? (json : Json) : Option Unit := do
  let fields ← json.members?
  let _ : Option String ← fields.optional "continue"
  let _ : Option Int64 ← fields.optional "remainingItemCount"
  let _ : Option String ← fields.optional "resourceVersion"
  let _ : Option String ← fields.optional "selfLink"
  return ()

private def items? (kind : Kind) : Json → Option (List AnyObject)
  | .null => some []
  | .arr items => items.mapM (AnyObject.ofJson? kind)
  | _ => none

private def list? (kind : Kind) (json : Json) : Option (List AnyObject) := do
  let members ← json.distinctMembers? ["metadata", "items"]
  let others := members.filter fun entry => entry.1 ≠ "metadata" && entry.1 ≠ "items"
  if !(others.all fun entry => entry.2.isWhole (Json.maxDepth - 1)) then none
  (Json.valuesOf "metadata" members).forM listMetadata?
  items? kind (← json.member? "items")

def objects (answer : RawAnswer) (kind : Kind) : Except AnswerError (List AnyObject) := do
  readable (list? kind (← answer.document))

private def summary? (json : Json) : Option Unit :=
  match json.caseName? with
  | some "Success" => some ()
  | some "Failure" => some ()
  | _ => none

private def checkAll (fields : Fields) (name : String) (check : Json → Option Unit) : Option Unit :=
  (Json.valuesOf name fields).forM check

private def orNull (check : Json → Option Unit) : Json → Option Unit
  | .null => some ()
  | json => check json

private def cause? (json : Json) : Option Unit := do
  let fields ← json.record? ["reason", "message", "field"]
  let _ ← fields.withDefault "reason" ""
  let _ ← fields.withDefault "message" ""
  let _ ← fields.withDefault "field" ""
  return ()

private def causes? : Json → Option Unit
  | .arr causes => causes.forM cause?
  | _ => none

private def details? (json : Json) : Option Unit := do
  let fields ← json.record? ["name", "group", "kind", "uid", "causes", "retryAfterSeconds"]
  let _ ← fields.withDefault "name" ""
  let _ ← fields.withDefault "group" ""
  let _ ← fields.withDefault "kind" ""
  let _ ← fields.withDefault "uid" ""
  checkAll fields "causes" causes?
  let _ : UInt32 ← fields.withDefault "retryAfterSeconds" 0
  return ()

private def status? (json : Json) : Option Unit := do
  let fields ← json.distinctMembers? ["status", "code", "message", "reason", "details"]
  checkAll fields "status" (orNull summary?)
  let _ : UInt16 ← fields.withDefault "code" 0
  let _ ← fields.withDefault "message" ""
  let _ ← fields.withDefault "reason" ""
  checkAll fields "details" (orNull details?)

/-- Whether an answer says that an object was deleted: it holds a status document or the object. -/
def deleted (answer : RawAnswer) (kind : Kind) : Except AnswerError Unit := do
  let json ← answer.document
  if !json.isWhole Json.maxDepth then throw .unreadable
  match json.member? "kind" with
  | some (.str "Status") => readable (status? json)
  | _ => do
    let _ ← readable (AnyObject.ofJson? kind json)
    return ()

end RawAnswer
end NodeTuning
