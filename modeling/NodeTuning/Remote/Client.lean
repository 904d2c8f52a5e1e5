import NodeTuning.Remote.Answer
import NodeTuning.Remote.Request

/-!
Operations on a distant cluster: one request and what its answer means. The code 404 on a single
object means that it is not there.
-/
namespace NodeTuning

inductive RemoteError where
  | notFound (kind : Kind) (name : String)
  | refused (refusal : Refusal)
  /-- The answer is not what was asked for. -/
  | unreadable
  /-- There is no request for the operation. -/
  | noRequest
  deriving DecidableEq

namespace RemoteError

def ofAnswer : AnswerError → RemoteError
  | .refused refusal => .refused refusal
  | .unreadable => .unreadable

def isNotFound : RemoteError → Bool
  | .notFound _ _ => true
  | .refused refusal => refusal.code = 404
  | _ => false

def message? : RemoteError → Option String
  | .notFound kind name => some ("Not found: " ++ kind.name ++ " " ++ name)
  | .refused refusal => some refusal.message
  | _ => none

end RemoteError

namespace Operation

def readReply (operation : Operation) (answer : RawAnswer) : Except AnswerError Reply :=
  match operation with
  | .get kind _ _ => (answer.object kind).map .object
  | .create object => (answer.object object.kind).map .object
  | .update object => (answer.object object.kind).map .object
  | .delete kind _ _ => (answer.deleted kind).map fun _ => .nothing
  | .listTuned _ => (answer.objects .tuned).map .objects
  | .listPools _ => (answer.objects .machineConfigPool).map .objects
  | .patchStatus _ _ => (answer.object .performanceProfile).map fun _ => .nothing

/-- The single object that is not there when the code is 404. -/
def subject? : Operation → Option (Kind × String)
  | .get kind _ name => some (kind, name)
  | .update object => some (object.kind, Request.nameOf object.metadata)
  | .delete kind _ name => some (kind, name)
  | .patchStatus profile _ => some (.performanceProfile, profile)
  | _ => none

private def fault (operation : Operation) (error : AnswerError) : RemoteError :=
  match error, operation.subject? with
  | .refused refusal, some (kind, name) =>
    if refusal.code = 404 then .notFound kind name else .refused refusal
  | other, _ => .ofAnswer other

def send (operation : Operation) (answer : RawAnswer) :
    List Request × Except RemoteError Reply :=
  match Request.ofOperation? operation with
  | none => ([], .error .noRequest)
  | some request => ([request], (operation.readReply answer).mapError operation.fault)

end Operation
end NodeTuning
