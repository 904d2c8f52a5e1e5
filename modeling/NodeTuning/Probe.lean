import NodeTuning.Metrics.Exposition
import NodeTuning.Text.Basic

/-!
The endpoints by which the controller is watched over: whether it is alive, whether it is ready, and
its counters.
-/
namespace NodeTuning

structure Probe where
  ready : Bool := false
  metrics : Metrics := {}

structure ProbeAnswer where
  status : Nat
  contentType : Option String := none
  allow : Option String := none
  body : String := ""
  deriving DecidableEq

namespace Probe

def endpoint? (probe : Probe) (path : String) : Option (Nat × String) :=
  match path with
  | "/healthz" => some (200, "ok")
  | "/readyz" => some (if probe.ready then (200, "ready") else (503, "not ready"))
  | "/metrics" => some (200, probe.metrics.exposition)
  | _ => none

private def isSchemeChar (c : Char) : Bool := c.isAlphanum || ['+', '-', '.', '~'].contains c

/-- The path behind the authority of a target that begins with a scheme. -/
private def pathBehind? (target : List Char) : Option (List Char) := do
  let (scheme, rest) ← Text.cut ':' target
  match rest with
  | '/' :: '/' :: behind =>
    if scheme.all isSchemeChar then
      let path := behind.dropWhile (· ≠ '/')
      some (if path.isEmpty then ['/'] else path)
    else none
  | _ => none

/-- The path of a target, without query and fragment. A target may also give a scheme and an
authority in front of its path. -/
def pathOf (target : String) : String :=
  let sent := target.toList.takeWhile fun c => c ≠ '?' && c ≠ '#'
  String.ofList ((pathBehind? sent).getD sent)

/-- Answers a request. Endpoints are only read, with or without a body. -/
def respond (probe : Probe) (method target : String) : ProbeAnswer :=
  match probe.endpoint? (pathOf target) with
  | none => { status := 404 }
  | some (status, text) =>
    if method = "GET" then ⟨status, some "text/plain; charset=utf-8", none, text⟩
    else if method = "HEAD" then ⟨status, some "text/plain; charset=utf-8", none, ""⟩
    else { status := 405, allow := some "GET,HEAD" }

end Probe
end NodeTuning
