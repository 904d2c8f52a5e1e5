import NodeTuning.Net.SocketAddress
import NodeTuning.SortedMap
import NodeTuning.Text.Quoted

/-!
The settings of the controller, read from the variables `TUNED_NAMESPACE`, `PROBE_ADDR` and
`RECONCILE_CONCURRENCY`. The first fault wins, in this order.
-/
namespace NodeTuning

structure Config where
  tunedNamespace : String
  probeAddress : SocketAddress
  concurrency : Nat
  deriving DecidableEq

inductive ConfigError where
  | probeAddress (value : String)
  | concurrency (value : String)
  deriving DecidableEq

namespace ConfigError

def message : ConfigError → String
  | .probeAddress value =>
    "PROBE_ADDR " ++ Text.quoted value ++ " is not a socket address: invalid socket address syntax"
  | .concurrency value =>
    "RECONCILE_CONCURRENCY must be a positive integer, got " ++ Text.quoted value

end ConfigError

namespace Config

def defaultTunedNamespace : String := "openshift-cluster-node-tuning-operator"

def defaultProbeAddress : SocketAddress := .v4 [0, 0, 0, 0] 8081

def defaultConcurrency : Nat := 3

private def isBlankText (text : String) : Bool := (Text.trim text.toList).isEmpty

/-- A namespace of blanks counts as unset. -/
private def readNamespace (value : Option String) : String :=
  (value.filter fun name => !isBlankText name).getD defaultTunedNamespace

private def readAddress : Option String → Except ConfigError SocketAddress
  | none => .ok defaultProbeAddress
  | some value =>
    match SocketAddress.read? value with
    | some address => .ok address
    | none => .error (.probeAddress value)

private def readConcurrency : Option String → Except ConfigError Nat
  | none => .ok defaultConcurrency
  | some value =>
    match (Text.unsigned? UInt16.size value.toList).filter (0 < ·) with
    | some n => .ok n
    | none => .error (.concurrency value)

def ofEnvironment (environment : SortedMap String) : Except ConfigError Config := do
  let address ← readAddress (environment.find? "PROBE_ADDR")
  let concurrency ← readConcurrency (environment.find? "RECONCILE_CONCURRENCY")
  return ⟨readNamespace (environment.find? "TUNED_NAMESPACE"), address, concurrency⟩

end Config
end NodeTuning
