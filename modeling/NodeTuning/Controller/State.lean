import NodeTuning.Backoff
import NodeTuning.Cluster.Action
import NodeTuning.Controller.Error
import NodeTuning.Metrics
import NodeTuning.Validation

/-!
The state of the controller, and the steps in which it works. The state holds the cluster that is
worked on, the events that were told to users, the counters, and how long to wait after failures.
-/
namespace NodeTuning

inductive Severity where
  | normal
  | warning
  deriving DecidableEq

def Severity.name : Severity → String
  | .normal => "Normal"
  | .warning => "Warning"

structure Event where
  profile : String
  severity : Severity
  reason : String
  message : String
  deriving DecidableEq

structure Retry where
  backoff : Backoff
  errors : UInt32
  deriving DecidableEq

/-- A profile that has not failed yet waits 5 seconds first and never more than 5 minutes. -/
def Retry.fresh : Retry := ⟨.create 5 300, 0⟩

structure Settings where
  tunedNamespace : String := Config.defaultTunedNamespace
  validate : Profile → Except String Unit := fun profile =>
    profile.validate.mapError ProfileFault.message

structure Controller where
  cluster : Cluster := {}
  events : List Event := []
  metrics : Metrics := {}
  retries : SortedMap Retry := .empty
  deriving DecidableEq

instance : Inhabited Controller := ⟨{}⟩

/-- A sequence of steps, which ends early at the first failure and keeps what was done before. -/
abbrev Pass := ExceptT ControllerError (StateM Controller)

namespace Pass
variable {α : Type}

/-- Works on the cluster. What came of it is a value. -/
def attemptOnCluster (action : Cluster.Action α) : Pass (Except ClusterError α) :=
  ExceptT.mk fun controller =>
    let (result, cluster) := action.run controller.cluster
    (.ok result, { controller with cluster })

/-- Works on the cluster. The function says what a failure there means. -/
def onClusterAs (wrap : ClusterError → ControllerError) (action : Cluster.Action α) : Pass α :=
  ExceptT.mk fun controller =>
    let (result, cluster) := action.run controller.cluster
    (result.mapError wrap, { controller with cluster })

def onCluster (action : Cluster.Action α) : Pass α := onClusterAs .cluster action

def ofSynthesis (result : Except SynthesisError α) : Pass α :=
  ExceptT.mk (pure (result.mapError .synthesis))

def change (f : Controller → Controller) : Pass Unit :=
  ExceptT.mk fun controller => (.ok (), f controller)

def tell (profile : Profile) (severity : Severity) (reason message : String) : Pass Unit :=
  change fun controller =>
    { controller with events := controller.events ++ [⟨profile.name, severity, reason, message⟩] }

def attempt (pass : Pass α) : Pass (Except ControllerError α) :=
  ExceptT.mk fun controller =>
    let (result, after) := pass.run controller
    (.ok result, after)

end Pass

namespace Controller

/-- The delay before a failed profile is tried again, and how often it has failed in a row. -/
def nextRetry (controller : Controller) (name : String) : (UInt64 × UInt32) × Controller :=
  let retry := (controller.retries.find? name).getD .fresh
  let (delay, backoff) := retry.backoff.next
  let errors := retry.errors + 1
  ((delay, errors),
    { controller with retries := controller.retries.insert name ⟨backoff, errors⟩ })

def resetRetry (controller : Controller) (name : String) : Controller :=
  match controller.retries.find? name with
  | none => controller
  | some retry =>
    { controller with retries := controller.retries.insert name ⟨retry.backoff.reset, 0⟩ }

def forgetRetry (controller : Controller) (name : String) : Controller :=
  { controller with retries := controller.retries.erase name }

end Controller
end NodeTuning
