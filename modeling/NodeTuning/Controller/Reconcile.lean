import NodeTuning.Controller.Apply
import NodeTuning.Controller.Removal
import NodeTuning.Controller.Status

/-!
One pass over one profile. A profile that is being deleted loses its components and then the
controller's finalizer. Any other profile gets the finalizer first. It is then checked, its
components are applied, and what its pools say is reported.
-/
namespace NodeTuning

inductive Outcome where
  | done
  | requeueAfter (seconds : Nat)
  deriving DecidableEq

/-- The finalizer that keeps a profile until its components are gone. -/
def finalizer : String := "foreground-deletion.performance.openshift.io"

/-- The annotation that stops work on a profile while it is `true`. -/
def pauseAnnotation : String := "performance.openshift.io/pause-reconcile"

/-- Seconds to wait for components that are still there. -/
def removalDelay : Nat := 10

namespace Profile

def hasFinalizer (profile : Profile) : Bool := (Resource.finalizers profile).contains finalizer

def withFinalizers (profile : Profile) (finalizers : List String) : Profile :=
  { profile with metadata := { profile.metadata with finalizers := some finalizers } }

def addFinalizer (profile : Profile) : Profile :=
  profile.withFinalizers (Resource.finalizers profile ++ [finalizer])

def dropFinalizer (profile : Profile) : Profile :=
  profile.withFinalizers ((Resource.finalizers profile).filter (· ≠ finalizer))

def isPaused (profile : Profile) : Bool :=
  (Resource.annotations profile).find? pauseAnnotation = some "true"

end Profile

section Steps
variable (settings : Settings) (now : Timestamp)

/-- Writes a report and leaves the references to components as they are. -/
def writeReport (profile : Profile) (report : Report) (references : References) : Pass Unit :=
  writeStatus settings profile (report.conditions now) references

/-- Removes the components of a profile that is being deleted, and then the finalizer. -/
def finalize (profile : Profile) : Pass Outcome := do
  if !profile.hasFinalizer then return .done
  let name := profile.name
  match ← Pass.attemptOnCluster (deleteComponents settings.tunedNamespace name) with
  | .error fault =>
    Pass.tell profile .warning "Deletion failed" ("Failed to delete components: " ++ fault.message)
    throw (.cluster fault)
  | .ok () =>
    Pass.tell profile .normal "Deletion succeeded" "Succeeded to delete all components"
    if ← Pass.onCluster (componentsExist settings.tunedNamespace name) then
      return .requeueAfter removalDelay
    let _ ← Pass.onCluster (.ofWrite (Cluster.updateProfile · profile.dropFinalizer))
    Pass.change (·.forgetRetry name)
    return .done

/-- Makes a profile known to the controller. The write of the finalizer calls for the next pass. -/
def adopt (profile : Profile) : Pass Outcome := do
  let updated ← Pass.onCluster (.ofWrite (Cluster.updateProfile · profile.addFinalizer))
  writeReport settings now updated
    (.progressing "DeploymentStarting" "Deployment is starting") .kept
  return .done

def refuse (profile : Profile) (message : String) : Pass Outcome := do
  writeReport settings now profile (.degraded "ValidationFailed" message) .kept
  Pass.tell profile .warning "Validation failed" message
  return .done

def hold (profile : Profile) : Pass Outcome := do
  if !profile.conditions.isEmpty then writeStatus settings profile profile.conditions .kept
  return .done

def rollOut (profile : Profile) : Pass Bool := do
  match ← Pass.attempt (applyComponents settings profile) with
  | .ok written =>
    if written then
      Pass.tell profile .normal "Creation succeeded" "Succeeded to create all components"
    return written
  | .error fault =>
    let message := "failed to create components: " ++ fault.message
    let _ ← Pass.attempt (writeReport settings now profile
      (.degraded "ComponentCreationFailed" message) .kept)
    Pass.tell profile .warning "Creation failed" message
    throw fault

/-- Reports on the pools of a profile. If components were written, then a report that can't be
written is no failure. -/
def reportPools (profile : Profile) (written : Bool) : Pass Outcome := do
  match ← Pass.attempt (poolReport profile) with
  | .error fault =>
    let message := "failed to get machine config pool status: " ++ fault.message
    let _ ← Pass.attempt (writeReport settings now profile
      (.degraded "GettingMCPStatusFailed" message) .current)
    throw fault
  | .ok report =>
    match ← Pass.attempt (writeReport settings now profile (report.getD .available) .current) with
    | .ok () => return .done
    | .error fault => if written then return .done else throw fault

def reconcileProfile (profile : Profile) : Pass Outcome := do
  if profile.metadata.deletionTimestamp.isSome then finalize settings profile
  else if !profile.hasFinalizer then adopt settings now profile
  else match settings.validate profile with
    | .error message => refuse settings now profile message
    | .ok () =>
      if profile.isPaused then hold settings profile
      else
        let written ← rollOut settings now profile
        reportPools settings now profile written

/-- One pass over the profile of a name. A profile that is not there needs nothing. -/
def reconcileNamed (name : String) : Pass Outcome := do
  match ← Pass.onCluster (.find? Profile name) with
  | none => return .done
  | some profile => reconcileProfile settings now profile

/-- One pass, with the counters and the delays of the profile kept up to date. -/
def Controller.reconcile (name : String) (controller : Controller) :
    Except ControllerError Outcome × Controller :=
  let counted := { controller with metrics := controller.metrics.countPass }
  match (reconcileNamed settings now name).run counted with
  | (.ok outcome, after) => (.ok outcome, after.resetRetry name)
  | (.error fault, after) => (.error fault, { after with metrics := after.metrics.countFailure })

end Steps
end NodeTuning
