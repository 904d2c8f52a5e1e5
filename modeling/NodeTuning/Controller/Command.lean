import NodeTuning.Cluster.Operation
import NodeTuning.Controller.Reconcile

/-!
What can be done with a controller and its cluster, as values: passes, single parts of a pass,
operations on the cluster, and changes from outside. A history is a list of commands.
-/
namespace NodeTuning

inductive Subject where
  | given (profile : Profile)
  | stored (name : String)

inductive Command where
  | seedProfile (profile : Profile)
  | seedPool (pool : MachineConfigPool)
  | seedTuned (tuned : Tuned)
  | failOn (operation message : String)
  | clearFailures
  | collectGarbage
  | reconcile (name : String)
  | nextRetry (name : String)
  | resetRetry (name : String)
  | reasons
  | metrics
  | peek (kind : Kind) (inNamespace : Option String) (name : String)
  | operation (operation : Operation)
  | applyComponents (subject : Subject)
  | deleteComponents (subject : Subject)
  | componentsExist (subject : Subject)
  | poolConditions (subject : Subject)
  | writeStatus (subject : Subject) (conditions : List Condition) (references : References)

inductive Answer where
  | nothing
  /-- The profile is the stored one after the pass. -/
  | passed (result : Except ControllerError Outcome) (profile : Option Profile)
  | retry (seconds : UInt64) (errors : UInt32)
  | reasons (reasons : List String)
  | metrics (metrics : Metrics)
  | flag (value : Bool)
  | object (object : Option AnyObject)
  | objects (objects : List AnyObject)
  | conditions (conditions : Option (List Condition))
  | failed (fault : ControllerError)
  | clusterFailed (fault : ClusterError)
  | noSubject

namespace Answer

def ofPass {α : Type} (answer : α → Answer) : Except ControllerError α → Answer
  | .ok value => answer value
  | .error fault => .failed fault

def ofCluster {α : Type} (answer : α → Answer) : Except ClusterError α → Answer
  | .ok value => answer value
  | .error fault => .clusterFailed fault

def ofReply : Reply → Answer
  | .nothing => .nothing
  | .object value => .object (some value)
  | .objects values => .objects values

end Answer

namespace Controller

private def onCluster (controller : Controller) (change : Cluster → Cluster) :
    Answer × Controller :=
  (.nothing, { controller with cluster := change controller.cluster })

private def runPass {α : Type} (controller : Controller) (answer : α → Answer) (pass : Pass α) :
    Answer × Controller :=
  let (result, after) := pass.run controller
  (.ofPass answer result, after)

private def runAction {α : Type} (controller : Controller) (answer : α → Answer)
    (action : Cluster.Action α) : Answer × Controller :=
  let (result, cluster) := action.run controller.cluster
  (.ofCluster answer result, { controller with cluster })

private def withSubject (controller : Controller) (subject : Subject)
    (work : Profile → Answer × Controller) : Answer × Controller :=
  match subject with
  | .given profile => work profile
  | .stored name =>
    match controller.cluster.peek Profile name with
    | some profile => work profile
    | none => (.noSubject, controller)

def perform (settings : Settings) (now : Timestamp) (controller : Controller) :
    Command → Answer × Controller
  | .seedProfile profile => controller.onCluster (·.put profile)
  | .seedPool pool => controller.onCluster (·.put pool)
  | .seedTuned tuned => controller.onCluster (·.put tuned)
  | .failOn operation message => controller.onCluster (·.failOn operation message)
  | .clearFailures => controller.onCluster (·.clearFailures)
  | .collectGarbage => controller.onCluster (·.collectGarbage)
  | .reconcile name =>
    let (result, after) := controller.reconcile settings now name
    (.passed result (after.cluster.peek Profile name), after)
  | .nextRetry name =>
    let ((seconds, errors), after) := controller.nextRetry name
    (.retry seconds errors, after)
  | .resetRetry name => (.nothing, controller.resetRetry name)
  | .reasons => (.reasons (controller.events.map (·.reason)), controller)
  | .metrics => (.metrics controller.metrics, controller)
  | .peek kind inNamespace name =>
    (.object (controller.cluster.peekAny kind (keyIn inNamespace name)), controller)
  | .operation operation =>
    let (result, cluster) := controller.cluster.perform operation
    (.ofCluster .ofReply result, { controller with cluster })
  | .applyComponents subject => controller.withSubject subject fun profile =>
    controller.runPass .flag (NodeTuning.applyComponents settings profile)
  | .deleteComponents subject => controller.withSubject subject fun profile =>
    controller.runAction (fun _ => .nothing)
      (NodeTuning.deleteComponents settings.tunedNamespace profile.name)
  | .componentsExist subject => controller.withSubject subject fun profile =>
    controller.runAction .flag (NodeTuning.componentsExist settings.tunedNamespace profile.name)
  | .poolConditions subject => controller.withSubject subject fun profile =>
    controller.runPass (fun report => .conditions (report.map (·.conditions now)))
      (poolReport profile)
  | .writeStatus subject conditions references => controller.withSubject subject fun profile =>
    controller.runPass (fun _ => .nothing)
      (NodeTuning.writeStatus settings profile conditions references)

end Controller
end NodeTuning
