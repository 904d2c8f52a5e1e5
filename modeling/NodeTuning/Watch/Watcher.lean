import NodeTuning.Backoff
import NodeTuning.Controller.Command
import NodeTuning.Watch.Agenda
import NodeTuning.Watch.Event
import NodeTuning.Watch.Fingerprint

/-!
The controller under a clock in seconds. It is told what happens to objects, keeps the profiles that
it was told of, and works on those that are due. Passes take no time. It can't refer to an object
without a name: being told of one ends the watching for good. An event that no watch can go on from
makes all watches pause. What they tell meanwhile is held back, and work goes on without it.
-/
namespace NodeTuning

/-- A command, of which the watches tell nothing, or an event of a watch, which leaves the cluster
as it is. -/
inductive Input where
  | command (command : Command)
  | event (event : WatchEvent)

structure TimedInput where
  time : Nat
  input : Input

structure SecondLog where
  time : Nat
  passes : Nat
  errors : Nat
  calls : List Call
  events : List Event

structure Watcher where
  controller : Controller := {}
  /-- The profiles that the watch of profiles starts from. -/
  listedProfiles : List Profile := []
  listedPools : List MachineConfigPool := []
  cache : List Profile := []
  seen : Fingerprints := .empty
  agenda : Agenda := []
  held : List WatchEvent := []
  resumesAt : Nat := 0
  /-- Pauses in a row grow from one second to half a minute. -/
  pauses : Backoff := .create 1 30
  running : Bool := true

namespace Watcher

/-- Remembers a profile in place of the one with the same reference. -/
def remember (cache : List Profile) (profile : Profile) : List Profile :=
  let same other := ProfileRef.ofProfile? other = ProfileRef.ofProfile? profile
  if cache.any same then cache.map fun other => if same other then profile else other
  else cache ++ [profile]

def forget (cache : List Profile) (profile : Profile) : List Profile :=
  cache.filter fun other => ProfileRef.ofProfile? other ≠ ProfileRef.ofProfile? profile

/-- The remembered profile that a reference means. It may also be one without a namespace. -/
def lookup? (cache : List Profile) (profile : ProfileRef) : Option Profile :=
  let at? wanted := cache.find? fun other => ProfileRef.ofProfile? other = some wanted
  (at? profile).or (at? { profile with inNamespace := none })

def requestAll (watcher : Watcher) (profiles : List ProfileRef) (time : Nat) : Watcher :=
  { watcher with agenda := watcher.agenda.requestAll profiles time }

/-- Learns of a pool. Its profiles become due if it has changed. -/
def observePool (watcher : Watcher) (pool : MachineConfigPool) (now : Nat) : Watcher :=
  let (changed, seen) := watcher.seen.observe pool
  let after := { watcher with seen }
  if changed then after.requestAll ((profilesForPool? after.cache pool).getD []) now else after

def observeProfile (watcher : Watcher) (profile : Profile) (now : Nat) : Watcher :=
  { watcher with cache := remember watcher.cache profile }.requestAll
    (ProfileRef.ofProfile? profile).toList now

def learn (watcher : Watcher) (now : Nat) : WatchEvent → Watcher
  | .profile .deleted profile => { watcher with cache := forget watcher.cache profile }
  | .profile _ profile => watcher.observeProfile profile now
  | .pool pool => watcher.observePool pool now
  | .generated metadata => watcher.requestAll (ProfileRef.owners metadata) now
  | .profiles profiles =>
    profiles.foldl (observeProfile · · now) { watcher with cache := [] }
  | .pools pools => pools.foldl (observePool · · now) watcher
  | .unreadable => watcher

/-- What a watch tells anew if it can't go on from an event that it could read. -/
def relisted (watcher : Watcher) : WatchEvent → List WatchEvent
  | .profile _ _ => [.profiles watcher.listedProfiles]
  | .pool _ => [.pools watcher.listedPools]
  | _ => []

def pauseAt (watcher : Watcher) (event : WatchEvent) (now : Nat) : Watcher :=
  let (delay, pauses) := watcher.pauses.next
  { watcher with
    held := watcher.relisted event ++ watcher.held
    resumesAt := now + delay.toNat
    pauses }

/-- Takes an event, as long as the watching has not ended. -/
def observe (watcher : Watcher) (event : WatchEvent) (now : Nat) : Watcher :=
  if !watcher.running then watcher
  else if now < watcher.resumesAt then { watcher with held := watcher.held ++ [event] }
  else if !event.isVersioned then watcher.pauseAt event now
  else if event.metadata.all (·.name.isSome) then
    { watcher.learn now event with pauses := watcher.pauses.reset }
  else { watcher with running := false }

def observeAll (watcher : Watcher) (events : List WatchEvent) (now : Nat) : Watcher :=
  events.foldl (observe · · now) watcher

/-- Takes the events that were held back, as far as the watches do not pause. -/
def resume (watcher : Watcher) (now : Nat) : Watcher :=
  { watcher with held := [] }.observeAll watcher.held now

/-- The start: the cluster and the first lists of the watches hold the same profiles and pools. -/
def start (cluster : Cluster) (profiles : List Profile) (pools : List MachineConfigPool) :
    Watcher :=
  let seeded := pools.foldl Cluster.put (profiles.foldl Cluster.put cluster)
  let before : Watcher :=
    { controller := { cluster := seeded }, listedProfiles := profiles, listedPools := pools }
  before.observeAll [.profiles profiles, .pools pools] 0

section Clock
variable (settings : Settings) (clock : Nat → Timestamp)

def receive (watcher : Watcher) (now : Nat) : Input → Watcher
  | .command command =>
    { watcher with controller :=
      (watcher.controller.perform settings (clock now) command).2 }
  | .event event => watcher.observe event now

/-- One pass over a profile that is due. A pass that fails is tried again after the profile's
delay. -/
def work (watcher : Watcher) (now : Nat) (reference : ProfileRef) (profile : Profile) : Watcher :=
  let name := profile.name
  match watcher.controller.reconcile settings (clock now) name with
  | (.ok .done, controller) => { watcher with controller }
  | (.ok (.requeueAfter seconds), controller) =>
    { watcher with controller }.requestAll [reference] (now + seconds)
  | (.error _, controller) =>
    let ((delay, _), controller) := controller.nextRetry name
    { watcher with controller }.requestAll [reference] (now + delay.toNat)

def workAll (now : Nat) : List ProfileRef → Watcher → Watcher
  | [], watcher => watcher
  | reference :: rest, watcher =>
    match lookup? watcher.cache reference with
    | none => workAll now rest watcher
    | some profile => workAll now rest (watcher.work settings clock now reference profile)

/-- What a controller did since an earlier state of it. Passes that were commanded count as well. -/
def logSince (earlier later : Controller) (now : Nat) : SecondLog where
  time := now
  passes := later.metrics.passes - earlier.metrics.passes
  errors := later.metrics.failedPasses - earlier.metrics.failedPasses
  calls := later.cluster.calls.drop earlier.cluster.calls.length
  events := later.events.drop earlier.events.length

def second (timeline : List TimedInput) (watcher : Watcher) (now : Nat) : SecondLog × Watcher :=
  let inputs := timeline.filter fun entry => entry.time = now
  let told := inputs.foldl (fun watcher entry => watcher.receive settings clock now entry.input)
    (watcher.resume now)
  let (due, agenda) := told.agenda.takeDue now
  let after := if told.running then workAll settings clock now due { told with agenda } else told
  (logSince watcher.controller after.controller now, after)

def run (timeline : List TimedInput) : List Nat → Watcher → List SecondLog × Watcher
  | [], watcher => ([], watcher)
  | now :: rest, watcher =>
    let (log, after) := watcher.second settings clock timeline now
    let (logs, last) := run timeline rest after
    (log :: logs, last)

end Clock
end Watcher

def SecondLog.isEmpty (log : SecondLog) : Bool :=
  log.passes = 0 && log.calls.isEmpty && log.events.isEmpty

end NodeTuning
