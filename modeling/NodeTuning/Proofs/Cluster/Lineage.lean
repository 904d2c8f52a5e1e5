import NodeTuning.Proofs.Cluster.Atomicity
import NodeTuning.Proofs.Text.Reading
import Mathlib.Data.List.Nodup

/-!
Runs of operations from an empty cluster. Notes of the operations and their results stand beside the
cluster, and tell by which creation an object came to be and how often it was updated since. Main
statement: every operation is atomic, the log is that of the writes that succeeded, no uid is given
twice, and an object has the uid of its creation and the version that its updates make.
-/
namespace NodeTuning
open Stored

/-- What can happen to a cluster: an operation, or what is done to it beside its operations. -/
inductive ClusterStep where
  | perform (operation : Operation)
  | failOn (operation message : String)
  | clearFailures
  | collectGarbage
  | seedProfile (profile : Profile)
  | seedPool (pool : MachineConfigPool)

/-- An operation and what it came to. -/
structure ClusterNote where
  operation : Operation
  result : Except ClusterError Reply

namespace ClusterNote

/-- What a note says that was logged. -/
def logged? : ClusterNote → Option Call
  | ⟨operation, .ok _⟩ => if operation.call.verb.writes then some operation.call else none
  | ⟨_, .error _⟩ => none

/-- The uid of an object that was created without one. -/
def givenUid? : ClusterNote → Option (Option String)
  | ⟨operation, .ok (.object created)⟩ =>
    if operation.asksUid then some created.metadata.uid else none
  | _ => none

/-- The object that was created at a place. -/
def creation? (place : Place) : ClusterNote → Option AnyObject
  | ⟨.create object, .ok (.object created)⟩ =>
    if object.place = place then some created else none
  | _ => none

/-- Whether the object at a place was updated. -/
def updates (place : Place) : ClusterNote → Bool
  | ⟨.update object, .ok _⟩ => object.place = place
  | _ => false

/-- A uid that is made up is for an object whose creation is logged. -/
theorem isSome_logged? {note : ClusterNote} (given : note.givenUid?.isSome = true) :
    note.logged?.isSome = true := by
  obtain ⟨operation, result⟩ := note
  cases operation with
  | create object =>
    cases result with
    | error fault => cases given
    | ok reply => rfl
  | _ => obtain _ | _ | _ := result <;> cases given

end ClusterNote

/-- The object that was last created at a place, and how often it was updated since. The latest note
comes first in the list. -/
def lineage? (place : Place) : List ClusterNote → Option (AnyObject × Nat)
  | [] => none
  | note :: earlier =>
    match note.creation? place with
    | some created => some (created, 0)
    | none => (lineage? place earlier).map fun (created, updates) =>
      (created, if note.updates place then updates + 1 else updates)

/-- A cluster and the notes on its operations, the latest first. -/
structure ClusterLog where
  cluster : Cluster
  notes : List ClusterNote := []

namespace ClusterLog

def take (log : ClusterLog) : ClusterStep → ClusterLog
  | .perform operation =>
    let done := log.cluster.perform operation
    ⟨done.2, ⟨operation, done.1⟩ :: log.notes⟩
  | .failOn operation message => { log with cluster := log.cluster.failOn operation message }
  | .clearFailures => { log with cluster := log.cluster.clearFailures }
  | .collectGarbage => { log with cluster := log.cluster.collectGarbage }
  | .seedProfile profile => { log with cluster := log.cluster.put profile }
  | .seedPool pool => { log with cluster := log.cluster.put pool }

def takeAll (log : ClusterLog) (steps : List ClusterStep) : ClusterLog := steps.foldl take log

end ClusterLog

/-- An object descends from the last creation at its place by the updates that were made there
since. -/
def Descends (notes : List ClusterNote) (place : Place) (object : AnyObject) : Prop :=
  ∃ created updates, lineage? place notes = some (created, updates) ∧
    created.metadata.resourceVersion = some "1" ∧
    object.metadata.uid = created.metadata.uid ∧
    object.metadata.resourceVersion = some (toString ((updates + 1) % UInt64.size))

section Descent
variable {notes : List ClusterNote} {note : ClusterNote} {place : Place} {object : AnyObject}

theorem Descends.beside (descends : Descends notes place object)
    (uncreated : note.creation? place = none) (unchanged : note.updates place = false) :
    Descends (note :: notes) place object := by
  obtain ⟨created, updates, lineage, first, uid, version⟩ := descends
  refine ⟨created, updates, ?_, first, uid, version⟩
  rw [lineage?, uncreated, lineage]
  simp [unchanged]

theorem descends_created (created : note.creation? place = some object)
    (first : object.metadata.resourceVersion = some "1") : Descends (note :: notes) place object :=
  ⟨object, 0, by rw [lineage?, created], first, rfl, first⟩

theorem nextVersion_toString (n : Nat) :
    Cluster.nextVersion (some (toString (n % UInt64.size))) =
      toString ((n + 1) % UInt64.size) := by
  have below : n % UInt64.size < UInt64.size := Nat.mod_lt _ (by decide)
  have read : Text.unsigned? UInt64.size (toString (n % UInt64.size)).toList =
      some (n % UInt64.size) := by
    rw [Nat.toString_eq_repr, Nat.toList_repr]
    exact Text.unsigned?_eq_some_iff.2 ⟨Text.numeral_decimal _, below⟩
  simp only [Cluster.nextVersion, Option.bind_some, read, Option.getD_some, Nat.mod_add_mod]

theorem Descends.updated (descends : Descends notes place object) {later : AnyObject}
    (uncreated : note.creation? place = none) (changed : note.updates place = true)
    (stamped : later.metadata.uid = object.metadata.uid ∧ later.metadata.resourceVersion =
      some (Cluster.nextVersion object.metadata.resourceVersion)) :
    Descends (note :: notes) place later := by
  obtain ⟨created, updates, lineage, first, uid, version⟩ := descends
  refine ⟨created, updates + 1, ?_, first, stamped.1.trans uid, ?_⟩
  · rw [lineage?, uncreated, lineage]
    simp [changed]
  · rw [stamped.2, version, nextVersion_toString]

end Descent

namespace Cluster

/-- All components descend from their creations. -/
def Descended (notes : List ClusterNote) (cluster : Cluster) : Prop :=
  ∀ kind key object, kind ≠ .performanceProfile → kind ≠ .machineConfigPool →
    cluster.peekAny kind key = some object → Descends notes (kind, key) object

variable {cluster after : Cluster} {operation : Operation} {reply : Reply}
variable {notes : List ClusterNote}

theorem Succeeds.peekAny_of_delete {kind : Kind} {inNamespace : Option String} {name : String}
    (succeeds : cluster.Succeeds (.delete kind inNamespace name) reply after) {other : Kind}
    {key : String} {object : AnyObject} (found : after.peekAny other key = some object) :
    cluster.peekAny other key = some object := by
  cases succeeds with
  | delete K held =>
    rw [peekAny_record, peekAny_discard] at found
    exact (Option.ite_none_left_eq_some.1 found).2

theorem Succeeds.descended (succeeds : cluster.Succeeds operation reply after)
    (descended : cluster.Descended notes) :
    after.Descended (⟨operation, .ok reply⟩ :: notes) := by
  intro kind key object component other found
  have elsewhere (apart : (kind, key) ≠ operation.call.place) :
      Descends notes (kind, key) object := by
    apply descended kind key object component other
    rw [← succeeds.peekAny_elsewhere (fun profile => absurd profile component) apart, found]
  cases operation with
  | get | listTuned | listPools =>
    cases succeeds.eq_of_reads rfl
    exact (descended kind key object component other found).beside rfl rfl
  | create given =>
    obtain ⟨stored, rfl, there, rfl⟩ := succeeds.created
    by_cases here : given.place = (kind, key)
    · obtain ⟨rfl, rfl⟩ := Prod.mk.inj here
      cases there.symm.trans found
      exact descends_created (by simp [ClusterNote.creation?, AnyObject.place]) (by simp)
    · exact (elsewhere (Ne.symm here)).beside (by simp [ClusterNote.creation?, here]) rfl
  | update given =>
    by_cases here : given.place = (kind, key)
    · obtain ⟨rfl, rfl⟩ := Prod.mk.inj here
      obtain ⟨existing, stored, before, rfl, there, rfl⟩ := succeeds.updated component
      cases there.symm.trans found
      exact (descended _ _ existing component other before).updated rfl
        (by simp [ClusterNote.updates, AnyObject.place]) (by simp)
    · refine (elsewhere fun same => ?_).beside rfl (by simp [ClusterNote.updates, here])
      cases given with
      | profile => exact component (congrArg Prod.fst same)
      | _ => exact here same.symm
  | delete =>
    exact (descended kind key object component other (succeeds.peekAny_of_delete found)).beside
      rfl rfl
  | patchStatus =>
    exact (elsewhere fun here => component (congrArg Prod.fst here)).beside rfl rfl

namespace Keyed

theorem of_subset (keyed : cluster.Keyed) (subset : ∀ kind key object,
    after.peekAny kind key = some object → cluster.peekAny kind key = some object) : after.Keyed :=
  fun kind key object found => keyed kind key object (subset kind key object found)

theorem put {K : Type} [Stored K] [Lawful K] (keyed : cluster.Keyed) (object : K) :
    (cluster.put object).Keyed := by
  intro kind key other found
  rw [peekAny_put] at found
  split at found
  · rename_i here
    cases found
    rw [key_toAny, here.2]
  · exact keyed kind key other found

theorem remove {K : Type} [Stored K] [Lawful K] (keyed : cluster.Keyed) (key : String) :
    (cluster.remove K key).Keyed := by
  refine keyed.of_subset fun kind other object found => ?_
  rw [peekAny_remove] at found
  exact (Option.ite_none_left_eq_some.1 found).2

theorem record (keyed : cluster.Keyed) {verb : Verb} {kind : Kind} {key : String} :
    (cluster.record verb kind key).Keyed :=
  keyed.of_subset fun other place object found => by rwa [peekAny_record] at found

end Keyed

theorem Succeeds.keyed (succeeds : cluster.Succeeds operation reply after)
    (keyed : cluster.Keyed) : after.Keyed := by
  cases succeeds with
  | get | listTuned | listPools => exact keyed
  | @create K _ _ object absent =>
    have counted : (cluster.countUid object).Keyed :=
      keyed.of_subset fun kind key other found => by rwa [peekAny_countUid] at found
    exact (counted.put _).record
  | update | patchStatus => exact (keyed.put _).record
  | updateProfile =>
    split
    · exact (keyed.remove _).record
    · exact (keyed.put _).record
  | delete K held =>
    refine Keyed.record (keyed.of_subset fun kind key object found => ?_)
    rw [peekAny_discard] at found
    exact (Option.ite_none_left_eq_some.1 found).2

theorem Succeeds.uidCount (succeeds : cluster.Succeeds operation reply after) :
    after.uidCount = cluster.uidCount + if operation.asksUid then 1 else 0 := by
  cases writes : operation.call.verb.writes with
  | true => exact congrArg Cluster.uidCount (succeeds.bare writes)
  | false =>
    rw [succeeds.eq_of_reads writes]
    cases operation with
    | create => cases writes
    | _ => rfl

/-- The uids that a cluster makes up, in order. -/
def givenUids (count : Nat) : List (Option String) :=
  (List.range count).map fun earlier => some ("mock-uid-" ++ toString (earlier + 1))

theorem givenUids_succ (cluster : Cluster) : givenUids (cluster.uidCount + 1) =
    givenUids cluster.uidCount ++ [some cluster.nextUid] := by
  simp [givenUids, List.range_succ, nextUid]

theorem nodup_givenUids (count : Nat) : (givenUids count).Nodup := by
  refine List.Nodup.map (fun first second same => ?_) List.nodup_range
  have letters := congrArg String.toList (Option.some.inj same)
  simp only [String.toList_append, Nat.toString_eq_repr, Nat.toList_repr] at letters
  exact Nat.succ_inj.1 (Text.decimal_inj.1 (List.append_cancel_left letters))

theorem Succeeds.givenUid (succeeds : cluster.Succeeds operation reply after) :
    givenUids after.uidCount = givenUids cluster.uidCount ++
      (ClusterNote.mk operation (.ok reply)).givenUid?.toList := by
  rw [succeeds.uidCount]
  cases asks : operation.asksUid with
  | false => cases reply <;> simp [ClusterNote.givenUid?, asks]
  | true =>
    cases operation with
    | create object =>
      obtain ⟨stored, rfl, _, rfl⟩ := succeeds.created
      have unset : object.metadata.uid = none := Option.isNone_iff_eq_none.1 asks
      simp [ClusterNote.givenUid?, asks, unset, givenUids_succ]
    | _ => cases asks

theorem Succeeds.logged (succeeds : cluster.Succeeds operation reply after) : after.calls =
    cluster.calls ++ (ClusterNote.mk operation (.ok reply)).logged?.toList := by
  rw [succeeds.calls, Operation.calls_eq, ClusterNote.logged?]
  split <;> rfl

end Cluster

namespace ClusterLog
variable {log : ClusterLog}

private theorem filterMap_singleton {α β : Type} (read : α → Option β) (value : α) :
    [value].filterMap read = (read value).toList := by
  cases found : read value <;> simp [found]

/-- What the notes beside a cluster tell about it. -/
structure Sound (log : ClusterLog) : Prop where
  keyed : log.cluster.Keyed
  logged : log.cluster.calls = log.notes.reverse.filterMap ClusterNote.logged?
  given : Cluster.givenUids log.cluster.uidCount =
    log.notes.reverse.filterMap ClusterNote.givenUid?
  descended : log.cluster.Descended log.notes

theorem sound_empty (deferredDeletion : Bool) : Sound ⟨{ deferredDeletion }, []⟩ where
  keyed kind _ _ found := by cases kind <;> cases found
  logged := rfl
  given := rfl
  descended kind _ _ _ _ found := by cases kind <;> cases found

theorem Sound.perform (sound : log.Sound) (operation : Operation) :
    (log.take (.perform operation)).Sound := by
  cases Cluster.concludes log.cluster operation with
  | @refused fault _ performed =>
    have taken : log.take (.perform operation) =
        ⟨log.cluster, ⟨operation, .error fault⟩ :: log.notes⟩ := by
      simp only [take, performed]
    rw [taken]
    refine ⟨sound.keyed, ?_, ?_, fun kind key object component other found => ?_⟩
    · rw [List.reverse_cons, List.filterMap_append, ← sound.logged]
      exact (List.append_nil _).symm
    · rw [List.reverse_cons, List.filterMap_append, ← sound.given]
      cases operation <;> exact (List.append_nil _).symm
    · apply (sound.descended kind key object component other found).beside
      · cases operation <;> rfl
      · cases operation <;> rfl
  | @succeeded reply after _ succeeds performed =>
    have taken : log.take (.perform operation) =
        ⟨after, ⟨operation, .ok reply⟩ :: log.notes⟩ := by
      simp only [take, performed]
    rw [taken]
    refine ⟨succeeds.keyed sound.keyed, ?_, ?_, succeeds.descended sound.descended⟩
    · rw [List.reverse_cons, List.filterMap_append, ← sound.logged, succeeds.logged,
        filterMap_singleton]
    · rw [List.reverse_cons, List.filterMap_append, ← sound.given, succeeds.givenUid,
        filterMap_singleton]

/-- Whatever stores nothing and leaves the log and the count of uids alone. -/
theorem Sound.silently (sound : log.Sound) {after : Cluster}
    (calls : after.calls = log.cluster.calls) (uidCount : after.uidCount = log.cluster.uidCount)
    (subset : ∀ kind key object,
      after.peekAny kind key = some object → log.cluster.peekAny kind key = some object) :
    Sound { log with cluster := after } where
  keyed := sound.keyed.of_subset subset
  logged := calls.trans sound.logged
  given := by rw [uidCount, sound.given]
  descended kind key object component other found :=
    sound.descended kind key object component other (subset kind key object found)

/-- Whatever stores an object that is no component. -/
theorem Sound.seed {K : Type} [Stored K] [Lawful K] (sound : log.Sound) (object : K)
    (apart : Resource.kind K = .performanceProfile ∨ Resource.kind K = .machineConfigPool) :
    Sound { log with cluster := log.cluster.put object } where
  keyed := sound.keyed.put object
  logged := (Cluster.calls_put ..).trans sound.logged
  given := by rw [Cluster.uidCount_put, sound.given]
  descended kind key other component unpooled found := by
    rw [Cluster.peekAny_put, if_neg] at found
    · exact sound.descended kind key other component unpooled found
    · rintro ⟨rfl, _⟩
      exact apart.elim component unpooled

theorem Sound.take (sound : log.Sound) (step : ClusterStep) : (log.take step).Sound := by
  cases step with
  | perform operation => exact sound.perform operation
  | failOn operation message =>
    refine sound.silently rfl rfl fun kind key object found => ?_
    cases kind <;> exact found
  | clearFailures =>
    refine sound.silently rfl rfl fun kind key object found => ?_
    cases kind <;> exact found
  | collectGarbage =>
    refine sound.silently rfl rfl fun kind key object found => ?_
    rw [Cluster.peekAny_collectGarbage] at found
    exact (Option.ite_none_left_eq_some.1 found).2
  | seedProfile profile => exact sound.seed profile (.inl rfl)
  | seedPool pool => exact sound.seed pool (.inr rfl)

theorem Sound.takeAll (sound : log.Sound) (steps : List ClusterStep) :
    (log.takeAll steps).Sound := by
  induction steps generalizing log with
  | nil => exact sound
  | cons step later ih => exact ih (sound.take step)

/-- No run makes up more uids than it has logged writes, so that a word holds the count of them
while the log fits into memory. -/
theorem uidCount_le_length_calls (deferredDeletion : Bool) (steps : List ClusterStep) :
    let log := (ClusterLog.mk { deferredDeletion } []).takeAll steps
    log.cluster.uidCount ≤ log.cluster.calls.length := by
  intro log
  have sound : log.Sound := (sound_empty deferredDeletion).takeAll steps
  have given := congrArg List.length sound.given
  rw [Cluster.givenUids, List.length_map, List.length_range] at given
  rw [given, sound.logged, List.length_filterMap_eq_countP, List.length_filterMap_eq_countP]
  exact List.countP_mono_left fun _ _ => ClusterNote.isSome_logged?

end ClusterLog

/-- Let every object be under its own key, as it is in every run from an empty cluster, and let a
profile to update have a name and no namespace. An operation that is refused, or that only reads,
then changes nothing at all. It is refused just if it is made to fail, or its object is missing or in
the way. A write that succeeds adds its call to the log and changes at most the object that the call
names, or only marks it if deletion is deferred. What was created or updated can be read back: a new
object has version 1 and its own uid or a made-up one, and an updated one keeps its uid, whatever
uid and version it comes with. Over a run, the log is that of the writes that succeeded, in order. No
made-up uid is given twice. A component has the uid of the last creation at its place, and its
version is 1 and one more for each update since. -/
theorem operations_atomic_and_logged :
    (∀ (cluster : Cluster) (operation : Operation), cluster.Keyed → operation.Plain →
      cluster.Atomic operation (cluster.perform operation).1 (cluster.perform operation).2 ∧
      ∀ reply, (cluster.perform operation).1 = .ok reply → operation.call.verb.writes = true →
        (cluster.perform operation).2.calls.map Call.text = cluster.calls.map Call.text ++
          [operation.call.verb.name ++ " " ++ operation.call.kind.name ++ " " ++
            operation.call.key]) ∧
    ∀ (deferredDeletion : Bool) (steps : List ClusterStep),
      let log := (ClusterLog.mk { deferredDeletion } []).takeAll steps
      log.cluster.Keyed ∧
      log.cluster.calls = log.notes.reverse.filterMap ClusterNote.logged? ∧
      (log.notes.reverse.filterMap ClusterNote.givenUid?).Nodup ∧
      ∀ kind key object, kind ≠ .performanceProfile → kind ≠ .machineConfigPool →
        log.cluster.peekAny kind key = some object →
        ∃ created updates, lineage? (kind, key) log.notes = some (created, updates) ∧
          created.metadata.resourceVersion = some "1" ∧
          object.metadata.uid = created.metadata.uid ∧
          (updates + 1 < UInt64.size →
            object.metadata.resourceVersion = some (toString (updates + 1))) := by
  refine ⟨fun cluster operation keyed plain => ?_, fun deferredDeletion steps => ?_⟩
  · have atomic := Cluster.atomic_perform keyed plain
    exact ⟨atomic, fun reply ok writes => (atomic.written reply ok writes).texts⟩
  · intro log
    have sound : log.Sound := (ClusterLog.sound_empty deferredDeletion).takeAll steps
    refine ⟨sound.keyed, sound.logged, sound.given ▸ Cluster.nodup_givenUids _, ?_⟩
    intro kind key object component other found
    obtain ⟨created, updates, lineage, first, uid, version⟩ :=
      sound.descended kind key object component other found
    refine ⟨created, updates, lineage, first, uid, fun below => ?_⟩
    rw [version, Nat.mod_eq_of_lt below]

/-- A runtime class that comes with a uid and a version. -/
def claimingClass (uid version : Option String) : RuntimeClass where
  metadata := { name := some "low", uid, resourceVersion := version }
  handler := "runc"
  scheduling := none
  overhead := none

/-- An object that is created, updated, kept from deletion, deleted and created again. -/
def recreation : List ClusterStep := [
  .perform (.create (.runtimeClass (claimingClass none none))),
  .perform (.update (.runtimeClass (claimingClass (some "mine") (some "41")))),
  .failOn "delete RuntimeClass" "locked", .perform (.delete .runtimeClass none "low"),
  .clearFailures, .perform (.delete .runtimeClass none "low"),
  .perform (.create (.runtimeClass (claimingClass none (some "7")))),
  .perform (.update (.runtimeClass (claimingClass (some "mine") none)))]

theorem operations_atomic_and_logged_recreated :
    let log := (ClusterLog.mk {} []).takeAll recreation
    let operation := Operation.update (.runtimeClass (claimingClass (some "mine") (some "41")))
    let done := log.cluster.perform operation
    log.cluster.Keyed ∧ operation.Plain ∧
    done.2.calls.map Call.text = ["create RuntimeClass low", "update RuntimeClass low",
      "delete RuntimeClass low", "create RuntimeClass low", "update RuntimeClass low",
      "update RuntimeClass low"] ∧
    ∃ stored, done.1 = .ok (.object stored) ∧
      done.2.perform (.get .runtimeClass none "low") = (.ok (.object stored), done.2) ∧
      stored.metadata.uid = some "mock-uid-2" ∧ stored.metadata.resourceVersion = some "3" := by
  intro log operation done
  obtain ⟨single, run⟩ := operations_atomic_and_logged
  obtain ⟨keyed, _⟩ := run false recreation
  obtain ⟨atomic, texts⟩ := single log.cluster operation keyed trivial
  obtain ⟨reply, ok⟩ : ∃ reply, done.1 = .ok reply := except_isOk_iff.1 (by decide +kernel)
  obtain ⟨existing, stored, before, rfl, readsBack, stamped⟩ :=
    atomic.updated _ reply rfl (by decide) ok
  have known : (log.cluster.peekAny .runtimeClass "low").map (fun object =>
      (object.metadata.uid, object.metadata.resourceVersion)) =
        some (some "mock-uid-2", some "2") := by
    decide +kernel
  have earlier : log.cluster.calls.map Call.text = ["create RuntimeClass low",
      "update RuntimeClass low", "delete RuntimeClass low", "create RuntimeClass low",
      "update RuntimeClass low"] := by
    decide +kernel
  have same : existing.metadata.uid = some "mock-uid-2" ∧
      existing.metadata.resourceVersion = some "2" := by
    have before : log.cluster.peekAny .runtimeClass "low" = some existing := before
    rw [before] at known
    exact Prod.mk.inj (Option.some.inj known)
  have allowed : done.2.check .get .runtimeClass = .ok () := by rfl
  refine ⟨keyed, trivial, ?_, stored, ok, ?_, ?_, ?_⟩
  · rw [texts _ ok rfl, earlier]
    rfl
  · subst stamped
    exact readsBack.found none "low" rfl allowed
  · rw [stamped, AnyObject.uid_stamped, same.1]
  · rw [stamped, AnyObject.version_stamped, same.2]
    decide +kernel

end NodeTuning
