import NodeTuning.Proofs.Controller.StatusReports

/-!
The times of conditions in the course of a history. Main statement: a condition has had its status
since the write that its transition time names, and its heartbeat time is that of the last write.
-/
namespace NodeTuning
open Steps Cluster.Action

namespace Cluster

/-- How often the status of the profile of a name has been written. -/
def statusWrites (cluster : Cluster) (name : String) : Nat :=
  cluster.calls.count ⟨.updateStatus, .performanceProfile, name⟩

def conditionsOf (cluster : Cluster) (name : String) : List Condition :=
  ((cluster.peek Profile name).map (·.conditions)).getD []

/-- What a pass comes to for the conditions of its profile. No status is written, or one is, once,
with a report of that time that carries over what the conditions before it know. -/
inductive Dated (name : String) (now : Timestamp) (before after : Cluster) : Prop where
  | silent : before.Silent after → Dated ..
  | reported (report : Report) (earlier later : Profile) :
      before.peek Profile name = some earlier → after.peek Profile name = some later →
      later.conditions =
        (report.conditions now).map (Condition.carryTransition earlier.conditions) →
      after.statusWrites name = before.statusWrites name + 1 → Dated ..

variable {before after : Cluster} {name : String} {now : Timestamp}

theorem Silent.statusWrites_eq (silent : before.Silent after) (name : String) :
    after.statusWrites name = before.statusWrites name := by
  obtain ⟨more, logged, quiet⟩ := silent.calls
  have none : more.count ⟨.updateStatus, .performanceProfile, name⟩ = 0 :=
    List.count_eq_zero.2 fun member => quiet _ member rfl
  rw [statusWrites, logged, List.count_append, none, Nat.add_zero, statusWrites]

theorem Silent.conditions_eq (silent : before.Silent after) {later : Profile}
    (found : after.peek Profile name = some later) :
    ∃ earlier, before.peek Profile name = some earlier ∧
      later.conditions = earlier.conditions := by
  obtain ⟨earlier, there, same⟩ := silent.status_eq found
  exact ⟨earlier, there, by rw [Profile.conditions, same, Profile.conditions]⟩

theorem statusWrites_patchStatus {status : ProfileStatus}
    (ok : before.patchStatus name status = .ok ((), after)) :
    after.statusWrites name = before.statusWrites name + 1 := by
  obtain ⟨_, _, _, rfl⟩ := patchStatus_eq_ok_iff.1 ok
  change (before.calls ++ [_]).count _ = _
  rw [List.count_append, List.count_singleton_self]
  rfl

theorem Dated.statusWrites_le (dated : before.Dated name now after) :
    after.statusWrites name ≤ before.statusWrites name + 1 := by
  cases dated with
  | silent silent => exact Nat.le_succ_of_le (Nat.le_of_eq (silent.statusWrites_eq name))
  | reported _ _ _ _ _ _ counted => exact Nat.le_of_eq counted

end Cluster

/-- A pass writes the status of its profile at most once. -/
theorem dated_reconcile {controller : Controller} {name : String} (settings : Settings)
    (now : Timestamp) (profiles : controller.cluster.Profiles Profile.Under) :
    controller.cluster.Dated name now (controller.reconcile settings now name).2.cluster := by
  obtain silent | ⟨profile, middle, report, references, readies, ok⟩ :=
    reports_reconcile settings now fun profile found => profiles name profile found
  · exact .silent silent
  · have under := (profiles name profile readies.found).adopted
    have stored := Cluster.peek_patchStatus under readies.stored ok
    have counted := Cluster.statusWrites_patchStatus ok
    rw [readies.silent.statusWrites_eq name] at counted
    refine .reported report profile _ readies.found stored ?_ counted
    have carried := conditions_nextStatus settings profile.adopted (report.conditions now)
      references
    rw [profile.conditions_adopted] at carried
    exact carried

/-- What can happen to a profile: a pass over it, or whatever others do to the cluster. -/
inductive StatusStep where
  | pass (settings : Settings) (now : Timestamp)
  | others (change : Cluster → Cluster)

/-- Others leave the status of the profile of a name to the controller. -/
def StatusStep.LeavesStatus (name : String) : StatusStep → Prop
  | .pass _ _ => True
  | .others change => ∀ cluster : Cluster, cluster.Profiles Profile.Under →
    (change cluster).Profiles Profile.Under ∧
      ∀ later, (change cluster).peek Profile name = some later →
        ∃ earlier, cluster.peek Profile name = some earlier ∧ later.status = earlier.status

/-- A pass that wrote the status, and the conditions that it left there. -/
structure StatusNote where
  time : Timestamp
  conditions : List Condition

def StatusNote.shows (type : ConditionType) (status : ConditionStatus) (note : StatusNote) : Bool :=
  note.conditions.any fun condition => condition.type = type && condition.status = status

section Notes
variable {type : ConditionType} {status : ConditionStatus} {note : StatusNote}
variable {notes : List StatusNote}

/-- The first of the latest notes without a break that all show a type with a status. The latest
note comes first in the list. -/
def firstShowing (type : ConditionType) (status : ConditionStatus) (notes : List StatusNote) :
    Option StatusNote :=
  (notes.takeWhile (StatusNote.shows type status)).getLast?

def latestConditions (notes : List StatusNote) : List Condition :=
  (notes.head?.map (·.conditions)).getD []

theorem StatusNote.shows_iff : note.shows type status = true ↔
    ∃ condition ∈ note.conditions, condition.type = type ∧ condition.status = status := by
  simp [shows]

theorem firstShowing_cons_of_first {first : StatusNote} (shown : note.shows type status = true)
    (known : firstShowing type status notes = some first) :
    firstShowing type status (note :: notes) = some first := by
  unfold firstShowing at known ⊢
  rw [List.takeWhile_cons_of_pos shown, List.getLast?_cons, known]
  rfl

/-- A condition that is new with its status is first shown by the new note. -/
theorem firstShowing_cons_of_new (shown : note.shows type status = true)
    (fresh : ∀ condition ∈ latestConditions notes,
      ¬ (condition.type = type ∧ condition.status = status)) :
    firstShowing type status (note :: notes) = some note := by
  have none : notes.takeWhile (StatusNote.shows type status) = [] := by
    cases notes with
    | nil => rfl
    | cons latest earlier =>
      refine List.takeWhile_cons_of_neg fun shown => ?_
      obtain ⟨condition, member, same⟩ := StatusNote.shows_iff.1 shown
      exact fresh condition member same
  rw [firstShowing, List.takeWhile_cons_of_pos shown, none]
  rfl

/-- The times of a condition are those of the note that first showed its status and of the latest
note. -/
structure Timed (notes : List StatusNote) (condition : Condition) : Prop where
  transition : ∃ first, firstShowing condition.type condition.status notes = some first ∧
    condition.lastTransitionTime = some first.time
  heartbeat : ∃ last, notes.head? = some last ∧ condition.lastHeartbeatTime = some last.time

/-- A report that carries the times of timed conditions over has timed conditions. -/
theorem timed_cons {report : Report} {now : Timestamp}
    (timed : ∀ condition ∈ latestConditions notes, Timed notes condition) :
    let written := (report.conditions now).map (Condition.carryTransition (latestConditions notes))
    ∀ condition ∈ written, Timed (⟨now, written⟩ :: notes) condition := by
  intro written condition member
  have shown : StatusNote.shows condition.type condition.status ⟨now, written⟩ = true :=
    StatusNote.shows_iff.2 ⟨condition, member, rfl, rfl⟩
  obtain ⟨fresh, among, rfl⟩ := List.mem_map.1 member
  obtain ⟨moved, beat⟩ := Report.times_of_mem among
  refine ⟨?_, ⟨now, written⟩, rfl, by simp [beat]⟩
  obtain ⟨other, old, ⟨type, status⟩, carried⟩ | ⟨new, same⟩ :=
    Condition.carryTransition_cases (latestConditions notes) fresh
  · obtain ⟨first, known, since⟩ := (timed other old).transition
    refine ⟨first, firstShowing_cons_of_first shown ?_, by rw [carried, since, Option.some_or]⟩
    simpa [← type, ← status] using known
  · refine ⟨⟨now, written⟩, firstShowing_cons_of_new shown ?_, by rw [same, moved]⟩
    simpa using new

end Notes

/-- A controller and the notes on the passes that wrote the status of a profile, the latest
first. -/
structure StatusLog where
  controller : Controller
  notes : List StatusNote := []

namespace StatusLog

def take (name : String) (log : StatusLog) : StatusStep → StatusLog
  | .pass settings now =>
    let after := (log.controller.reconcile settings now name).2
    let before := log.controller.cluster.statusWrites name
    { controller := after
      notes := if after.cluster.statusWrites name = before then log.notes
        else ⟨now, after.cluster.conditionsOf name⟩ :: log.notes }
  | .others change =>
    { log with controller := { log.controller with cluster := change log.controller.cluster } }

def takeAll (name : String) (log : StatusLog) (steps : List StatusStep) : StatusLog :=
  steps.foldl (take name) log

/-- The stored conditions are those of the latest note, and their times tell when they came to
be. -/
structure Sound (name : String) (log : StatusLog) : Prop where
  under : log.controller.cluster.Profiles Profile.Under
  stored : ∀ profile, log.controller.cluster.peek Profile name = some profile →
    profile.conditions = latestConditions log.notes
  timed : ∀ condition ∈ latestConditions log.notes, Timed log.notes condition
  types : ∀ note ∈ log.notes, note.conditions.map Condition.type =
    [.available, .upgradeable, .progressing, .degraded]

variable {name : String} {log : StatusLog} {step : StatusStep}

theorem notes_take (name : String) (log : StatusLog) (step : StatusStep) :
    (log.take name step).notes = log.notes ∨
      ∃ note, (log.take name step).notes = note :: log.notes := by
  cases step with
  | others change => exact .inl rfl
  | pass settings now =>
    unfold take
    dsimp only
    split
    · exact .inl rfl
    · exact .inr ⟨_, rfl⟩

theorem Sound.pass (sound : log.Sound name) (settings : Settings) (now : Timestamp) :
    (log.take name (.pass settings now)).Sound name := by
  have under : (log.take name (.pass settings now)).controller.cluster.Profiles Profile.Under :=
    fun key later found => (references_reconcile sound.under found).1
  have dated : log.controller.cluster.Dated name now
      (log.take name (.pass settings now)).controller.cluster :=
    dated_reconcile settings now sound.under
  have noted : (log.take name (.pass settings now)).notes = if
      (log.take name (.pass settings now)).controller.cluster.statusWrites name =
        log.controller.cluster.statusWrites name then log.notes
      else ⟨now, (log.take name (.pass settings now)).controller.cluster.conditionsOf name⟩ ::
        log.notes := rfl
  cases dated with
  | silent silent =>
    rw [if_pos (silent.statusWrites_eq name)] at noted
    refine ⟨under, fun later found => ?_, noted ▸ sound.timed, noted ▸ sound.types⟩
    obtain ⟨earlier, there, same⟩ := silent.conditions_eq found
    rw [same, noted]
    exact sound.stored earlier there
  | reported report earlier later found reached carried counted =>
    rw [if_neg (by omega), Cluster.conditionsOf, reached, Option.map_some, Option.getD_some,
      carried, sound.stored earlier found] at noted
    refine ⟨under, fun other there => ?_, ?_, ?_⟩
    · cases reached.symm.trans there
      rw [noted, carried, sound.stored earlier found]
      rfl
    · rw [noted]
      exact timed_cons sound.timed
    · rw [noted]
      refine List.forall_mem_cons.2 ⟨?_, sound.types⟩
      rw [← report.types_conditions now, List.map_map]
      exact List.map_congr_left fun condition _ => Condition.type_carryTransition _ condition

theorem Sound.take (sound : log.Sound name) (leaves : step.LeavesStatus name) :
    (log.take name step).Sound name := by
  cases step with
  | pass settings now => exact sound.pass settings now
  | others change =>
    obtain ⟨under, statuses⟩ := leaves log.controller.cluster sound.under
    refine ⟨under, fun later found => ?_, sound.timed, sound.types⟩
    obtain ⟨earlier, there, same⟩ := statuses later found
    rw [Profile.conditions, same]
    exact sound.stored earlier there

theorem Sound.takeAll {steps : List StatusStep} (sound : log.Sound name)
    (leaves : ∀ step ∈ steps, step.LeavesStatus name) : (log.takeAll name steps).Sound name := by
  induction steps generalizing log with
  | nil => exact sound
  | cons step later ih =>
    obtain ⟨first, rest⟩ := List.forall_mem_cons.1 leaves
    exact ih (sound.take first) rest

/-- While a type keeps its status, it keeps the time since when it has it. -/
theorem Sound.transition_eq (sound : log.Sound name) (leaves : step.LeavesStatus name)
    {old new : Condition} (before : old ∈ latestConditions log.notes)
    (after : new ∈ latestConditions (log.take name step).notes)
    (type : new.type = old.type) (status : new.status = old.status) :
    new.lastTransitionTime = old.lastTransitionTime := by
  obtain ⟨first, known, since⟩ := (sound.timed old before).transition
  obtain ⟨last, found, still⟩ := ((sound.take leaves).timed new after).transition
  rw [type, status] at found
  have same : some last = some first := by
    rw [← found]
    rcases notes_take name log step with kept | ⟨note, noted⟩
    · rw [kept, known]
    · rw [noted] at after ⊢
      exact firstShowing_cons_of_first
        (StatusNote.shows_iff.2 ⟨new, after, type, status⟩) known
  rw [since, still, Option.some.inj same]

end StatusLog

/-- Start from a profile without a status, and let passes over it and changes by others follow in
any order, where the others leave its status alone. The stored conditions are then those of the last
pass that wrote the status. Their heartbeat time is the time of that pass. The transition time of
each is the time of the first pass since which all that wrote the status left the type with the
status that it has. So the next step moves no transition time of a type that keeps its status, and a
pass writes the status once at most. -/
theorem condition_times_sound (name : String) (start : Controller) (steps : List StatusStep)
    (under : start.cluster.Profiles Profile.Under)
    (silent : ∀ profile, start.cluster.peek Profile name = some profile → profile.status = none)
    (leaves : ∀ step ∈ steps, step.LeavesStatus name) :
    let log := (StatusLog.mk start []).takeAll name steps
    (∀ profile, log.controller.cluster.peek Profile name = some profile →
      profile.conditions = latestConditions log.notes ∧
      ∀ condition ∈ profile.conditions,
        (∃ first, firstShowing condition.type condition.status log.notes = some first ∧
          condition.lastTransitionTime = some first.time) ∧
        ∃ last, log.notes.head? = some last ∧ condition.lastHeartbeatTime = some last.time) ∧
    (∀ note ∈ log.notes, note.conditions.map Condition.type =
      [.available, .upgradeable, .progressing, .degraded]) ∧
    (∀ step : StatusStep, step.LeavesStatus name → ∀ earlier later,
      log.controller.cluster.peek Profile name = some earlier →
      (log.take name step).controller.cluster.peek Profile name = some later →
      ∀ old ∈ earlier.conditions, ∀ new ∈ later.conditions,
        new.type = old.type → new.status = old.status →
          new.lastTransitionTime = old.lastTransitionTime) ∧
    ∀ settings now, (log.take name (.pass settings now)).controller.cluster.statusWrites name ≤
      log.controller.cluster.statusWrites name + 1 := by
  intro log
  have begun : (StatusLog.mk start []).Sound name := by
    refine ⟨under, fun profile found => ?_, fun _ member => absurd member List.not_mem_nil,
      fun _ member => absurd member List.not_mem_nil⟩
    rw [Profile.conditions, silent profile found]
    rfl
  have sound : log.Sound name := begun.takeAll leaves
  refine ⟨fun profile found => ⟨sound.stored profile found, fun condition member => ?_⟩,
    sound.types, fun step leaves earlier later before after old among new member type status => ?_,
    fun settings now => (dated_reconcile settings now sound.under).statusWrites_le⟩
  · have timed := sound.timed condition (sound.stored profile found ▸ member)
    exact ⟨timed.transition, timed.heartbeat⟩
  · exact sound.transition_eq leaves (sound.stored earlier before ▸ among)
      ((sound.take leaves).stored later after ▸ member) type status

def refusing : Settings where
  validate _ := .error "not valid"

/-- A pass that reports all well, one that refuses the profile and can't write so, and one that
can. -/
def refusedPasses : List StatusStep := [
  .pass {} (.ofYear 1971),
  .others (·.failOn (operationName .updateStatus .performanceProfile) "down"),
  .pass refusing (.ofYear 1972), .others Cluster.clearFailures,
  .pass refusing (.ofYear 1973)]

theorem condition_times_sound_refused :
    let start : Controller := { cluster := Cluster.put {} smallProfile }
    let log := (StatusLog.mk start []).takeAll "small" refusedPasses
    start.cluster.Profiles Profile.Under ∧
    (∀ profile, start.cluster.peek Profile "small" = some profile → profile.status = none) ∧
    (∀ step ∈ refusedPasses, step.LeavesStatus "small") ∧
    ∃ profile, log.controller.cluster.peek Profile "small" = some profile ∧
      profile.conditions ≠ [] ∧ ∀ condition ∈ profile.conditions,
        condition.lastTransitionTime =
          some (.ofYear (if condition.type = .progressing then 1971 else 1973)) ∧
        condition.lastHeartbeatTime = some (.ofYear 1973) := by
  intro start log
  have empty : Cluster.Profiles Profile.Under {} := fun key profile found => nomatch found
  have under : start.cluster.Profiles Profile.Under := empty.put ⟨rfl, rfl⟩
  have silent : ∀ profile, start.cluster.peek Profile "small" = some profile →
      profile.status = none := by
    intro profile found
    have same : start.cluster.peek Profile "small" = some smallProfile := rfl
    cases same.symm.trans found
    rfl
  have leaves : ∀ step ∈ refusedPasses, step.LeavesStatus "small" := by
    have same : ∀ change : Cluster → Cluster,
        (∀ cluster key, (change cluster).peek Profile key = cluster.peek Profile key) →
        (StatusStep.others change).LeavesStatus "small" :=
      fun change kept cluster profiles => ⟨profiles.congr (kept cluster),
        fun later found => ⟨later, (kept cluster "small").symm.trans found, rfl⟩⟩
    simp only [refusedPasses, List.forall_mem_cons]
    exact ⟨trivial, same _ fun _ _ => rfl, trivial, same _ fun _ _ => rfl, trivial,
      fun _ member => absurd member List.not_mem_nil⟩
  obtain ⟨sound, _⟩ := condition_times_sound "small" start refusedPasses under silent leaves
  have since : ∀ condition ∈ latestConditions log.notes,
      (firstShowing condition.type condition.status log.notes).map (·.time) =
        some (.ofYear (if condition.type = .progressing then 1971 else 1973)) := by
    decide +kernel
  have last : log.notes.head?.map (·.time) = some (.ofYear 1973) := by decide +kernel
  have shown : latestConditions log.notes ≠ [] := by decide +kernel
  obtain ⟨profile, found⟩ : ∃ profile, log.controller.cluster.peek Profile "small" = some profile :=
    Option.isSome_iff_exists.1 (by decide +kernel)
  obtain ⟨same, timed⟩ := sound profile found
  refine ⟨under, silent, leaves, profile, found, same ▸ shown, fun condition member => ?_⟩
  obtain ⟨⟨first, known, moved⟩, latest, head, beat⟩ := timed condition member
  have stated := since condition (same ▸ member)
  rw [known] at stated
  rw [head] at last
  exact ⟨moved.trans stated, beat.trans last⟩

end NodeTuning
