import NodeTuning.Proofs.Controller.Confinement
import NodeTuning.Proofs.Controller.StatusHistory

/-!
The status that a pass may write. Main statement: a pass writes no status, or the last thing that it
does to the cluster is to write a report to the profile that it has read, of which at most a
finalizer has changed in between.
-/
namespace NodeTuning
open Steps Cluster.Action

namespace Profile
variable {profile : Profile}

/-- The two profiles differ in nothing but finalizers. -/
def Resembles (profile other : Profile) : Prop :=
  profile.withFinalizers [] = other.withFinalizers []

namespace Resembles
variable {other third : Profile}

theorem symm (alike : profile.Resembles other) : other.Resembles profile := Eq.symm alike

theorem trans (first : profile.Resembles other) (second : other.Resembles third) :
    profile.Resembles third :=
  Eq.trans first second

theorem status_eq (alike : profile.Resembles other) : profile.status = other.status := by
  have bare := congrArg Profile.status alike
  exact bare

/-- An update that gives a profile other finalizers keeps the status that is stored. -/
theorem updated (alike : other.Resembles profile) (finalizers : List String) :
    Resembles { profile.withFinalizers finalizers with status := other.status } profile := by
  rw [alike.status_eq]
  exact rfl

end Resembles

/-- A profile once it has the finalizer of the controller. -/
def adopted (profile : Profile) : Profile :=
  if profile.hasFinalizer then profile else profile.addFinalizer

theorem adopted_of_known (known : profile.hasFinalizer = true) : profile.adopted = profile :=
  if_pos known

theorem adopted_of_unknown (unknown : profile.hasFinalizer = false) :
    profile.adopted = profile.addFinalizer :=
  if_neg (by simp [unknown])

@[simp] theorem name_adopted (profile : Profile) : profile.adopted.name = profile.name := by
  unfold adopted
  split <;> rfl

@[simp] theorem status_adopted (profile : Profile) : profile.adopted.status = profile.status := by
  unfold adopted
  split <;> rfl

theorem conditions_adopted (profile : Profile) :
    profile.adopted.conditions = profile.conditions := by
  rw [Profile.conditions, status_adopted, Profile.conditions]

@[simp] theorem deletionTimestamp_adopted (profile : Profile) :
    profile.adopted.metadata.deletionTimestamp = profile.metadata.deletionTimestamp := by
  unfold adopted
  split <;> rfl

theorem Under.adopted {name : String} (under : profile.Under name) :
    profile.adopted.Under name := by
  unfold Profile.adopted
  split
  · exact under
  · exact ⟨under.named, under.unspaced⟩

end Profile

namespace Cluster

/-- No status is written, and of the stored profiles nothing but finalizers is changed. -/
structure Silent (before after : Cluster) : Prop where
  profiles : ∀ key later, after.peek Profile key = some later →
    ∃ earlier, before.peek Profile key = some earlier ∧ later.Resembles earlier
  calls : ∃ more, after.calls = before.calls ++ more ∧ ∀ call ∈ more, call.verb ≠ .updateStatus

instance : IsPreorder Cluster Silent where
  refl _ := ⟨fun _ later found => ⟨later, found, rfl⟩, [], by simp, by simp⟩
  trans _ _ _ first second := by
    constructor
    · intro key later found
      obtain ⟨middle, there, same⟩ := second.profiles key later found
      obtain ⟨earlier, before, kept⟩ := first.profiles key middle there
      exact ⟨earlier, before, same.trans kept⟩
    · obtain ⟨more, logged, quiet⟩ := first.calls
      obtain ⟨rest, further, silent⟩ := second.calls
      refine ⟨more ++ rest, by rw [further, logged, List.append_assoc], fun call member => ?_⟩
      exact (List.mem_append.1 member).elim (quiet call) (silent call)

/-- What is stored under the name of a profile differs from it in nothing but finalizers. -/
def Carries (cluster : Cluster) (profile : Profile) : Prop :=
  cluster.Profiles fun key stored => key = profile.name → stored.Resembles profile

/-- A live profile that was read under a name still stands there for a report on it. It has the
finalizer by now, and no status has been written since. -/
structure Readies (name : String) (profile : Profile) (before after : Cluster) : Prop where
  found : before.peek Profile name = some profile
  live : profile.metadata.deletionTimestamp = none
  silent : before.Silent after
  stored : after.peek Profile name = some profile.adopted

/-- What a pass over the profile of a name comes to for the statuses. None is written, or a report
on the profile that was read is, and nothing is done to the cluster after that. -/
inductive Reports (settings : Settings) (now : Timestamp) (name : String)
    (before after : Cluster) : Prop where
  | silent : before.Silent after → Reports ..
  | reported (profile : Profile) (middle : Cluster) (report : Report) (references : References) :
      before.Readies name profile middle →
      middle.patchStatus name (nextStatus settings profile.adopted (report.conditions now)
        references) = .ok ((), after) → Reports ..

variable {before after : Cluster} {name : String} {profile updated : Profile}

theorem Silent.status_eq (silent : before.Silent after) {later : Profile}
    (found : after.peek Profile name = some later) :
    ∃ earlier, before.peek Profile name = some earlier ∧ later.status = earlier.status := by
  obtain ⟨earlier, there, same⟩ := silent.profiles name later found
  exact ⟨earlier, there, same.status_eq⟩

theorem silent_of_within (within : before.Within .objects after) : before.Silent after where
  profiles key later found := by
    refine ⟨later, ?_, rfl⟩
    rw [← found]
    exact (within.peek_eq (by simp [Footprint.Touches, Footprint.objects])).symm
  calls := by
    obtain ⟨more, logged, permitted⟩ := within.calls
    refine ⟨more, logged, fun call member verb => ?_⟩
    have allowed := permitted call member
    rw [Footprint.Permits, verb] at allowed
    exact allowed

theorem carries_of_peek (found : before.peek Profile profile.name = some profile) :
    before.Carries profile := by
  rintro _ stored there rfl
  rw [found] at there
  cases there
  rfl

theorem silent_updateProfile (under : profile.Under profile.name)
    (carries : before.Carries profile) {finalizers : List String}
    (ok : before.updateProfile (profile.withFinalizers finalizers) = .ok (updated, after)) :
    before.Silent after := by
  obtain ⟨_, existing, found, rfl, rfl⟩ := updateProfile_eq_ok_iff.1 ok
  change before.peek Profile profile.name = some existing at found
  have alike := carries _ existing found rfl
  have stored : storeKey { profile.withFinalizers finalizers with status := existing.status } =
      profile.name := Profile.Under.storeKey_eq ⟨under.named, under.unspaced⟩
  constructor
  · intro key later there
    rw [peek_record] at there
    split at there
    · rw [peek_remove] at there
      split at there
      · cases there
      · exact ⟨later, there, rfl⟩
    · rw [peek_put, stored] at there
      split at there
      · rename_i own
        cases there
        exact ⟨existing, own ▸ found, (alike.updated finalizers).trans alike.symm⟩
      · exact ⟨later, there, rfl⟩
  · refine ⟨[⟨.update, .performanceProfile, profile.name⟩], ?_, by simp⟩
    split <;> rfl

theorem peek_patchStatus {status : ProfileStatus} (under : profile.Under name)
    (found : before.peek Profile name = some profile)
    (ok : before.patchStatus name status = .ok ((), after)) :
    after.peek Profile name = some { profile with status := some status } := by
  obtain ⟨_, existing, there, rfl⟩ := patchStatus_eq_ok_iff.1 ok
  obtain rfl : profile = existing := Option.some.inj (found.symm.trans there)
  rw [peek_record, peek_put]
  exact if_pos under.storeKey_eq.symm

end Cluster

section Passes
variable {settings : Settings} {now : Timestamp} {profile : Profile} {controller : Controller}

/-- The removal of a profile writes no status: its components go, and then its finalizer. -/
theorem silent_finalize (under : profile.Under profile.name)
    (found : controller.cluster.peek Profile profile.name = some profile) :
    controller.cluster.Silent ((finalize settings profile).run controller).2.cluster := by
  have kept : Keeps (Preserving (Cluster.Carries · profile))
      (ofWrite (Cluster.updateProfile · profile.dropFinalizer)) := by
    apply preservesProfiles_updateProfile
    exact fun existing alike _ => (alike rfl).updated _
  have released : Keeps (Guarded (Cluster.Carries · profile) Cluster.Silent)
      (ofWrite (Cluster.updateProfile · profile.dropFinalizer)) := by
    intro cluster carries
    refine ⟨kept cluster carries, ?_⟩
    obtain ⟨_, after, ok, run⟩ | ⟨_, _, run⟩ :=
      run_ofWrite_cases (Cluster.updateProfile · profile.dropFinalizer) cluster
    · rw [run]
      exact Cluster.silent_updateProfile under carries ok
    · rw [run]
      exact refl cluster
  have keeps : Keeps (Pass.Clusters (Guarded (Cluster.Carries · profile) Cluster.Silent))
      (finalize settings profile) := by
    refine keeps_finalize (Keeps.guarded ?_ ?_) released
    · exact preservesProfiles_of_within within_deleteComponents
    · exact fun cluster => Cluster.silent_of_within (within_deleteComponents cluster)
  exact (keeps controller (Cluster.carries_of_peek found)).2

theorem conditions_nextStatus (settings : Settings) (profile : Profile)
    (conditions : List Condition) (references : References) :
    (nextStatus settings profile conditions references).conditions =
      conditions.map (Condition.carryTransition profile.conditions) := by
  rw [profile.conditions_eq]
  cases references <;> rfl

variable {start : Cluster}

/-- What follows without touching the cluster changes nothing. -/
theorem reports_bind {α β : Type} {name : String} {first : Pass α} {next : α → Pass β}
    (reports : start.Reports settings now name (first.run controller).2.cluster)
    (quiet : ∀ value, Keeps (Pass.Clusters Eq) (next value)) :
    start.Reports settings now name ((first >>= next).run controller).2.cluster := by
  obtain ⟨value, middle, run, whole⟩ | ⟨fault, middle, run, whole⟩ :=
    run_bind_cases first next controller
  · have same : middle.cluster = ((next value).run middle).2.cluster := quiet value middle
    rw [whole, ← same]
    rwa [run] at reports
  · rw [whole]
    rwa [run] at reports

section Ready
variable (readies : start.Readies profile.name profile controller.cluster)
include readies

theorem readies_applyComponents : start.Readies profile.name profile
    ((applyComponents settings profile).run controller).2.cluster := by
  have within : Cluster.Within .components controller.cluster
      ((applyComponents settings profile).run controller).2.cluster :=
    within_applyComponents controller
  have silent := Cluster.silent_of_within (within.mono Footprint.components_below_objects)
  refine ⟨readies.found, readies.live, IsTrans.trans _ _ _ readies.silent silent, ?_⟩
  rw [within.peek_eq (by simp [Footprint.Touches, Footprint.components])]
  exact readies.stored

theorem reports_writeReport {subject : Profile} (ready : profile.adopted = subject)
    (report : Report) (references : References) : start.Reports settings now profile.name
      ((writeReport settings now subject report references).run controller).2.cluster := by
  subst ready
  unfold writeReport writeStatus
  dsimp only
  split
  · exact .silent readies.silent
  rw [Pass.run_onCluster, profile.name_adopted]
  obtain ⟨_, after, ok, run⟩ | ⟨fault, _, run⟩ := run_ofWrite_cases
    (Cluster.patchStatus · profile.name (nextStatus settings profile.adopted
      (report.conditions now) references)) controller.cluster
  · rw [run]
    exact .reported profile controller.cluster report references readies ok
  · rw [run]
    exact .silent readies.silent

variable (known : profile.hasFinalizer = true)
include known

theorem reports_refuse (message : String) : start.Reports settings now profile.name
    ((refuse settings now profile message).run controller).2.cluster :=
  reports_bind (reports_writeReport readies (Profile.adopted_of_known known) _ _) fun _ =>
    Keeps.bind (Pass.keeps_tell _ _ _ _) fun _ => Keeps.pure _

theorem reports_reportPools (written : Bool) : start.Reports settings now profile.name
    ((reportPools settings now profile written).run controller).2.cluster := by
  have ready := Profile.adopted_of_known known
  have reads : Keeps Eq (poolReport profile) := keeps_poolReport
  have same := reads controller
  cases read : (poolReport profile).run controller with
  | mk result middle =>
    rw [read] at same
    obtain rfl : controller = middle := same
    cases result with
    | error fault =>
      rw [run_reportPools_unread written read rfl]
      exact reports_writeReport readies ready _ _
    | ok report =>
      rw [run_reportPools_read written read rfl]
      exact reports_writeReport readies ready _ _

/-- A report on components that can't be applied is the last thing that is done. -/
theorem reports_rollOut : start.Reports settings now profile.name
    ((rollOut settings now profile >>= reportPools settings now profile).run
      controller).2.cluster := by
  have applied : start.Readies profile.name profile
      ((applyComponents settings profile).run controller).2.cluster :=
    readies_applyComponents readies
  cases applies : (applyComponents settings profile).run controller with
  | mk result middle =>
    rw [applies] at applied
    cases result with
    | error fault =>
      rw [run_bind_error (run_rollOut_failed applies rfl)]
      exact reports_writeReport applied (Profile.adopted_of_known known) _ _
    | ok written =>
      have told : ∀ events, start.Readies profile.name profile
          ({ middle with events } : Controller).cluster := fun _ => applied
      rw [run_bind_ok (run_rollOut_applied applies)]
      exact reports_reportPools (told _) known written

end Ready

section Read
variable (under : profile.Under profile.name)
  (found : controller.cluster.peek Profile profile.name = some profile)
include under found

theorem reports_adopt (live : profile.metadata.deletionTimestamp = none)
    (unknown : profile.hasFinalizer = false) :
    controller.cluster.Reports settings now profile.name
      ((adopt settings now profile).run controller).2.cluster := by
  have written := Pass.run_onCluster
    (.ofWrite (Cluster.updateProfile · profile.addFinalizer)) controller
  unfold adopt
  obtain ⟨updated, middle, ok, run⟩ | ⟨fault, _, run⟩ :=
    run_ofWrite_cases (Cluster.updateProfile · profile.addFinalizer) controller.cluster
  · rw [run] at written
    rw [run_bind_ok written]
    have stored := peek_updateProfile_addFinalizer found under.named under.unspaced live ok
    obtain ⟨_, existing, there, rfl, _⟩ := Cluster.updateProfile_eq_ok_iff.1 ok
    obtain rfl : profile = existing := Option.some.inj (found.symm.trans there)
    have adopted : profile.adopted = profile.addFinalizer := Profile.adopted_of_unknown unknown
    have silent : controller.cluster.Silent middle :=
      Cluster.silent_updateProfile under (Cluster.carries_of_peek found) ok
    have readies : controller.cluster.Readies profile.name profile middle :=
      ⟨found, live, silent, adopted ▸ stored⟩
    let reached : Controller := { controller with cluster := middle }
    have there : controller.cluster.Readies profile.name profile reached.cluster := readies
    exact reports_bind (reports_writeReport there adopted _ _) fun _ => Keeps.pure _
  · rw [run] at written
    rw [run_bind_error written]
    exact .silent (refl controller.cluster)

theorem reports_reconcileProfile : controller.cluster.Reports settings now profile.name
    ((reconcileProfile settings now profile).run controller).2.cluster := by
  cases live : profile.metadata.deletionTimestamp with
  | some time =>
    rw [reconcileProfile_deleted now (by simp [live])]
    exact .silent (silent_finalize under found)
  | none =>
    have readies (known : profile.hasFinalizer = true) :
        controller.cluster.Readies profile.name profile controller.cluster :=
      ⟨found, live, refl controller.cluster, found.trans (by rw [Profile.adopted_of_known known])⟩
    obtain ⟨_, branch⟩ | ⟨_, unknown, branch⟩ | ⟨message, known, _, branch⟩ | ⟨_, _, branch⟩ |
      ⟨accepts, _, branch⟩ := reconcileProfile_cases settings profile
    · rw [branch]
      exact .silent (silent_finalize under found)
    · rw [branch]
      exact reports_adopt under found live unknown
    · rw [branch]
      exact reports_refuse (readies known) known message
    · rw [branch, run_hold]
      exact .silent (refl controller.cluster)
    · rw [branch]
      exact reports_rollOut (readies accepts.adopted) accepts.adopted

end Read

/-- A pass writes a status at most once, and then to the profile that it has read. -/
theorem reports_reconcile {name : String} (settings : Settings) (now : Timestamp)
    (under : ∀ profile, controller.cluster.peek Profile name = some profile → profile.Under name) :
    controller.cluster.Reports settings now name
      (controller.reconcile settings now name).2.cluster := by
  rw [(Controller.reconcile_passed settings now name controller).2.1]
  obtain ⟨_, _, run⟩ | ⟨_, _, run⟩ | ⟨profile, read, run⟩ :=
    Controller.passed_cases settings now name controller
  · rw [run]
    exact .silent (refl controller.cluster)
  · rw [run]
    exact .silent (refl controller.cluster)
  · obtain ⟨_, found⟩ := Cluster.read_eq_ok_iff.1 read
    have own := under profile found
    obtain rfl := own.name_eq
    have counted : controller.counted.cluster.peek Profile profile.name = some profile := found
    rw [run]
    exact reports_reconcileProfile own counted

end Passes
end NodeTuning
