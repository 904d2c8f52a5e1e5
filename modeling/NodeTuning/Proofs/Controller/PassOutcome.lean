import NodeTuning.Proofs.Controller.PoolVerdict
import NodeTuning.Proofs.Controller.StatusHistory

/-!
What comes of a pass over an accepted profile, whatever is made to fail. Main statement: what
applying the components comes to, whether pools can be listed and whether the status can be written
settle the result, what users are told, and the status that is left.
-/
namespace NodeTuning
open Steps Cluster.Action

section Apart

def Controller.SameEvents (before after : Controller) : Prop := after.events = before.events

instance : Pass.Tracks Controller.SameEvents (fun _ _ => True) where
  refl _ := rfl
  trans _ _ _ first second := second.trans first
  cluster _ _ _ := rfl
  metrics _ _ := rfl

variable {settings : Settings} {profile : Profile} {controller after : Controller}
variable {result : Except ControllerError Bool}

theorem applyComponents_apart
    (run : (applyComponents settings profile).run controller = (result, after)) :
    after.events = controller.events ∧ controller.cluster.Within .components after.cluster := by
  have keeps : Keeps Controller.SameEvents (applyComponents settings profile) :=
    keeps_applyComponents_aside
  have same := keeps controller
  have within : controller.cluster.Within .components
      ((applyComponents settings profile).run controller).2.cluster :=
    within_applyComponents controller
  rw [run] at same within
  exact ⟨same, within⟩

theorem exists_poolLabels {written : Bool}
    (applied : (applyComponents settings profile).run controller = (.ok written, after)) :
    ∃ labels, profile.poolLabels = .ok labels := by
  cases derived : profile.components settings.tunedNamespace with
  | error fault =>
    rw [run_applyComponents_underivable derived] at applied
    cases applied
  | ok components => exact Profile.poolLabels_of_components derived

theorem run_rollOut_tells {written : Bool} (now : Timestamp)
    (applied : (applyComponents settings profile).run controller = (.ok written, after)) :
    ∃ last, (rollOut settings now profile).run controller = (.ok written, last) ∧
      last.events = controller.events ++ (if written then [⟨profile.name, .normal,
        "Creation succeeded", "Succeeded to create all components"⟩] else []) ∧
      controller.cluster.Within .components last.cluster := by
  obtain ⟨same, within⟩ := applyComponents_apart applied
  exact ⟨_, run_rollOut_applied applied, by rw [← same], within⟩

end Apart

namespace Profile

/-- The status has the conditions of a report, but for order and times, and the given references. -/
structure Shows (profile : Profile) (report : Report)
    (references : Option String × Option String) : Prop where
  conditions : ∀ now, (timeless profile.conditions).Perm (timeless (report.conditions now))
  references : profile.references = references

/-- What is stored later is the profile with a status that shows what was reported. If the status
can't be written, it is what it was. -/
def Informed (profile : Profile) (writable : Except ClusterError Unit) (report : Report)
    (references : Option String × Option String) (later : Option Profile) : Prop :=
  ∃ status, later = some { profile with status } ∧
    match writable with
    | .ok () => Shows { profile with status } report references
    | .error _ => status = profile.status

def reportedReferences (settings : Settings) (profile : Profile) :
    References → Option String × Option String
  | .kept => profile.references
  | .current => generatedReferences settings.tunedNamespace profile.name

/-- What comes of reporting on the pools of a profile after its components were applied. If the pools
can't be listed, then that is reported, and it is the result. Otherwise what they show is reported,
and that this can't be written is the result only if no component was written. -/
def Reported (settings : Settings) (profile : Profile) (cluster : Cluster) (labels : Labels)
    (written : Bool) (result : Except ControllerError Outcome) (later : Option Profile) : Prop :=
  let writable := cluster.check .updateStatus .performanceProfile
  let generated := generatedReferences settings.tunedNamespace profile.name
  match cluster.listable labels.entries with
  | .error fault =>
    result = .error (.poolStatus fault) ∧
      profile.Informed writable (.degraded "GettingMCPStatusFailed"
        ("failed to get machine config pool status: " ++
          (ControllerError.poolStatus fault).message)) generated later
  | .ok () =>
    let report := cluster.poolsReport labels
    (written = true ∨ profile.Shows report generated → result = .ok .done) ∧
      (written = false → ¬ profile.Shows report generated →
        result = (writable.mapError .cluster).map fun _ => .done) ∧
      profile.Informed writable report generated later

theorem Reported.congr {settings : Settings} {profile : Profile} {one two : Cluster}
    {labels : Labels} {written : Bool} {result : Except ControllerError Outcome}
    {later : Option Profile} (same : two.failures = one.failures)
    (pools : two.poolsReport labels = one.poolsReport labels)
    (reported : profile.Reported settings two labels written result later) :
    profile.Reported settings one labels written result later := by
  have listable : two.listable labels.entries = one.listable labels.entries := by
    unfold Cluster.listable
    rw [Cluster.check_congr same]
  unfold Reported at reported ⊢
  rwa [listable, pools, Cluster.check_congr same] at reported

variable {settings : Settings} {profile : Profile} {report : Report} {references : References}

/-- The status has the conditions, but for order and times, and the references. -/
structure States (profile : Profile) (conditions : List Condition)
    (references : Option String × Option String) : Prop where
  conditions : (timeless profile.conditions).Perm (timeless conditions)
  references : profile.references = references

theorem statusUnchanged_iff_states {conditions : List Condition}
    (distinct : (conditions.map Condition.type).Nodup) :
    statusUnchanged (profile.status.getD {}) (nextStatus settings profile conditions references) =
        true ↔
      profile.States conditions (profile.reportedReferences settings references) := by
  rw [statusUnchanged_iff, conditionsUnchanged_nextStatus_iff (nodup_timeless distinct),
    ← conditions_eq]
  constructor
  · rintro ⟨same, tuned, runtimeClass⟩
    refine ⟨same, ?_⟩
    cases references with
    | kept => rfl
    | current => exact Prod.ext tuned runtimeClass
  · intro stated
    refine ⟨stated.conditions, ?_⟩
    cases references with
    | kept => exact ⟨rfl, rfl⟩
    | current => exact Prod.ext_iff.1 stated.references

theorem states_nextStatus (settings : Settings) (profile : Profile) (conditions : List Condition)
    (references : References) :
    States { profile with status := some (nextStatus settings profile conditions references) }
      conditions (profile.reportedReferences settings references) := by
  refine ⟨List.Perm.of_eq (timeless_nextStatus settings profile conditions references), ?_⟩
  cases references <;> rfl

theorem shows_iff_states {shown : Option String × Option String} :
    profile.Shows report shown ↔ ∀ now, profile.States (report.conditions now) shown := by
  constructor
  · exact fun shows now => ⟨shows.conditions now, shows.references⟩
  · exact fun stated => ⟨fun now => (stated now).conditions, (stated default).references⟩

theorem expresses_iff_shows : profile.Expresses settings report references ↔
    profile.Shows report (profile.reportedReferences settings references) := by
  rw [shows_iff_states]
  exact forall_congr' fun now => statusUnchanged_iff_states (report.nodup_types now)

theorem shows_nextStatus (settings : Settings) (now : Timestamp) (profile : Profile)
    (report : Report) (references : References) :
    Shows { profile with
      status := some (nextStatus settings profile (report.conditions now) references) }
      report (profile.reportedReferences settings references) := by
  have shows := expresses_iff_shows.1 (profile.expresses_nextStatus settings now report references)
  cases references <;> exact ⟨shows.conditions, rfl⟩

end Profile

section Stages
variable {profile : Profile} {controller : Controller}
variable (found : controller.cluster.peek Profile profile.name = some profile)
variable (own : storeKey profile = profile.name)
include found own

theorem run_writeReport_informs (settings : Settings) (now : Timestamp) (report : Report)
    (references : References) :
    let writable := controller.cluster.check .updateStatus .performanceProfile
    let reported := profile.reportedReferences settings references
    ∃ wrote cluster, (writeReport settings now profile report references).run controller =
        (wrote, { controller with cluster }) ∧
      profile.Informed writable report reported (cluster.peek Profile profile.name) ∧
      (profile.Shows report reported → wrote = .ok ()) ∧
      (¬ profile.Shows report reported → wrote = writable.mapError .cluster) := by
  intro writable reported
  have known : profile.Expresses settings report references ↔ profile.Shows report reported :=
    Profile.expresses_iff_shows
  obtain ⟨expressed, run⟩ | ⟨unexpressed, fault, blocked, run⟩ |
    ⟨unexpressed, allowed, cluster, run, _, stored⟩ :=
    run_writeReport_cases settings now found own report references
  · have shows := known.1 expressed
    refine ⟨_, controller.cluster, run, ⟨profile.status, found, ?_⟩, fun _ => rfl,
      fun silent => absurd shows silent⟩
    cases writable with
    | ok => exact shows
    | error => rfl
  · refine ⟨_, controller.cluster, run, ⟨profile.status, found, ?_⟩,
      fun shows => absurd (known.2 shows) unexpressed, fun _ => ?_⟩
    · simp only [writable, blocked]
    · simp only [writable, blocked]
      rfl
  · refine ⟨_, cluster, run, ⟨_, stored, ?_⟩, fun _ => rfl, fun _ => ?_⟩
    · simp only [writable, allowed]
      exact profile.shows_nextStatus settings now report references
    · simp only [writable, allowed]
      rfl

theorem run_rollOut_informs (settings : Settings) (now : Timestamp) {fault : ControllerError}
    {middle : Controller}
    (failed : (applyComponents settings profile).run controller = (.error fault, middle)) :
    let message := "failed to create components: " ++ fault.message
    ∃ after, (rollOut settings now profile).run controller = (.error fault, after) ∧
      after.events = controller.events ++ [⟨profile.name, .warning, "Creation failed", message⟩] ∧
      profile.Informed (controller.cluster.check .updateStatus .performanceProfile)
        (.degraded "ComponentCreationFailed" message) profile.references
        (after.cluster.peek Profile profile.name) := by
  intro message
  obtain ⟨events, within⟩ := applyComponents_apart failed
  -- Applying components touches no profile, so the report finds the profile as it was read.
  have kept : middle.cluster.peek Profile profile.name = some profile :=
    (within.peek_eq (by simp [Footprint.Touches, Footprint.components])).trans found
  obtain ⟨wrote, cluster, reported, informed, _⟩ := run_writeReport_informs kept own settings now
    (.degraded "ComponentCreationFailed" message) .kept
  rw [Cluster.check_congr within.failures] at informed
  exact ⟨_, run_rollOut_failed failed reported, by rw [← events], informed⟩

theorem run_reportPools_reported (settings : Settings) (now : Timestamp) {labels : Labels}
    (labelled : profile.poolLabels = .ok labels) (written : Bool) :
    ∃ result cluster, (reportPools settings now profile written).run controller =
        (result, { controller with cluster }) ∧
      profile.Reported settings controller.cluster labels written result
        (cluster.peek Profile profile.name) := by
  unfold Profile.Reported
  cases listable : controller.cluster.listable labels.entries with
  | error fault =>
    obtain ⟨wrote, cluster, reported, informed, _⟩ := run_writeReport_informs found own settings now
      (.degraded "GettingMCPStatusFailed" ("failed to get machine config pool status: " ++
        (ControllerError.poolStatus fault).message)) .current
    have unread := run_poolReport_unlistable listable labelled
    exact ⟨_, cluster, run_reportPools_unread written unread reported, rfl, informed⟩
  | ok =>
    obtain ⟨report, read, same⟩ := run_poolReport listable labelled
    obtain ⟨wrote, cluster, reported, informed, idle, busy⟩ :=
      run_writeReport_informs found own settings now (report.getD .available) .current
    rw [same] at informed idle busy
    refine ⟨_, cluster, run_reportPools_read written read reported, ?_, ?_, informed⟩
    · intro quiet
      cases written with
      | true => rfl
      | false =>
        obtain rfl := idle (quiet.resolve_left Bool.false_ne_true)
        rfl
    · intro unwritten unshown
      rw [unwritten, busy unshown]
      rfl

end Stages

/-- One pass over a live profile that carries the finalizer, is accepted and is not paused, whatever
is made to fail but reading the profile. If its components can't be applied, then that is the result,
users are told of it and it is reported. Otherwise users are told if a component was written, and the
pools are reported. -/
theorem reconcile_outcome (settings : Settings) (now : Timestamp) (name : String)
    (controller : Controller) (profile : Profile)
    (read : controller.cluster.read Profile name = .ok profile) (under : profile.Under name)
    (accepts : settings.Accepts profile) (unpaused : profile.isPaused = false) :
    let pass := controller.reconcile settings now name
    let later := pass.2.cluster.peek Profile name
    match ((applyComponents settings profile).run controller.counted).1 with
    | .error fault =>
      let message := "failed to create components: " ++ fault.message
      pass.1 = .error fault ∧
      pass.2.events = controller.events ++ [⟨name, .warning, "Creation failed", message⟩] ∧
      profile.Informed (controller.cluster.check .updateStatus .performanceProfile)
        (.degraded "ComponentCreationFailed" message) profile.references later
    | .ok written =>
      pass.2.events = controller.events ++ (if written then
        [⟨name, .normal, "Creation succeeded", "Succeeded to create all components"⟩] else []) ∧
      ∃ labels, profile.poolLabels = .ok labels ∧
        profile.Reported settings controller.cluster labels written pass.1 later := by
  intro pass later
  obtain ⟨result, cluster, events⟩ := Controller.reconcile_passed settings now name controller
  obtain rfl := under.name_eq
  have found : controller.counted.cluster.peek Profile profile.name = some profile :=
    (Cluster.read_eq_ok_iff.1 read).2
  rw [Controller.passed_found settings now read, reconcileProfile_accepted now accepts unpaused]
    at result cluster events
  simp only [pass, later]
  rw [result, cluster, events]
  cases run : (applyComponents settings profile).run controller.counted with
  | mk applied middle =>
    cases applied with
    | error fault =>
      obtain ⟨after, rolled, told, informed⟩ :=
        run_rollOut_informs found under.storeKey_eq settings now run
      rw [run_bind_error rolled]
      exact ⟨rfl, told, informed⟩
    | ok written =>
      obtain ⟨labels, labelled⟩ := exists_poolLabels run
      obtain ⟨last, rolled, told, within⟩ := run_rollOut_tells now run
      have kept : last.cluster.peek Profile profile.name = some profile :=
        (within.peek_eq (by simp [Footprint.Touches, Footprint.components])).trans found
      obtain ⟨outcome, reached, pools, reported⟩ :=
        run_reportPools_reported kept under.storeKey_eq settings now labelled written
      rw [run_bind_ok rolled, pools]
      refine ⟨told, labels, labelled, reported.congr within.failures ?_⟩
      exact within.poolsReport_eq (by simp [Footprint.Touches, Footprint.components]) labels

/-- A cluster in which no machine config can be created and no status can be written. -/
def lockedDown : Controller where
  cluster := ((Cluster.put {} smallProfile).failOn (operationName .create .machineConfig)
    "down").failOn (operationName .updateStatus .performanceProfile) "locked"

theorem reconcile_outcome_lockedDown :
    let pass := lockedDown.reconcile {} default "small"
    let fault : ControllerError := .cluster (.failed "down")
    lockedDown.cluster.read Profile "small" = .ok smallProfile ∧ smallProfile.Under "small" ∧
    ({} : Settings).Accepts smallProfile ∧ pass.1 = .error fault ∧
    pass.2.events = [⟨"small", .warning, "Creation failed",
      "failed to create components: " ++ fault.message⟩] ∧
    pass.2.cluster.peek Profile "small" = some smallProfile := by
  intro pass fault
  have read : lockedDown.cluster.read Profile "small" = .ok smallProfile := rfl
  have under : smallProfile.Under "small" := ⟨rfl, rfl⟩
  have accepts : ({} : Settings).Accepts smallProfile := ⟨rfl, rfl, by decide +kernel⟩
  have outcome := reconcile_outcome {} default "small" lockedDown smallProfile read under accepts rfl
  have failed : ((applyComponents {} smallProfile).run lockedDown.counted).1 = .error fault := by
    decide +kernel
  dsimp only at outcome
  rw [failed] at outcome
  obtain ⟨result, events, status, stored, rfl⟩ := outcome
  exact ⟨read, under, accepts, result, events, stored⟩

end NodeTuning
