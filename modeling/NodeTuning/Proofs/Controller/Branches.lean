import NodeTuning.Controller.Reconcile
import NodeTuning.Proofs.Controller.Applying
import NodeTuning.Proofs.Controller.Conditions

/-!
The branches of a pass. Which one a profile takes is decided by its deletion, its finalizer, the
check and the pause, in this order. Main statements: this case split, and for each branch what it
keeps, given what its writes keep.
-/
namespace NodeTuning
open Steps Cluster.Action

theorem Profile.name_of_metadata {profile : Profile} {name : String}
    (named : profile.metadata.name = some name) : profile.name = name := by
  simp [Profile.name, Resource.displayName, Resource.metadata, named]

theorem Profile.hasFinalizer_addFinalizer (profile : Profile) :
    profile.addFinalizer.hasFinalizer = true := by
  simp [hasFinalizer, addFinalizer, withFinalizers, Resource.finalizers, Resource.metadata]

/-- The profiles whose components the controller looks after, unless they are paused. -/
structure Settings.Accepts (settings : Settings) (profile : Profile) : Prop where
  live : profile.metadata.deletionTimestamp = none
  adopted : profile.hasFinalizer = true
  valid : settings.validate profile = .ok ()

/-- A profile of two reserved and two isolated CPUs, at which theorems are instantiated. -/
def smallProfile : Profile where
  metadata := { name := some "small", uid := some "1", finalizers := some [finalizer] }
  spec := {
    cpu := ⟨"0-1", "2-3", none⟩
    hugepages := none
    nodeSelector := SortedMap.empty.insert "node-role.kubernetes.io/worker" ""
    machineConfigLabel := none
    machineConfigPoolSelector := none
    realTimeKernel := none
    additionalKernelArgs := []
    numa := none
    workloadHints := none }
  status := none

/-- A tuned object that the small profile owns under a name it no longer uses. -/
def formerTuned : Tuned where
  metadata := {
    name := some "old"
    inNamespace := some Config.defaultTunedNamespace
    ownerReferences := some [⟨"", "", "small", "1", none, none⟩] }
  spec := ⟨[], []⟩

section Passes
variable (settings : Settings) (now : Timestamp)

def Controller.counted (controller : Controller) : Controller :=
  { controller with metrics := controller.metrics.countPass }

/-- A pass before the counters and the delays are brought up to date. -/
def Controller.passed (name : String) (controller : Controller) :
    Except ControllerError Outcome × Controller :=
  (reconcileNamed settings now name).run controller.counted

@[simp] theorem Controller.cluster_resetRetry (controller : Controller) (name : String) :
    (controller.resetRetry name).cluster = controller.cluster := by
  unfold Controller.resetRetry
  split <;> rfl

@[simp] theorem Controller.events_resetRetry (controller : Controller) (name : String) :
    (controller.resetRetry name).events = controller.events := by
  unfold Controller.resetRetry
  split <;> rfl

theorem Controller.find?_resetRetry (controller : Controller) (name : String) :
    (controller.resetRetry name).retries.find? name =
      (controller.retries.find? name).map fun retry => ⟨retry.backoff.reset, 0⟩ := by
  unfold Controller.resetRetry
  cases known : controller.retries.find? name with
  | none => exact known
  | some retry => exact SortedMap.find?_insert_self ..

/-- Counters and delays touch neither the result nor the cluster nor the events. -/
theorem Controller.reconcile_passed (name : String) (controller : Controller) :
    (controller.reconcile settings now name).1 = (controller.passed settings now name).1 ∧
    (controller.reconcile settings now name).2.cluster =
      (controller.passed settings now name).2.cluster ∧
    (controller.reconcile settings now name).2.events =
      (controller.passed settings now name).2.events := by
  unfold reconcile passed counted
  dsimp only
  split
  · rename_i outcome after run
    rw [run]
    exact ⟨rfl, after.cluster_resetRetry name, after.events_resetRetry name⟩
  · rename_i fault after run
    rw [run]
    exact ⟨rfl, rfl, rfl⟩

private theorem run_findProfile (name : String) (controller : Controller) :
    (Pass.onCluster (.find? Profile name)).run controller.counted =
      (((controller.cluster.check .get .performanceProfile).map fun _ =>
        controller.cluster.peek Profile name).mapError .cluster, controller.counted) := by
  rw [Pass.run_onCluster, run_find?]
  rfl

theorem Controller.passed_found {name : String} {controller : Controller} {profile : Profile}
    (read : controller.cluster.read Profile name = .ok profile) :
    controller.passed settings now name =
      (reconcileProfile settings now profile).run controller.counted := by
  obtain ⟨allowed, found⟩ := Cluster.read_eq_ok_iff.1 read
  have look := run_findProfile name controller
  simp only [Stored.kind_profile] at allowed
  rw [allowed, found] at look
  exact run_bind_ok look _

/-- A pass that cannot look its profile up ends there. One that can goes on with what it found. -/
theorem Controller.passed_cases (name : String) (controller : Controller) :
    (∃ fault, controller.cluster.check .get .performanceProfile = .error fault ∧
      controller.passed settings now name = (.error (.cluster fault), controller.counted)) ∨
    (controller.cluster.check .get .performanceProfile = .ok () ∧
      controller.cluster.peek Profile name = none ∧
      controller.passed settings now name = (.ok .done, controller.counted)) ∨
    (∃ profile, controller.cluster.read Profile name = .ok profile ∧
      controller.passed settings now name =
        (reconcileProfile settings now profile).run controller.counted) := by
  have look := run_findProfile name controller
  unfold passed reconcileNamed
  cases allowed : controller.cluster.check .get .performanceProfile with
  | error fault =>
    rw [allowed] at look
    exact .inl ⟨fault, rfl, run_bind_error look _⟩
  | ok =>
    rw [allowed] at look
    cases found : controller.cluster.peek Profile name with
    | none =>
      rw [found] at look
      exact .inr (.inl ⟨rfl, rfl, run_bind_ok look _⟩)
    | some profile =>
      have read := Cluster.read_eq_ok_iff.2 ⟨allowed, found⟩
      exact .inr (.inr ⟨profile, read, passed_found settings now read⟩)

end Passes

section Cases
variable {settings : Settings} {profile : Profile} (now : Timestamp)

theorem reconcileProfile_deleted (deleted : profile.metadata.deletionTimestamp.isSome) :
    reconcileProfile settings now profile = finalize settings profile := by
  rw [reconcileProfile, if_pos deleted]

theorem reconcileProfile_unknown (live : profile.metadata.deletionTimestamp = none)
    (unknown : profile.hasFinalizer = false) :
    reconcileProfile settings now profile = adopt settings now profile := by
  simp [reconcileProfile, live, unknown]

theorem reconcileProfile_invalid {message : String}
    (live : profile.metadata.deletionTimestamp = none) (adopted : profile.hasFinalizer = true)
    (invalid : settings.validate profile = .error message) :
    reconcileProfile settings now profile = refuse settings now profile message := by
  simp [reconcileProfile, live, adopted, invalid]

theorem reconcileProfile_paused (accepts : settings.Accepts profile)
    (paused : profile.isPaused = true) :
    reconcileProfile settings now profile = hold settings profile := by
  simp [reconcileProfile, accepts.live, accepts.adopted, accepts.valid, paused]

theorem reconcileProfile_accepted (accepts : settings.Accepts profile)
    (unpaused : profile.isPaused = false) : reconcileProfile settings now profile =
      rollOut settings now profile >>= reportPools settings now profile := by
  simp [reconcileProfile, accepts.live, accepts.adopted, accepts.valid, unpaused]

omit now in
/-- The branch of a pass, by the first of the guards that turns the profile away. -/
theorem reconcileProfile_cases (settings : Settings) (profile : Profile) :
    (profile.metadata.deletionTimestamp.isSome ∧
      ∀ now, reconcileProfile settings now profile = finalize settings profile) ∨
    (profile.metadata.deletionTimestamp = none ∧ profile.hasFinalizer = false ∧
      ∀ now, reconcileProfile settings now profile = adopt settings now profile) ∨
    (∃ message, profile.hasFinalizer = true ∧ settings.validate profile = .error message ∧
      ∀ now, reconcileProfile settings now profile = refuse settings now profile message) ∨
    (settings.Accepts profile ∧ profile.isPaused = true ∧
      ∀ now, reconcileProfile settings now profile = hold settings profile) ∨
    (settings.Accepts profile ∧ profile.isPaused = false ∧
      ∀ now, reconcileProfile settings now profile =
        rollOut settings now profile >>= reportPools settings now profile) := by
  cases live : profile.metadata.deletionTimestamp with
  | some time => exact .inl ⟨rfl, fun now => reconcileProfile_deleted now (by simp [live])⟩
  | none =>
    cases adopted : profile.hasFinalizer with
    | false => exact .inr (.inl ⟨rfl, rfl, fun now => by simp [reconcileProfile, live, adopted]⟩)
    | true =>
      cases valid : settings.validate profile with
      | error message =>
        exact .inr (.inr (.inl ⟨message, rfl, rfl, fun now => by
          simp [reconcileProfile, live, adopted, valid]⟩))
      | ok =>
        have accepts : settings.Accepts profile := ⟨live, adopted, valid⟩
        cases paused : profile.isPaused with
        | true =>
          exact .inr (.inr (.inr (.inl ⟨accepts, rfl, fun now =>
            reconcileProfile_paused now accepts paused⟩)))
        | false =>
          exact .inr (.inr (.inr (.inr ⟨accepts, rfl, fun now =>
            reconcileProfile_accepted now accepts paused⟩)))

end Cases

theorem Profile.conditions_eq (profile : Profile) :
    profile.conditions = (profile.status.getD {}).conditions := by
  unfold conditions
  cases profile.status <;> rfl

theorem run_writeStatus_unchanged {settings : Settings} {profile : Profile}
    {conditions : List Condition} {references : References} (controller : Controller)
    (unchanged : statusUnchanged (profile.status.getD {})
      (nextStatus settings profile conditions references) = true) :
    (writeStatus settings profile conditions references).run controller = (.ok (), controller) := by
  unfold writeStatus
  dsimp only
  rw [if_pos unchanged]
  rfl

/-- The conditions of a held profile are their own copy, so there is nothing to write. -/
theorem run_hold (settings : Settings) (profile : Profile) (controller : Controller) :
    (hold settings profile).run controller = (.ok .done, controller) := by
  unfold hold
  split
  · have same : statusUnchanged (profile.status.getD {})
        (nextStatus settings profile profile.conditions .kept) = true := by
      simp [statusUnchanged, nextStatus, profile.conditions_eq, conditionsUnchanged_carried]
    rw [run_bind_ok (run_writeStatus_unchanged controller same)]
    rfl
  · rfl

section Runs
variable {settings : Settings} {now : Timestamp} {profile : Profile}
variable {controller middle after : Controller} {wrote : Except ControllerError Unit}

theorem run_rollOut_applied {written : Bool}
    (applied : (applyComponents settings profile).run controller = (.ok written, middle)) :
    (rollOut settings now profile).run controller = (.ok written, { middle with
      events := middle.events ++ if written then [⟨profile.name, .normal, "Creation succeeded",
        "Succeeded to create all components"⟩] else [] }) := by
  have attempted := Pass.run_attempt (applyComponents settings profile) controller
  rw [applied] at attempted
  unfold rollOut
  rw [run_bind_ok attempted]
  cases written with
  | false =>
    rw [if_neg Bool.false_ne_true, List.append_nil]
    rfl
  | true => rfl

/-- Components that can't be applied are reported and told of, whether or not the report can be
written. -/
theorem run_rollOut_failed {fault : ControllerError}
    (failed : (applyComponents settings profile).run controller = (.error fault, middle))
    (reported : (writeReport settings now profile (.degraded "ComponentCreationFailed"
      ("failed to create components: " ++ fault.message)) .kept).run middle = (wrote, after)) :
    (rollOut settings now profile).run controller = (.error fault, { after with
      events := after.events ++ [⟨profile.name, .warning, "Creation failed",
        "failed to create components: " ++ fault.message⟩] }) := by
  have attempted := Pass.run_attempt (applyComponents settings profile) controller
  have tried := Pass.run_attempt (writeReport settings now profile (.degraded
    "ComponentCreationFailed" ("failed to create components: " ++ fault.message)) .kept) middle
  rw [failed] at attempted
  rw [reported] at tried
  unfold rollOut
  rw [run_bind_ok attempted]
  dsimp only
  rw [run_bind_ok tried, run_bind_ok (Pass.run_tell _ _ _ _ _)]
  rfl

theorem run_reportPools_read {report : Option Report} (written : Bool)
    (read : (poolReport profile).run controller = (.ok report, middle))
    (reported : (writeReport settings now profile (report.getD .available) .current).run middle =
      (wrote, after)) :
    (reportPools settings now profile written).run controller =
      (if written then .ok .done else wrote.map fun _ => .done, after) := by
  have attempted := Pass.run_attempt (poolReport profile) controller
  have tried := Pass.run_attempt
    (writeReport settings now profile (report.getD .available) .current) middle
  rw [read] at attempted
  rw [reported] at tried
  unfold reportPools
  rw [run_bind_ok attempted]
  dsimp only
  rw [run_bind_ok tried]
  cases wrote <;> cases written <;> rfl

theorem run_reportPools_unread {fault : ControllerError} (written : Bool)
    (unread : (poolReport profile).run controller = (.error fault, middle))
    (reported : (writeReport settings now profile (.degraded "GettingMCPStatusFailed"
      ("failed to get machine config pool status: " ++ fault.message)) .current).run middle =
        (wrote, after)) :
    (reportPools settings now profile written).run controller = (.error fault, after) := by
  have attempted := Pass.run_attempt (poolReport profile) controller
  have tried := Pass.run_attempt (writeReport settings now profile (.degraded
    "GettingMCPStatusFailed" ("failed to get machine config pool status: " ++ fault.message))
    .current) middle
  rw [unread] at attempted
  rw [reported] at tried
  unfold reportPools
  rw [run_bind_ok attempted]
  dsimp only
  rw [run_bind_ok tried]
  rfl

end Runs

section Reads
variable {relation : Cluster → Cluster → Prop} [IsPreorder Cluster relation]

theorem keeps_collectPools (labels : List (String × String))
    (found : SortedMap MachineConfigPool) : Keeps relation (collectPools labels found) := by
  induction labels generalizing found with
  | nil => exact Keeps.pure _
  | cons label rest ih => exact Keeps.bind (keeps_ofRead _) fun listed => ih _

theorem keeps_componentsExist (tunedNamespace name : String) :
    Keeps relation (componentsExist tunedNamespace name) := by
  have looks : ∀ (K : Type) [Stored K] key, Keeps relation (isStored K key) :=
    fun K _ key => Keeps.bind (keeps_ofRead _) fun _ => Keeps.pure _
  unfold componentsExist
  refine Keeps.bind (looks _ _) fun found => ?_
  split
  · exact Keeps.pure _
  refine Keeps.bind (looks _ _) fun found => ?_
  split
  · exact Keeps.pure _
  refine Keeps.bind (looks _ _) fun found => ?_
  split
  · exact Keeps.pure _
  exact looks _ _

end Reads

/-- A profile that was updated is the given one with the status that was there. -/
theorem eq_of_run_updateProfile {profile updated : Profile} {start after : Controller}
    (run : (Pass.onCluster (.ofWrite (Cluster.updateProfile · profile))).run start =
      (.ok updated, after)) : ∃ existing, start.cluster.peek Profile profile.name = some existing ∧
        updated = { profile with status := existing.status } := by
  rw [Pass.run_onCluster] at run
  obtain ⟨_, _, ok, whole⟩ | ⟨_, _, whole⟩ :=
    run_ofWrite_cases (Cluster.updateProfile · profile) start.cluster
  · rw [whole] at run
    cases run
    obtain ⟨_, existing, found, same, _⟩ := Cluster.updateProfile_eq_ok_iff.1 ok
    exact ⟨existing, found, same⟩
  · rw [whole] at run
    cases run

theorem name_of_run_updateProfile {profile updated : Profile} {start after : Controller}
    (run : (Pass.onCluster (.ofWrite (Cluster.updateProfile · profile))).run start =
      (.ok updated, after)) : updated.name = profile.name := by
  obtain ⟨existing, _, rfl⟩ := eq_of_run_updateProfile run
  rfl

/-- The reports on a profile that are written to the status under a key keep a relation. -/
def KeepsReports (relation : Cluster → Cluster → Prop) (settings : Settings) (now : Timestamp)
    (key : String) (profile : Profile) (references : References) : Prop :=
  ∀ report : Report, Keeps relation (ofWrite (Cluster.patchStatus · key
    (nextStatus settings profile (report.conditions now) references)))

section Kept
variable {relation : Cluster → Cluster → Prop} {tracked : Controller → Controller → Prop}
variable {settings : Settings} {now : Timestamp} {profile : Profile}

theorem keeps_poolReport [IsPreorder Controller tracked] :
    Keeps tracked (poolReport profile) := by
  unfold poolReport
  refine Keeps.bind (Pass.keeps_ofSynthesis _) fun labels => ?_
  exact Keeps.bind (Pass.keeps_reading (keeps_collectPools _ _)) fun pools => Keeps.pure _

theorem keeps_hold [IsPreorder Controller tracked] :
    Keeps tracked (hold settings profile) := by
  intro controller
  rw [run_hold]
  exact refl controller

variable [Pass.Tracks tracked relation]

theorem keeps_writeReport {references : References}
    (patches : KeepsReports relation settings now profile.name profile references)
    (report : Report) :
    Keeps tracked (writeReport settings now profile report references) := by
  unfold writeReport writeStatus
  dsimp only
  split
  · exact Keeps.pure ()
  · exact Pass.keeps_onCluster (patches report)

theorem keeps_adopt
    (updates : Keeps relation (ofWrite (Cluster.updateProfile · profile.addFinalizer)))
    (patches : ∀ updated, KeepsReports relation settings now profile.name updated .kept) :
    Keeps tracked (adopt settings now profile) := by
  unfold adopt
  refine Keeps.bind_of (Pass.keeps_onCluster updates) fun start updated _ run => ?_
  have named : updated.name = profile.addFinalizer.name := name_of_run_updateProfile run
  refine Keeps.bind (keeps_writeReport ?_ _) fun _ => Keeps.pure _
  rw [named]
  exact patches updated

theorem keeps_reportPools
    (patches : KeepsReports relation settings now profile.name profile .current)
    (written : Bool) :
    Keeps tracked (reportPools settings now profile written) := by
  unfold reportPools
  refine Keeps.bind (Pass.keeps_attempt keeps_poolReport) fun reported => ?_
  cases reported with
  | error fault =>
    refine Keeps.bind (Pass.keeps_attempt (keeps_writeReport patches _)) fun _ => ?_
    exact Keeps.throw _
  | ok report =>
    refine Keeps.bind (Pass.keeps_attempt (keeps_writeReport patches _)) fun result => ?_
    cases result with
    | ok => exact Keeps.pure _
    | error fault =>
      dsimp only
      split
      · exact Keeps.pure _
      · exact Keeps.throw _

theorem keeps_refuse [Pass.Tells profile.name tracked]
    (patches : KeepsReports relation settings now profile.name profile .kept) (message : String) :
    Keeps tracked (refuse settings now profile message) := by
  unfold refuse
  refine Keeps.bind (keeps_writeReport patches _) fun _ => ?_
  exact Keeps.bind (Pass.keeps_tell _ _ _ _) fun _ => Keeps.pure _

theorem keeps_rollOut [Pass.Tells profile.name tracked]
    (applies : Keeps tracked (applyComponents settings profile))
    (patches : KeepsReports relation settings now profile.name profile .kept) :
    Keeps tracked (rollOut settings now profile) := by
  unfold rollOut
  refine Keeps.bind (Pass.keeps_attempt applies) fun applied => ?_
  cases applied with
  | ok written =>
    dsimp only
    split
    · exact Keeps.bind (Pass.keeps_tell _ _ _ _) fun _ => Keeps.pure _
    · exact Keeps.pure _
  | error fault =>
    refine Keeps.bind (Pass.keeps_attempt (keeps_writeReport patches _)) fun _ => ?_
    exact Keeps.bind (Pass.keeps_tell _ _ _ _) fun _ => Keeps.throw _

variable [Pass.Lets profile.name tracked]

theorem keeps_finalize
    (deletes : Keeps relation (deleteComponents settings.tunedNamespace profile.name))
    (releases : Keeps relation (ofWrite (Cluster.updateProfile · profile.dropFinalizer))) :
    Keeps tracked (finalize settings profile) := by
  unfold finalize
  split
  · exact Keeps.pure _
  refine Keeps.bind (Pass.keeps_attemptOnCluster deletes) fun deleted => ?_
  cases deleted with
  | error fault =>
    exact Keeps.bind (Pass.keeps_tell _ _ _ _) fun _ => Keeps.throw _
  | ok =>
    refine Keeps.bind (Pass.keeps_tell _ _ _ _) fun _ => ?_
    refine Keeps.bind (Pass.keeps_reading (keeps_componentsExist _ _)) fun present => ?_
    split
    · exact Keeps.pure _
    refine Keeps.bind (Pass.keeps_onCluster releases) fun _ => ?_
    exact Keeps.bind (fun controller => Pass.Lets.forgot controller) fun _ => Keeps.pure _

/-- Whatever branch it takes, a pass keeps what its writes keep. -/
theorem keeps_reconcileProfile
    (applies : settings.Accepts profile → profile.isPaused = false →
      Keeps tracked (applyComponents settings profile))
    (deletes : Keeps relation (deleteComponents settings.tunedNamespace profile.name))
    (updates : ∀ finalizers,
      Keeps relation (ofWrite (Cluster.updateProfile · (profile.withFinalizers finalizers))))
    (patches : ∀ subject references,
      KeepsReports relation settings now profile.name subject references) :
    Keeps tracked (reconcileProfile settings now profile) := by
  obtain ⟨_, branch⟩ | ⟨_, _, branch⟩ | ⟨message, _, _, branch⟩ | ⟨_, _, branch⟩ |
    ⟨accepts, unpaused, branch⟩ := reconcileProfile_cases settings profile
  · rw [branch]
    exact keeps_finalize deletes (updates _)
  · rw [branch]
    exact keeps_adopt (updates _) (patches · .kept)
  · rw [branch]
    exact keeps_refuse (patches profile .kept) message
  · rw [branch]
    exact keeps_hold
  · rw [branch]
    exact Keeps.bind (keeps_rollOut (applies accepts unpaused) (patches profile .kept))
      (keeps_reportPools (patches profile .current))

end Kept
end NodeTuning
