import Mathlib.Data.List.Nodup
import NodeTuning.Proofs.Controller.Branches
import NodeTuning.Proofs.Controller.Conditions

/-!
What a pass reports where nothing is made to fail. Main statements: the pools that are looked at are
those with a label of the profile, and the status that is then stored says what they give reason to
report, whether or not it had to be written.
-/
namespace NodeTuning
open Steps Cluster.Action

namespace Cluster

def poolsWith (cluster : Cluster) (label : String × String) : List MachineConfigPool :=
  let query := (LabelSelector.ofLabels (SortedMap.empty.insert label.1 label.2)).query
  let wanted := LabelSelector.ofLabels (LabelSelector.labelsOfQuery query)
  cluster.pools.values.filter fun pool => wanted.selects (Resource.labels pool)

/-- The pools with at least one of the labels, each name once, in the order of the names. -/
def poolsFor (cluster : Cluster) (labels : Labels) : List MachineConfigPool :=
  (SortedMap.ofList ((labels.entries.flatMap cluster.poolsWith).map fun pool =>
    (Resource.displayName pool, pool))).values

/-- Listing pools fails if it is made to fail. There is one listing for each label. -/
def listable (cluster : Cluster) (labels : List (String × String)) : Except ClusterError Unit :=
  match labels with
  | [] => .ok ()
  | _ :: _ => cluster.check .list .machineConfigPool

theorem listable_of_check {cluster : Cluster}
    (allowed : cluster.check .list .machineConfigPool = .ok ()) (labels : List (String × String)) :
    cluster.listable labels = .ok () := by
  cases labels with
  | nil => rfl
  | cons => exact allowed

theorem listable_of_calm {cluster : Cluster} (calm : cluster.failures = .empty)
    (labels : List (String × String)) : cluster.listable labels = .ok () :=
  listable_of_check (check_of_calm calm _ _) labels

def poolsReport (cluster : Cluster) (labels : Labels) : Report :=
  let message := degradedPoolsMessage (cluster.poolsFor labels)
  if message.isEmpty then .available else .degraded "MCPDegraded" message

end Cluster

section Pools
variable {cluster : Cluster} {controller : Controller} {profile : Profile}

theorem run_collectPools {labels : List (String × String)} (listable : cluster.listable labels = .ok ())
    (found : SortedMap MachineConfigPool) : (collectPools labels found).run cluster =
      (.ok ((labels.flatMap cluster.poolsWith).foldl (fun pools pool =>
        pools.insert (Resource.displayName pool) pool) found).values, cluster) := by
  induction labels generalizing found with
  | nil => rfl
  | cons label rest ih =>
    obtain ⟨key, value⟩ := label
    have allowed : cluster.check .list .machineConfigPool = .ok () := listable
    have listed : cluster.listPools
        (LabelSelector.ofLabels (SortedMap.empty.insert key value)).query =
          .ok (cluster.poolsWith (key, value)) := by
      simp [Cluster.listPools, allowed, Cluster.poolsWith, bind, Except.bind, pure, Except.pure]
    unfold collectPools
    dsimp only
    rw [run_bind_ok (by rw [run_ofRead, listed]), ih (Cluster.listable_of_check allowed rest),
      List.flatMap_cons, List.foldl_append]

theorem run_collectPools_entries {labels : Labels}
    (listable : cluster.listable labels.entries = .ok ()) :
    (collectPools labels.entries .empty).run cluster = (.ok (cluster.poolsFor labels), cluster) := by
  rw [run_collectPools listable, Cluster.poolsFor, SortedMap.ofList, List.foldl_map]

theorem run_collectPools_unlistable {labels : List (String × String)} {fault : ClusterError}
    (unlistable : cluster.listable labels = .error fault) (found : SortedMap MachineConfigPool) :
    (collectPools labels found).run cluster = (.error fault, cluster) := by
  cases labels with
  | nil => cases unlistable
  | cons label rest =>
    have blocked : cluster.check .list .machineConfigPool = .error fault := unlistable
    unfold collectPools
    exact run_bind_error (by rw [run_ofRead, Cluster.listPools, blocked]; rfl) _

theorem run_poolReport_eq {labels : Labels}
    (listable : controller.cluster.listable labels.entries = .ok ())
    (labelled : profile.poolLabels = .ok labels) : (poolReport profile).run controller =
      (.ok (let message := degradedPoolsMessage (controller.cluster.poolsFor labels)
        if message.isEmpty then none else some (.degraded "MCPDegraded" message)), controller) := by
  have read := Pass.run_ofSynthesis profile.poolLabels controller
  have collected := Pass.run_onClusterAs .poolStatus (collectPools labels.entries .empty) controller
  unfold poolReport
  rw [labelled] at read ⊢
  rw [run_collectPools_entries listable] at collected
  rw [run_bind_ok read, run_bind_ok collected]
  rfl

theorem run_poolReport {labels : Labels}
    (listable : controller.cluster.listable labels.entries = .ok ())
    (labelled : profile.poolLabels = .ok labels) : ∃ reported,
      (poolReport profile).run controller = (.ok reported, controller) ∧
      reported.getD .available = controller.cluster.poolsReport labels := by
  refine ⟨_, run_poolReport_eq listable labelled, ?_⟩
  rw [Cluster.poolsReport]
  dsimp only
  split <;> rfl

theorem run_poolReport_unlistable {labels : Labels} {fault : ClusterError}
    (unlistable : controller.cluster.listable labels.entries = .error fault)
    (labelled : profile.poolLabels = .ok labels) :
    (poolReport profile).run controller = (.error (.poolStatus fault), controller) := by
  have read := Pass.run_ofSynthesis profile.poolLabels controller
  have collected := Pass.run_onClusterAs .poolStatus (collectPools labels.entries .empty) controller
  unfold poolReport
  rw [labelled] at read ⊢
  rw [run_collectPools_unlistable unlistable] at collected
  rw [run_bind_ok read]
  exact run_bind_error collected _

end Pools

section Status
variable {settings : Settings} {now : Timestamp} {profile : Profile} {controller : Controller}

theorem Report.timeless_conditions (report : Report) (now other : Timestamp) :
    timeless (report.conditions now) = timeless (report.conditions other) := by
  cases report <;> rfl

theorem Report.nodup_conditions (report : Report) (now : Timestamp) :
    (timeless (report.conditions now)).Nodup :=
  nodup_timeless (report.nodup_types now)

/-- What the status of a profile says once a report on its components has been made. -/
structure ProfileStatus.Conveys (status : ProfileStatus) (tunedNamespace profile : String)
    (report : Report) : Prop where
  conditions : ∀ now, (timeless status.conditions).Perm (timeless (report.conditions now))
  tuned : status.tuned = some (tunedNamespace ++ "/" ++ tunedName profile)
  runtimeClass : status.runtimeClass = some (componentName profile)

theorem nextStatus_conveys (settings : Settings) (now : Timestamp) (profile : Profile)
    (report : Report) :
    (nextStatus settings profile (report.conditions now) .current).Conveys settings.tunedNamespace
      profile.name report := by
  refine ⟨fun other => ?_, rfl, rfl⟩
  rw [timeless_nextStatus]
  exact List.Perm.of_eq (report.timeless_conditions now other)

theorem statusUnchanged_iff {old new : ProfileStatus} : statusUnchanged old new = true ↔
    conditionsUnchanged old.conditions new.conditions = true ∧ old.tuned = new.tuned ∧
      old.runtimeClass = new.runtimeClass := by
  simp [statusUnchanged, and_assoc]

/-- Conditions that a report leaves unchanged are those of the report, but for order and times. -/
theorem conditionsUnchanged_report_iff {old : List Condition} {report : Report}
    {references : References} : conditionsUnchanged old
        (nextStatus settings profile (report.conditions now) references).conditions = true ↔
      ∀ other, (timeless old).Perm (timeless (report.conditions other)) := by
  rw [conditionsUnchanged_nextStatus_iff (report.nodup_conditions now)]
  constructor
  · intro perm other
    rwa [report.timeless_conditions now other] at perm
  · exact fun perm => perm now

private theorem run_patchStatus
    (writable : controller.cluster.check .updateStatus .performanceProfile = .ok ())
    (found : controller.cluster.peek Profile profile.name = some profile)
    (own : storeKey profile = profile.name) (status : ProfileStatus) :
    ∃ cluster, (Pass.onCluster (.ofWrite (Cluster.patchStatus · profile.name status))).run
        controller = (.ok (), { controller with cluster }) ∧
      controller.cluster.Within { reports := (· = (.performanceProfile, profile.name)) }
        cluster ∧
      cluster.peek Profile profile.name = some { profile with status := some status } := by
  have ok : controller.cluster.patchStatus profile.name status = .ok ((), _) :=
    Cluster.patchStatus_eq_ok_iff.2 ⟨writable, profile, found, rfl⟩
  have written := Pass.run_onCluster
    (.ofWrite (Cluster.patchStatus · profile.name status)) controller
  rw [run_ofWrite_ok ok] at written
  refine ⟨_, written, Cluster.Within.report status found own rfl, ?_⟩
  change ((controller.cluster.put _).record _ _ _).peek Profile _ = _
  rw [Cluster.peek_record, Cluster.peek_put, if_pos]
  exact own.symm

/-- The status of a profile is what a report comes to already, whatever time it is. -/
def Profile.Expresses (settings : Settings) (profile : Profile) (report : Report)
    (references : References) : Prop :=
  ∀ now, statusUnchanged (profile.status.getD {})
    (nextStatus settings profile (report.conditions now) references) = true

theorem Profile.expresses_of_unchanged {report : Report} {references : References}
    (unchanged : statusUnchanged (profile.status.getD {})
      (nextStatus settings profile (report.conditions now) references) = true) :
    profile.Expresses settings report references := by
  intro other
  rw [statusUnchanged_iff, conditionsUnchanged_report_iff] at unchanged ⊢
  cases references <;> exact unchanged

theorem Profile.expresses_nextStatus (settings : Settings) (now : Timestamp) (profile : Profile)
    (report : Report) (references : References) :
    Profile.Expresses settings { profile with
      status := some (nextStatus settings profile (report.conditions now) references) }
      report references := by
  intro other
  rw [statusUnchanged_iff]
  refine ⟨conditionsUnchanged_of_timeless_eq ?_, ?_⟩
  · rw [Option.getD_some, timeless_nextStatus, timeless_nextStatus]
    exact report.timeless_conditions now other
  · cases references <;> exact ⟨rfl, rfl⟩

theorem Profile.Expresses.conveys {report : Report}
    (expressed : profile.Expresses settings report .current) :
    ∃ status, profile.status = some status ∧
      status.Conveys settings.tunedNamespace profile.name report := by
  obtain ⟨conditions, tuned, runtimeClass⟩ := statusUnchanged_iff.1 (expressed default)
  cases known : profile.status with
  | none =>
    rw [known] at tuned
    cases tuned
  | some status =>
    rw [known] at conditions tuned runtimeClass
    exact ⟨status, rfl, conditionsUnchanged_report_iff.1 conditions, tuned, runtimeClass⟩

theorem ProfileStatus.Conveys.expresses {status : ProfileStatus} {report : Report}
    (conveys : status.Conveys settings.tunedNamespace profile.name report) :
    Profile.Expresses settings { profile with status := some status } report .current := by
  intro now
  rw [statusUnchanged_iff, conditionsUnchanged_report_iff]
  exact ⟨conveys.conditions, conveys.tuned, conveys.runtimeClass⟩

theorem run_writeReport_expressed {report : Report} {references : References}
    (expressed : profile.Expresses settings report references) (controller : Controller) :
    (writeReport settings now profile report references).run controller = (.ok (), controller) :=
  run_writeStatus_unchanged controller (expressed now)

/-- A report that the status expresses already is not written. Any other one is, unless that is made
to fail. -/
theorem run_writeReport_cases (settings : Settings) (now : Timestamp)
    (found : controller.cluster.peek Profile profile.name = some profile)
    (own : storeKey profile = profile.name) (report : Report) (references : References) :
    (profile.Expresses settings report references ∧
      (writeReport settings now profile report references).run controller = (.ok (), controller)) ∨
    (¬ profile.Expresses settings report references ∧
      ∃ fault, controller.cluster.check .updateStatus .performanceProfile = .error fault ∧
        (writeReport settings now profile report references).run controller =
          (.error (.cluster fault), controller)) ∨
    (¬ profile.Expresses settings report references ∧
      controller.cluster.check .updateStatus .performanceProfile = .ok () ∧
      ∃ cluster, (writeReport settings now profile report references).run controller =
          (.ok (), { controller with cluster }) ∧
        controller.cluster.Within { reports := (· = (.performanceProfile, profile.name)) }
          cluster ∧
        cluster.peek Profile profile.name = some { profile with
          status := some (nextStatus settings profile (report.conditions now) references) }) := by
  by_cases unchanged : statusUnchanged (profile.status.getD {})
      (nextStatus settings profile (report.conditions now) references) = true
  · have expressed := Profile.expresses_of_unchanged unchanged
    exact .inl ⟨expressed, run_writeReport_expressed expressed controller⟩
  · have unexpressed : ¬ profile.Expresses settings report references :=
      fun expressed => unchanged (expressed now)
    unfold writeReport writeStatus
    dsimp only
    rw [if_neg unchanged]
    cases writable : controller.cluster.check .updateStatus .performanceProfile with
    | error fault =>
      refine .inr (.inl ⟨unexpressed, fault, rfl, ?_⟩)
      rw [Pass.run_onCluster, run_ofWrite_error (Cluster.patchStatus_blocked writable)]
      rfl
    | ok => exact .inr (.inr ⟨unexpressed, rfl, run_patchStatus writable found own _⟩)

theorem run_writeReport_expresses (settings : Settings) (now : Timestamp)
    (calm : controller.cluster.failures = .empty)
    (found : controller.cluster.peek Profile profile.name = some profile)
    (own : storeKey profile = profile.name) (report : Report) (references : References) :
    ∃ after status,
      (writeReport settings now profile report references).run controller = (.ok (), after) ∧
      controller.cluster.Within { reports := (· = (.performanceProfile, profile.name)) }
        after.cluster ∧
      after.cluster.peek Profile profile.name = some { profile with status } ∧
      Profile.Expresses settings { profile with status } report references := by
  obtain ⟨expressed, run⟩ | ⟨_, fault, blocked, _⟩ | ⟨_, _, cluster, run, within, stored⟩ :=
    run_writeReport_cases settings now found own report references
  · exact ⟨controller, profile.status, run, Cluster.Within.refl _ _, found, expressed⟩
  · exact absurd calm (Cluster.failures_of_check blocked)
  · exact ⟨_, _, run, within, stored, profile.expresses_nextStatus settings now report references⟩

theorem run_writeReport (settings : Settings) (now : Timestamp)
    (calm : controller.cluster.failures = .empty)
    (found : controller.cluster.peek Profile profile.name = some profile)
    (own : storeKey profile = profile.name) (report : Report) :
    ∃ after status,
      (writeReport settings now profile report .current).run controller = (.ok (), after) ∧
      controller.cluster.Within { reports := (· = (.performanceProfile, profile.name)) }
        after.cluster ∧
      after.cluster.peek Profile profile.name = some { profile with status := some status } ∧
      status.Conveys settings.tunedNamespace profile.name report := by
  obtain ⟨after, status, run, within, stored, expressed⟩ :=
    run_writeReport_expresses settings now calm found own report .current
  obtain ⟨known, rfl, conveys⟩ := expressed.conveys
  exact ⟨after, known, run, within, stored, conveys⟩

end Status
end NodeTuning
