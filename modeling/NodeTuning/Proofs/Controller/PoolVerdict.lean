import NodeTuning.Proofs.Component.Derivability
import NodeTuning.Proofs.Controller.PoolSelection
import NodeTuning.Proofs.Controller.Quiescence

/-!
What a pass makes of the pools of its profile. Main statement: the profile is reported degraded if a
pool with one of its labels has a fault and gives a reason or a message for it, and available
otherwise. So a fault that no pool explains is not reported.
-/
namespace NodeTuning

/-- The condition holds. -/
def PoolCondition.Holds (condition : PoolCondition) : Prop := condition.status = "True"

/-- The condition has a reason or a message that is not empty. -/
def PoolCondition.Explained (condition : PoolCondition) : Prop :=
  ∃ text, text ≠ "" ∧ (condition.reason = some text ∨ condition.message = some text)

namespace MachineConfigPool

/-- A node of the pool is degraded or its configuration could not be rendered. -/
def IsDegraded (pool : MachineConfigPool) : Prop :=
  ∃ type ∈ faultConditions, ∃ condition, pool.condition? type = some condition ∧ condition.Holds

/-- The pool is degraded and says why. -/
def ExplainsFault (pool : MachineConfigPool) : Prop :=
  ∃ type ∈ faultConditions, ∃ condition, pool.condition? type = some condition ∧
    condition.Holds ∧ condition.Explained

end MachineConfigPool

section Text

theorem join_eq_empty_iff {texts : List String} :
    String.join texts = "" ↔ ∀ text ∈ texts, text = "" := by
  induction texts with
  | nil => simp
  | cons text rest ih =>
    rw [String.join_cons, String.append_eq_empty_iff, ih, List.forall_mem_cons]

theorem mem_reportLine_iff {pool what line : String} {text : Option String} :
    line ∈ reportLine pool what text ↔ ∃ given, text = some given ∧ given ≠ "" ∧
      line = "Machine config pool " ++ pool ++ " Degraded " ++ what ++ ": " ++ given ++ ".\n" := by
  cases text with
  | none => simp [reportLine]
  | some given =>
    by_cases empty : given = "" <;> simp [reportLine, empty]

theorem ne_empty_of_mem_reportLine {pool what line : String} {text : Option String}
    (member : line ∈ reportLine pool what text) : line ≠ "" := by
  obtain ⟨_, _, _, rfl⟩ := mem_reportLine_iff.1 member
  simp

variable {pool : MachineConfigPool} {line : String}

theorem MachineConfigPool.mem_report_iff : line ∈ pool.report ↔
    ∃ type ∈ faultConditions, ∃ condition, pool.condition? type = some condition ∧
      condition.Holds ∧ (line ∈ reportLine (Resource.displayName pool) "Reason" condition.reason ∨
        line ∈ reportLine (Resource.displayName pool) "Message" condition.message) := by
  rw [report, List.mem_flatMap]
  refine exists_congr fun type => and_congr_right fun _ => ?_
  unfold faultLines
  cases pool.condition? type with
  | none => simp
  | some condition =>
    by_cases holds : condition.status = "True" <;> simp [PoolCondition.Holds, holds]

theorem MachineConfigPool.ne_empty_of_mem_report (member : line ∈ pool.report) : line ≠ "" := by
  obtain ⟨_, _, _, _, _, reason | message⟩ := mem_report_iff.1 member
  · exact ne_empty_of_mem_reportLine reason
  · exact ne_empty_of_mem_reportLine message

theorem MachineConfigPool.exists_mem_report_iff :
    (∃ line, line ∈ pool.report) ↔ pool.ExplainsFault := by
  constructor
  · rintro ⟨line, member⟩
    obtain ⟨type, fault, condition, found, holds, reason | message⟩ := mem_report_iff.1 member
    · obtain ⟨text, given, filled, _⟩ := mem_reportLine_iff.1 reason
      exact ⟨type, fault, condition, found, holds, text, filled, .inl given⟩
    · obtain ⟨text, given, filled, _⟩ := mem_reportLine_iff.1 message
      exact ⟨type, fault, condition, found, holds, text, filled, .inr given⟩
  · rintro ⟨type, fault, condition, found, holds, text, filled, given | given⟩
    · exact ⟨_, mem_report_iff.2 ⟨type, fault, condition, found, holds,
        .inl (mem_reportLine_iff.2 ⟨text, given, filled, rfl⟩)⟩⟩
    · exact ⟨_, mem_report_iff.2 ⟨type, fault, condition, found, holds,
        .inr (mem_reportLine_iff.2 ⟨text, given, filled, rfl⟩)⟩⟩

theorem degradedPoolsMessage_eq_empty_iff {pools : List MachineConfigPool} :
    degradedPoolsMessage pools = "" ↔ ∀ pool ∈ pools, ¬ pool.ExplainsFault := by
  rw [degradedPoolsMessage, join_eq_empty_iff]
  constructor
  · rintro empty pool member explained
    obtain ⟨line, among⟩ := MachineConfigPool.exists_mem_report_iff.2 explained
    exact MachineConfigPool.ne_empty_of_mem_report among
      (empty line (List.mem_flatMap.2 ⟨pool, member, among⟩))
  · intro unexplained line among
    obtain ⟨pool, member, listed⟩ := List.mem_flatMap.1 among
    exact absurd (MachineConfigPool.exists_mem_report_iff.1 ⟨line, listed⟩)
      (unexplained pool member)

end Text

/-- There is a condition of the type, and each such condition has the value. -/
def ProfileStatus.Reads (status : ProfileStatus) (type : ConditionType) (value : ConditionStatus) :
    Prop :=
  (∃ condition ∈ status.conditions, condition.type = type) ∧
    ∀ condition ∈ status.conditions, condition.type = type → condition.status = value

theorem ProfileStatus.Reads.unique {status : ProfileStatus} {type : ConditionType}
    {value other : ConditionStatus} (one : status.Reads type value)
    (two : status.Reads type other) : value = other := by
  obtain ⟨⟨condition, member, known⟩, each⟩ := one
  exact (each condition member known).symm.trans (two.2 condition member known)

/-- What a report says under each type. -/
def Report.value : Report → ConditionType → ConditionStatus
  | .available, .available | .available, .upgradeable | .progressing _ _, .progressing
  | .degraded _ _, .degraded => .holds
  | _, _ => .fails

theorem Report.exists_mem_conditions (report : Report) (now : Timestamp) (type : ConditionType) :
    ∃ condition ∈ timeless (report.conditions now), condition.type = type := by
  cases report <;> cases type <;>
    simp [Report.conditions, Report.plain, Report.explained, timeless, Condition.timeless]

theorem Report.status_eq_value (report : Report) (now : Timestamp) :
    ∀ condition ∈ timeless (report.conditions now),
      condition.status = report.value condition.type := by
  cases report <;>
    simp [Report.conditions, Report.plain, Report.explained, timeless, Condition.timeless,
      Report.value]

theorem ProfileStatus.Conveys.reads {status : ProfileStatus} {tunedNamespace name : String}
    {report : Report} (conveys : status.Conveys tunedNamespace name report) (type : ConditionType) :
    status.Reads type (report.value type) := by
  have among : ∀ condition, condition ∈ timeless status.conditions ↔
      condition ∈ timeless (report.conditions default) :=
    fun _ => (conveys.conditions default).mem_iff
  constructor
  · obtain ⟨condition, member, rfl⟩ := report.exists_mem_conditions default type
    obtain ⟨stored, known, rfl⟩ := List.mem_map.1 ((among condition).2 member)
    exact ⟨stored, known, rfl⟩
  · rintro condition member rfl
    have reported := (among condition.timeless).1 (List.mem_map_of_mem member)
    exact report.status_eq_value default condition.timeless reported

namespace Cluster
variable {cluster : Cluster} {labels : Labels}

/-- One of the pools with some label explains a fault. -/
def ShowsFault (cluster : Cluster) (labels : Labels) : Prop :=
  ∃ pool, cluster.HoldsPool pool ∧ pool.Carries labels ∧ pool.ExplainsFault

section Verdict
variable (named : cluster.PoolsNamed) (queryable : ∀ label ∈ labels.entries, Queryable label)
include named queryable

theorem poolsMessage_eq_empty_iff :
    degradedPoolsMessage (cluster.poolsFor labels) = "" ↔ ¬ cluster.ShowsFault labels := by
  simp only [degradedPoolsMessage_eq_empty_iff, mem_poolsFor named queryable, ShowsFault,
    not_exists, not_and, and_imp]

theorem poolsReport_of_showsFault (shown : cluster.ShowsFault labels) :
    ∃ message, cluster.poolsReport labels = .degraded "MCPDegraded" message := by
  have filled : degradedPoolsMessage (cluster.poolsFor labels) ≠ "" :=
    fun empty => (poolsMessage_eq_empty_iff named queryable).1 empty shown
  refine ⟨_, if_neg ?_⟩
  rwa [String.isEmpty_iff]

theorem poolsReport_of_not_showsFault (unshown : ¬ cluster.ShowsFault labels) :
    cluster.poolsReport labels = .available :=
  if_pos (String.isEmpty_iff.2 ((poolsMessage_eq_empty_iff named queryable).2 unshown))

end Verdict

/-- The status after a pass over an accepted profile says what its pools came to before. -/
theorem Peaceful.conveys_pools {controller : Controller} {settings : Settings} {name : String}
    {profile : Profile} {components : Components}
    (peaceful : controller.cluster.Peaceful name profile) (adopted : profile.hasFinalizer = true)
    (steady : settings.Steady profile) (valid : settings.validate profile = .ok ())
    (unpaused : profile.isPaused = false)
    (derived : profile.components settings.tunedNamespace = .ok components)
    (labelled : profile.poolLabels = .ok labels) (now : Timestamp) :
    let after := (controller.reconcile settings now name).2.cluster
    ∃ status, after.peek Profile name = some { profile with status := some status } ∧
      status.Conveys settings.tunedNamespace profile.name
        (controller.cluster.poolsReport labels) := by
  intro after
  obtain ⟨known, later, rests⟩ := peaceful.rests adopted steady now
  have verdict : settings.validate { profile with status := known } = .ok () :=
    (steady profile.metadata.finalizers known).trans valid
  cases rests with
  | refused message invalid =>
    rw [verdict] at invalid
    cases invalid
  | held _ paused =>
    have paused : profile.isPaused = true := paused
    rw [unpaused] at paused
    cases paused
  | underivable fault _ _ failed =>
    have failed : profile.components settings.tunedNamespace = .error fault := failed
    rw [derived] at failed
    cases failed
  | rolledOut _ others _ _ _ selected _ expressed =>
    have selected : profile.poolLabels = .ok others := selected
    rw [labelled] at selected
    cases selected
    have untouched : ∀ key, ¬ (territory settings.tunedNamespace profile True
        controller.cluster).Touches (.machineConfigPool, key) := by
      rintro key ((member | ⟨_, own⟩) | own | member | ⟨outdated, _⟩)
      · exact (kind_of_mem_componentPlaces member).2 rfl
      · cases own
      · cases own
      · exact (kind_of_mem_componentPlaces member).2 rfl
      · cases outdated.1
    obtain ⟨confined, _⟩ :=
      confined_reconcile settings now peaceful.orderly peaceful.found peaceful.unspaced
    have report := (confined peaceful.orderly).2.poolsReport_eq untouched labels
    obtain ⟨status, rfl, conveys⟩ := expressed.conveys
    exact ⟨status, later.found, report ▸ conveys⟩

end Cluster

/-- After a pass over an accepted profile it is degraded if one of its pools has a degraded node or a
failed render and a reason or a message for that, and available otherwise. A fault that comes with
neither is not reported. -/
theorem reconcile_reports_shown_faults (tunedNamespace : String) (now : Timestamp) (name : String)
    (controller : Controller) (profile : Profile) (calm : controller.cluster.failures = .empty)
    (orderly : controller.cluster.Orderly fun _ => True)
    (poolsUnspaced : ∀ key pool, controller.cluster.peek MachineConfigPool key = some pool →
      pool.metadata.inNamespace = none)
    (found : controller.cluster.peek Profile name = some profile)
    (unspaced : profile.metadata.inNamespace = none)
    (live : profile.metadata.deletionTimestamp = none) (adopted : profile.hasFinalizer = true)
    (valid : profile.validate = .ok ()) (unpaused : profile.isPaused = false)
    (identified : profile.metadata.uid.isSome)
    (queryable : ∀ labels, profile.poolLabels = .ok labels →
      ∀ label ∈ labels.entries, Queryable label) :
    let after := (controller.reconcile { tunedNamespace } now name).2.cluster
    ∃ labels status, profile.poolLabels = .ok labels ∧
      after.peek Profile name = some { profile with status := some status } ∧
      (controller.cluster.ShowsFault labels →
        status.Reads .degraded .holds ∧ status.Reads .available .fails) ∧
      (¬ controller.cluster.ShowsFault labels →
        status.Reads .available .holds ∧ status.Reads .degraded .fails) := by
  intro after
  have peaceful : controller.cluster.Peaceful name profile :=
    ⟨calm, orderly, found, unspaced, live⟩
  have named : controller.cluster.PoolsNamed := .of_orderly orderly trivial poolsUnspaced
  obtain ⟨derivable, _⟩ := Profile.validate_eq_ok_iff.1 valid
  obtain ⟨owner, owned⟩ := Profile.ownerReference_of_identity
    (Option.isSome_iff_exists.2 ⟨name, peaceful.named⟩) identified
  obtain ⟨components, derived⟩ :=
    (Profile.components_of_derivable derivable tunedNamespace).1 owner owned
  obtain ⟨labels, labelled⟩ := derivable.poolLabels
  let settings : Settings := { tunedNamespace }
  have accepted : settings.validate profile = .ok () := by
    change profile.validate.mapError ProfileFault.message = .ok ()
    rw [valid]
    rfl
  have steady : settings.Steady profile := fun _ _ => rfl
  obtain ⟨status, stored, conveys⟩ :=
    peaceful.conveys_pools adopted steady accepted unpaused derived labelled now
  refine ⟨labels, status, labelled, stored, fun shown => ?_, fun unshown => ?_⟩
  · obtain ⟨message, report⟩ :=
      Cluster.poolsReport_of_showsFault named (queryable labels labelled) shown
    rw [report] at conveys
    exact ⟨conveys.reads .degraded, conveys.reads .available⟩
  · rw [Cluster.poolsReport_of_not_showsFault named (queryable labels labelled) unshown] at conveys
    exact ⟨conveys.reads .available, conveys.reads .degraded⟩

/-- A pool of worker nodes of which one is degraded. -/
def degradedPool (reason message : Option String) : MachineConfigPool :=
  { workerPool with status := some ⟨[⟨"NodeDegraded", "True", reason, message, none⟩], 1, 0, 0, 1⟩ }

/-- The small profile with a pool of worker nodes of which one is degraded. -/
def degradedController (reason message : Option String) : Controller :=
  { cluster := (Cluster.put {} smallProfile).put (degradedPool reason message) }

theorem reconcile_reports_shown_faults_small :
    let controller := degradedController (some "NodeFailed") none
    controller.cluster.Orderly (fun _ => True) ∧ smallProfile.validate = .ok () ∧
    ∃ labels status, smallProfile.poolLabels = .ok labels ∧
      controller.cluster.ShowsFault labels ∧
      (controller.reconcile {} default "small").2.cluster.peek Profile "small" =
        some { smallProfile with status := some status } ∧
      status.Reads .degraded .holds := by
  intro controller
  have orderly : controller.cluster.Orderly fun _ => True := (Cluster.Orderly.empty.put rfl).put rfl
  have valid : smallProfile.validate = .ok () := by decide +kernel
  have unspaced : ∀ key pool, controller.cluster.peek MachineConfigPool key = some pool →
      pool.metadata.inNamespace = none := Cluster.unspaced_put (fun _ _ none => by cases none) rfl
  obtain ⟨labels, status, labelled, stored, reported, _⟩ := reconcile_reports_shown_faults
    Config.defaultTunedNamespace default "small" controller smallProfile rfl orderly unspaced rfl rfl
    rfl rfl valid rfl rfl fun _ => Profile.queryable_small
  have shown : controller.cluster.ShowsFault labels := by
    rw [Profile.poolLabels_small] at labelled
    cases labelled
    refine ⟨degradedPool (some "NodeFailed") none, ⟨"worker", rfl⟩,
      ⟨(roleLabel, "worker"), List.mem_singleton_self _, by decide +kernel⟩, "NodeDegraded",
      List.mem_cons_self .., _, rfl, rfl, "NodeFailed", by decide, .inl rfl⟩
  exact ⟨orderly, valid, labels, status, labelled, shown, stored, (reported shown).1⟩

/-- A pool with a degraded node for which it gives neither a reason nor a message leaves its profile
available. -/
theorem reconcile_unexplained_fault :
    let pool := degradedPool none none
    let controller := degradedController none none
    let status := nextStatus {} smallProfile (Report.available.conditions default) .current
    smallProfile.validate = .ok () ∧ controller.cluster.HoldsPool pool ∧ pool.IsDegraded ∧
    (∃ labels, smallProfile.poolLabels = .ok labels ∧ pool.Carries labels) ∧
    (controller.reconcile {} default "small").2.cluster.peek Profile "small" =
      some { smallProfile with status := some status } ∧
    status.Reads .available .holds ∧ ¬ status.Reads .degraded .holds := by
  intro pool controller status
  have conveys := nextStatus_conveys {} default smallProfile .available
  refine ⟨by decide +kernel, ⟨"worker", rfl⟩, ⟨"NodeDegraded", List.mem_cons_self .., _, rfl, rfl⟩,
    ⟨_, Profile.poolLabels_small, (roleLabel, "worker"), List.mem_singleton_self _,
      by decide +kernel⟩, by decide +kernel, conveys.reads .available, fun degraded => ?_⟩
  cases degraded.unique (conveys.reads .degraded)

end NodeTuning
