import NodeTuning.Proofs.Controller.Agreement
import NodeTuning.Proofs.Controller.Reporting

/-!
Passes over one profile from two controllers that look alike to it. Main statement: they take the
same branches, come to the same result, and the controllers still look alike, but for the uids of
what was created and the times of conditions.
-/
namespace NodeTuning
open Stored Steps Cluster.Action

namespace Sight

abbrev Abreast (sight : Sight) (late : Bool) : Controller → Controller → Prop :=
  Controller.Alike sight.profile.name (Cluster.Alike sight late)

/-- The fresh places of the components are those that are empty. -/
def Knows (sight : Sight) (cluster : Cluster) : Prop :=
  ∀ place ∈ componentPlaces sight.settings.tunedNamespace sight.profile.name,
    sight.fresh place = !cluster.holds place

theorem Abreast.weaken {sight : Sight} {late : Bool} (one two : Controller)
    (abreast : sight.Abreast false one two) : sight.Abreast late one two :=
  abreast.imp fun _ _ alike => alike.weaken late

theorem own_component {sight : Sight} {place : Place}
    (member : place ∈ componentPlaces sight.settings.tunedNamespace sight.profile.name) :
    place ∈ sight.own :=
  List.mem_cons_of_mem _ member

end Sight

section Writes
variable {sight : Sight}

/-- Objects are created at fresh places only, and updated only elsewhere. -/
def Write.Fits {K : Type} (write : Write K) (fresh : Bool) : Prop :=
  match write with
  | .create _ => fresh = true
  | .update _ => fresh = false
  | .unchanged => True

theorem Write.plan_fits {K : Type} [Component K] (existing : Option K) (desired : K) :
    (Write.plan existing desired).Fits existing.isNone := by
  cases existing with
  | none => rfl
  | some existing =>
    cases changed : mutated? existing desired with
    | none => simp only [plan, changed, Fits]
    | some updated => simp [plan, changed, Fits]

theorem Write.couples_perform {K : Type} [Component K] [Lawful K] [Plain K] {write : Write K}
    {key : String} (own : (Resource.kind K, key) ∈ sight.own) (targets : write.Targets key)
    (fits : write.Fits (sight.fresh (Resource.kind K, key))) :
    Couples (sight.Abreast true) (sight.Abreast true) write.perform write.perform := by
  have counted : Couples (sight.Abreast true) (sight.Abreast true)
      (Write.perform.countWrite (K := K)) (Write.perform.countWrite (K := K)) :=
    fun one two abreast => ⟨rfl, abreast.cluster, abreast.events, abreast.retry⟩
  cases write with
  | create object =>
    have created : CouplesSilently (sight.Abreast true) (sight.Abreast true) _ _ :=
      Pass.couplesSilently_onCluster (couples_create own targets fits)
    exact created.bind counted fun _ _ => id
  | update object =>
    have updated : Couples (sight.Abreast true) (sight.Abreast true) _ _ :=
      Pass.couples_onCluster (couples_update own targets fits)
    exact updated.bind (fun _ => counted) fun _ _ => id
  | unchanged => exact .pure () fun _ _ => id

structure Plan.Fits (sight : Sight) (plan : Plan) : Prop where
  machineConfig : plan.machineConfig.Fits
    (sight.fresh (.machineConfig, machineConfigName sight.profile.name))
  kubeletConfig : plan.kubeletConfig.Fits
    (sight.fresh (.kubeletConfig, componentName sight.profile.name))
  tuned : plan.tuned.Fits
    (sight.fresh (.tuned, tunedKey sight.settings.tunedNamespace sight.profile.name))
  runtimeClass : plan.runtimeClass.Fits
    (sight.fresh (.runtimeClass, componentName sight.profile.name))

theorem Plan.ofCluster_fits {components : Components} {cluster : Cluster}
    (placed : components.Placed sight.settings.tunedNamespace sight.profile.name)
    (knows : sight.Knows cluster) : (Plan.ofCluster components cluster).Fits sight := by
  have fits : ∀ {K : Type} [Component K] [Lawful K] (desired : K) (key : String),
      (Resource.metadata desired).BelongsUnder key →
      (Resource.kind K, key) ∈
        componentPlaces sight.settings.tunedNamespace sight.profile.name →
      (Write.plan (cluster.peek K (storeKey desired)) desired).Fits
        (sight.fresh (Resource.kind K, key)) := by
    intro K _ _ desired key belongs member
    obtain ⟨_, rfl⟩ := belongs
    rw [knows _ member, Cluster.holds, Cluster.isSome_peekAny, Option.not_isSome]
    exact Write.plan_fits ..
  constructor
  · exact fits _ _ placed.machineConfig (by simp [componentPlaces])
  · exact fits _ _ placed.kubeletConfig (by simp [componentPlaces])
  · exact fits _ _ placed.tuned (by simp [componentPlaces])
  · exact fits _ _ placed.runtimeClass (by simp [componentPlaces])

theorem Plan.couples_perform {plan : Plan}
    (targets : plan.Targets sight.settings.tunedNamespace sight.profile.name)
    (fits : plan.Fits sight) : Couples (sight.Abreast true) (sight.Abreast true)
      (plan.perform sight.settings sight.profile) (plan.perform sight.settings sight.profile) := by
  have machineConfig := Write.couples_perform
    (Sight.own_component (by simp [componentPlaces])) targets.machineConfig fits.machineConfig
  have kubeletConfig := Write.couples_perform
    (Sight.own_component (by simp [componentPlaces])) targets.kubeletConfig fits.kubeletConfig
  have tuned := Write.couples_perform
    (Sight.own_component (by simp [componentPlaces])) targets.tuned fits.tuned
  have runtimeClass := Write.couples_perform
    (Sight.own_component (by simp [componentPlaces])) targets.runtimeClass fits.runtimeClass
  have sweep : Couples (sight.Abreast true) (sight.Abreast true) _ _ :=
    Pass.couples_onCluster couples_sweepTuned
  unfold Plan.perform
  refine machineConfig.bind (fun _ => ?_) fun _ _ => id
  refine sweep.bind (fun _ => ?_) fun _ _ => id
  refine tuned.bind (fun _ => ?_) fun _ _ => id
  refine kubeletConfig.bind (fun _ => ?_) fun _ _ => id
  refine runtimeClass.bind (fun _ => ?_) fun _ _ => id
  exact .pure true fun _ _ => id

theorem couples_ofComponents {components : Components}
    (placed : components.Placed sight.settings.tunedNamespace sight.profile.name) :
    Couples (Cluster.Alike sight false) (Cluster.Alike sight false) (Plan.ofComponents components)
      (Plan.ofComponents components) := by
  have compares : ∀ {K : Type} [Component K] [Lawful K] (desired : K) (key : String),
      (Resource.metadata desired).BelongsUnder key →
      (Resource.kind K, key) ∈
        componentPlaces sight.settings.tunedNamespace sight.profile.name →
      Couples (Cluster.Alike sight false) (Cluster.Alike sight false) (Plan.compare desired)
        (Plan.compare desired) := by
    intro K _ _ desired key belongs member
    obtain ⟨_, rfl⟩ := belongs
    have found := couples_find? K (Sight.own_component member)
    exact found.bind (fun _ => .pure _ fun _ _ => id) fun _ _ => id
  unfold Plan.ofComponents
  refine (compares _ _ placed.machineConfig ?_).bind (fun _ => ?_) fun _ _ => id
  · simp [componentPlaces]
  refine (compares _ _ placed.kubeletConfig ?_).bind (fun _ => ?_) fun _ _ => id
  · simp [componentPlaces]
  refine (compares _ _ placed.tuned ?_).bind (fun _ => ?_) fun _ _ => id
  · simp [componentPlaces]
  refine (compares _ _ placed.runtimeClass ?_).bind (fun _ => ?_) fun _ _ => id
  · simp [componentPlaces]
  exact .pure _ fun _ _ => id

theorem couples_applyComponents :
    Couples (fun one two => sight.Abreast false one two ∧ sight.Knows one.cluster)
      (sight.Abreast true) (applyComponents sight.settings sight.profile)
      (applyComponents sight.settings sight.profile) := by
  have ends : ∀ one two, sight.Abreast false one two ∧ sight.Knows one.cluster →
      sight.Abreast true one two := fun one two related => Sight.Abreast.weaken one two related.1
  rw [applyComponents_eq]
  refine (Pass.couples_ofSynthesis _).bind_of (fun _ _ components _ _ synthesized => ?_) ends
  have derived := Pass.mapError_eq_ok_iff.1 (congrArg Prod.fst synthesized)
  have placed := Profile.components_placed derived
  -- Both plans are made before anything is written, and they create and update alike.
  have plans : Couples (fun one two => sight.Abreast false one two ∧ sight.Knows one.cluster)
      (fun one two => sight.Abreast false one two ∧ sight.Knows one.cluster)
      (Pass.onCluster (Plan.ofComponents components))
      (Pass.onCluster (Plan.ofComponents components)) := by
    rintro one two ⟨abreast, knows⟩
    obtain ⟨same, reached⟩ := Pass.couples_onCluster (couples_ofComponents placed) one two abreast
    have read : one.cluster = ((Plan.ofComponents components).run one.cluster).2 :=
      keeps_ofComponents components one.cluster
    refine ⟨same, reached, ?_⟩
    rw [Pass.run_onCluster, ← read]
    exact knows
  refine plans.bind_of (fun one two plan reached related planned => ?_) ends
  obtain ⟨abreast, knows⟩ := related
  have compared : plan = Plan.ofCluster components one.cluster := by
    rw [Pass.run_onCluster] at planned
    obtain run | ⟨_, _, _, run⟩ := Plan.gives_ofComponents components one.cluster
    · rw [run] at planned
      cases planned
      rfl
    · rw [run] at planned
      cases planned
  subst compared
  have targets := Plan.ofCluster_targets placed (fun _ _ => trivial) abreast.cluster.orderlyOne
  have fits := Plan.ofCluster_fits placed knows
  split
  · exact .pure false ends
  · exact (Plan.couples_perform targets fits).imp ends fun _ _ => id

end Writes

section Removal
variable {sight : Sight} {late : Bool}

theorem couples_deleteComponents :
    Couples (Cluster.Alike sight late) (Cluster.Alike sight late)
      (deleteComponents sight.settings.tunedNamespace sight.profile.name)
      (deleteComponents sight.settings.tunedNamespace sight.profile.name) := by
  have deletes : ∀ (K : Type) [Stored K] [Lawful K] (key : String),
      (Resource.kind K, key) ∈ componentPlaces sight.settings.tunedNamespace sight.profile.name →
      Couples (Cluster.Alike sight late) (Cluster.Alike sight late) (ensureDeleted K key)
        (ensureDeleted K key) :=
    fun K _ _ _ member => couples_ensureDeleted K (Sight.own_component member)
  unfold deleteComponents
  refine (deletes Tuned _ ?_).bind (fun _ => ?_) fun _ _ => id
  · simp [componentPlaces]
  refine (deletes KubeletConfig _ ?_).bind (fun _ => ?_) fun _ _ => id
  · simp [componentPlaces]
  refine (deletes RuntimeClass _ ?_).bind (fun _ => ?_) fun _ _ => id
  · simp [componentPlaces]
  apply deletes MachineConfig _
  simp [componentPlaces]

theorem couples_componentsExist :
    Couples (Cluster.Alike sight false) (Cluster.Alike sight false)
      (componentsExist sight.settings.tunedNamespace sight.profile.name)
      (componentsExist sight.settings.tunedNamespace sight.profile.name) := by
  have looks : ∀ (K : Type) [Stored K] [Lawful K] (key : String),
      (Resource.kind K, key) ∈ componentPlaces sight.settings.tunedNamespace sight.profile.name →
      Couples (Cluster.Alike sight false) (Cluster.Alike sight false) (isStored K key)
        (isStored K key) :=
    fun K _ _ _ member => couples_isStored K (Sight.own_component member)
  unfold componentsExist
  refine (looks Tuned _ ?_).bind (fun _ => ?_) fun _ _ => id
  · simp [componentPlaces]
  split
  · exact .pure true fun _ _ => id
  refine (looks KubeletConfig _ ?_).bind (fun _ => ?_) fun _ _ => id
  · simp [componentPlaces]
  split
  · exact .pure true fun _ _ => id
  refine (looks RuntimeClass _ ?_).bind (fun _ => ?_) fun _ _ => id
  · simp [componentPlaces]
  split
  · exact .pure true fun _ _ => id
  apply looks MachineConfig _
  simp [componentPlaces]

theorem couples_finalize (named : sight.profile.metadata.name = some sight.profile.name)
    (unspaced : sight.profile.metadata.inNamespace = none) :
    Couples (sight.Abreast false) (sight.Abreast false) (finalize sight.settings sight.profile)
      (finalize sight.settings sight.profile) := by
  have same : ∀ one two, sight.Abreast false one two → sight.Abreast false one two :=
    fun _ _ => id
  unfold finalize
  split
  · exact .pure _ same
  refine (Pass.couples_attemptOnCluster couples_deleteComponents).bind (fun deleted => ?_) same
  cases deleted with
  | error fault =>
    exact (Pass.couples_tell _ _ _ _).bind (fun _ => .throw _ same) same
  | ok =>
    refine (Pass.couples_tell _ _ _ _).bind (fun _ => ?_) same
    refine (Pass.couples_onCluster couples_componentsExist).bind (fun present => ?_) same
    split
    · exact .pure _ same
    have releases : Couples (sight.Abreast false) (sight.Abreast false) _ _ :=
      Pass.couples_onCluster (couples_updateProfile named unspaced
        ((Resource.finalizers sight.profile).filter (· ≠ finalizer)))
    refine releases.bind (fun _ => ?_) same
    exact (Pass.couples_forgetRetry _).bind (fun _ => .pure _ same) same

end Removal

section Status

theorem undated_nextStatus (settings : Settings) (profile : Profile) (references : References)
    {conditions conditions' : List Condition} (same : timeless conditions = timeless conditions') :
    (nextStatus settings profile conditions references).undated =
      (nextStatus settings profile conditions' references).undated := by
  cases references <;> simp [nextStatus, ProfileStatus.undated, timeless_carried, same]

theorem statusUnchanged_congr {old new new' : ProfileStatus} (same : new.undated = new'.undated) :
    statusUnchanged old new = statusUnchanged old new' := by
  have conditions := congrArg ProfileStatus.conditions same
  have tuned := congrArg ProfileStatus.tuned same
  have runtimeClass := congrArg ProfileStatus.runtimeClass same
  simp only [ProfileStatus.undated] at conditions tuned runtimeClass
  have unchanged : conditionsUnchanged old.conditions new.conditions =
      conditionsUnchanged old.conditions new'.conditions := by
    rw [Bool.eq_iff_iff, conditionsUnchanged_iff, conditionsUnchanged_iff, conditions]
  rw [statusUnchanged, statusUnchanged, unchanged, tuned, runtimeClass]

variable {sight : Sight} {profile : Profile} {now later : Timestamp}

theorem couples_writeStatus (same : profile.name = sight.profile.name)
    {conditions conditions' : List Condition}
    (timeless : timeless conditions = NodeTuning.timeless conditions') (references : References) :
    Couples (sight.Abreast true) (sight.Abreast true)
      (writeStatus sight.settings profile conditions references)
      (writeStatus sight.settings profile conditions' references) := by
  have statuses := undated_nextStatus sight.settings profile references timeless
  unfold writeStatus
  dsimp only
  rw [statusUnchanged_congr statuses, same]
  split
  · exact .pure () fun _ _ => id
  · exact Pass.couples_onCluster (couples_patchStatus statuses)

theorem couples_writeReport (same : profile.name = sight.profile.name) (report : Report)
    (references : References) : Couples (sight.Abreast true) (sight.Abreast true)
      (writeReport sight.settings now profile report references)
      (writeReport sight.settings later profile report references) :=
  couples_writeStatus same (report.timeless_conditions now later) references

theorem couples_poolReport :
    Couples (sight.Abreast true) (sight.Abreast true) (poolReport profile)
      (poolReport profile) := by
  unfold poolReport
  refine (Pass.couples_ofSynthesis _).bind (fun labels => ?_) fun _ _ => id
  refine (Pass.couples_onClusterAs (couples_collectPools _ _)).bind (fun pools => ?_) fun _ _ => id
  exact .pure _ fun _ _ => id

end Status

section Branches
variable {sight : Sight} {now later : Timestamp}

theorem couples_adopt (named : sight.profile.metadata.name = some sight.profile.name)
    (unspaced : sight.profile.metadata.inNamespace = none) :
    Couples (sight.Abreast false) (sight.Abreast true) (adopt sight.settings now sight.profile)
      (adopt sight.settings later sight.profile) := by
  have updates : Couples (sight.Abreast false) (sight.Abreast false) _ _ :=
    Pass.couples_onCluster (couples_updateProfile named unspaced
      (Resource.finalizers sight.profile ++ [finalizer]))
  unfold adopt
  refine updates.bind_of (fun one _ updated _ _ run => ?_) Sight.Abreast.weaken
  have shown : updated.name = sight.profile.addFinalizer.name := name_of_run_updateProfile run
  have reports : Couples (sight.Abreast true) (sight.Abreast true)
      (writeReport sight.settings now updated
        (.progressing "DeploymentStarting" "Deployment is starting") .kept)
      (writeReport sight.settings later updated
        (.progressing "DeploymentStarting" "Deployment is starting") .kept) :=
    couples_writeReport shown _ _
  refine (reports.imp Sight.Abreast.weaken fun _ _ => id).bind (fun _ => ?_) fun _ _ => id
  exact .pure _ fun _ _ => id

theorem couples_refuse (message : String) :
    Couples (sight.Abreast true) (sight.Abreast true)
      (refuse sight.settings now sight.profile message)
      (refuse sight.settings later sight.profile message) := by
  unfold refuse
  refine (couples_writeReport rfl _ _).bind (fun _ => ?_) fun _ _ => id
  exact (Pass.couples_tell _ _ _ _).bind (fun _ => .pure _ fun _ _ => id) fun _ _ => id

theorem couples_rollOut :
    Couples (fun one two => sight.Abreast false one two ∧ sight.Knows one.cluster)
      (sight.Abreast true) (rollOut sight.settings now sight.profile)
      (rollOut sight.settings later sight.profile) := by
  have same : ∀ one two, sight.Abreast true one two → sight.Abreast true one two := fun _ _ => id
  unfold rollOut
  refine (Pass.couples_attempt couples_applyComponents).bind (fun applied => ?_) same
  cases applied with
  | ok written =>
    dsimp only
    split
    · exact (Pass.couples_tell _ _ _ _).bind (fun _ => .pure _ same) same
    · exact .pure _ same
  | error fault =>
    refine (Pass.couples_attempt (couples_writeReport rfl _ _)).bind (fun _ => ?_) same
    exact (Pass.couples_tell _ _ _ _).bind (fun _ => .throw _ same) same

theorem couples_reportPools (written : Bool) :
    Couples (sight.Abreast true) (sight.Abreast true)
      (reportPools sight.settings now sight.profile written)
      (reportPools sight.settings later sight.profile written) := by
  have same : ∀ one two, sight.Abreast true one two → sight.Abreast true one two := fun _ _ => id
  unfold reportPools
  refine (Pass.couples_attempt couples_poolReport).bind (fun reported => ?_) same
  cases reported with
  | error fault =>
    refine (Pass.couples_attempt (couples_writeReport rfl _ _)).bind (fun _ => ?_) same
    exact .throw _ same
  | ok report =>
    refine (Pass.couples_attempt (couples_writeReport rfl _ _)).bind (fun result => ?_) same
    cases result with
    | ok => exact .pure _ same
    | error fault =>
      dsimp only
      split
      · exact .pure _ same
      · exact .throw _ same

theorem couples_reconcileProfile (named : sight.profile.metadata.name = some sight.profile.name)
    (unspaced : sight.profile.metadata.inNamespace = none) :
    Couples (fun one two => sight.Abreast false one two ∧ sight.Knows one.cluster)
      (sight.Abreast true) (reconcileProfile sight.settings now sight.profile)
      (reconcileProfile sight.settings later sight.profile) := by
  have early : ∀ one two, sight.Abreast false one two ∧ sight.Knows one.cluster →
      sight.Abreast false one two := fun _ _ related => related.1
  have ends : ∀ one two, sight.Abreast false one two ∧ sight.Knows one.cluster →
      sight.Abreast true one two := fun one two related => Sight.Abreast.weaken one two related.1
  obtain ⟨_, branch⟩ | ⟨_, _, branch⟩ | ⟨message, _, _, branch⟩ | ⟨_, _, branch⟩ | ⟨_, _, branch⟩ :=
    reconcileProfile_cases sight.settings sight.profile
  · rw [branch, branch]
    exact (couples_finalize named unspaced).imp early Sight.Abreast.weaken
  · rw [branch, branch]
    exact (couples_adopt named unspaced).imp early fun _ _ => id
  · rw [branch, branch]
    exact (couples_refuse message).imp ends fun _ _ => id
  · rw [branch, branch]
    intro one two related
    rw [run_hold, run_hold]
    exact ⟨rfl, ends one two related⟩
  · rw [branch, branch]
    exact couples_rollOut.bind couples_reportPools fun _ _ => id

end Branches

section Whole
variable {sight : Sight} {late : Bool} {one two : Controller}

theorem Sight.Abreast.resetRetry (abreast : sight.Abreast late one two) :
    sight.Abreast late (one.resetRetry sight.profile.name) (two.resetRetry sight.profile.name) where
  cluster := by
    rw [Controller.cluster_resetRetry, Controller.cluster_resetRetry]
    exact abreast.cluster
  events := by
    rw [Controller.events_resetRetry, Controller.events_resetRetry]
    exact abreast.events
  retry := by rw [Controller.find?_resetRetry, Controller.find?_resetRetry, abreast.retry]

theorem lockstep_passed (abreast : sight.Abreast false one two) (knows : sight.Knows one.cluster)
    (found : one.cluster.peek Profile sight.profile.name = some sight.profile)
    (named : sight.profile.metadata.name = some sight.profile.name)
    (unspaced : sight.profile.metadata.inNamespace = none) (now later : Timestamp) :
    (one.passed sight.settings now sight.profile.name).1 =
        (two.passed sight.settings later sight.profile.name).1 ∧
      sight.Abreast true (one.passed sight.settings now sight.profile.name).2
        (two.passed sight.settings later sight.profile.name).2 := by
  have same : one.cluster.peek Profile sight.profile.name =
      two.cluster.peek Profile sight.profile.name :=
    abreast.cluster.peek_early (.inl (own_profile sight))
  have counted : sight.Abreast false one.counted two.counted :=
    ⟨abreast.cluster, abreast.events, abreast.retry⟩
  have checked := abreast.cluster.check .get .performanceProfile
  obtain ⟨fault, blocked, run⟩ | ⟨allowed, run⟩ :=
    Controller.passed_stored sight.settings now found
  · obtain ⟨fault', blocked', run'⟩ | ⟨allowed', _⟩ :=
      Controller.passed_stored sight.settings later (same.symm.trans found)
    · rw [← checked, blocked] at blocked'
      cases blocked'
      rw [run, run']
      exact ⟨rfl, Sight.Abreast.weaken _ _ counted⟩
    · rw [← checked, blocked] at allowed'
      cases allowed'
  · obtain ⟨fault', blocked', _⟩ | ⟨_, run'⟩ :=
      Controller.passed_stored sight.settings later (same.symm.trans found)
    · rw [← checked, allowed] at blocked'
      cases blocked'
    · rw [run, run']
      exact couples_reconcileProfile named unspaced one.counted two.counted ⟨counted, knows⟩

theorem lockstep_reconcile (abreast : sight.Abreast false one two) (knows : sight.Knows one.cluster)
    (found : one.cluster.peek Profile sight.profile.name = some sight.profile)
    (unspaced : sight.profile.metadata.inNamespace = none) (now later : Timestamp) :
    (one.reconcile sight.settings now sight.profile.name).1 =
        (two.reconcile sight.settings later sight.profile.name).1 ∧
      sight.Abreast true (one.reconcile sight.settings now sight.profile.name).2
        (two.reconcile sight.settings later sight.profile.name).2 := by
  have named := abreast.cluster.orderlyOne.name_of_peek trivial found unspaced
  obtain ⟨same, reached⟩ := lockstep_passed abreast knows found named unspaced now later
  unfold Controller.passed Controller.counted at same reached
  unfold Controller.reconcile
  dsimp only
  split
  · rename_i outcome after run
    rw [run] at same reached
    split
    · rename_i outcome' after' run'
      rw [run'] at same reached
      cases same
      exact ⟨rfl, reached.resetRetry⟩
    · rename_i fault after' run'
      rw [run'] at same
      cases same
  · rename_i fault after run
    rw [run] at same reached
    split
    · rename_i outcome after' run'
      rw [run'] at same
      cases same
    · rename_i fault' after' run'
      rw [run'] at same reached
      cases same
      exact ⟨rfl, reached.cluster, reached.events, reached.retry⟩

end Whole
end NodeTuning
