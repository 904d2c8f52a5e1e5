import NodeTuning.Controller.Apply
import NodeTuning.Proofs.Component.Places
import NodeTuning.Proofs.Controller.Merging

/-!
Planning and performing the writes of components. Main statements: a plan is what the cluster holds
compared with what it should hold, and applying components stays within the places of the profile
and of tuned objects.
-/
namespace NodeTuning
open Steps Cluster.Action

/-- The plan for components, read off a cluster. -/
def Plan.ofCluster (components : Components) (cluster : Cluster) : Plan where
  machineConfig := .plan (cluster.peek MachineConfig (storeKey components.machineConfig))
    components.machineConfig
  kubeletConfig := .plan (cluster.peek KubeletConfig (storeKey components.kubeletConfig))
    components.kubeletConfig
  tuned := .plan (cluster.peek Tuned (storeKey components.tuned)) components.tuned
  runtimeClass := .plan (cluster.peek RuntimeClass (storeKey components.runtimeClass))
    components.runtimeClass

namespace Plan

theorem gives_compare {K : Type} [Component K] (desired : K) (cluster : Cluster) :
    Gives (∃ kind, cluster.check .get kind ≠ .ok ()) (compare desired) cluster
      (.plan (cluster.peek K (storeKey desired)) desired) cluster :=
  ((gives_find? K cluster (storeKey desired)).imp fun blocked => ⟨_, blocked⟩).bind (.inl rfl)

theorem gives_ofComponents (components : Components) (cluster : Cluster) :
    Gives (∃ kind, cluster.check .get kind ≠ .ok ()) (ofComponents components) cluster
      (ofCluster components cluster) cluster := by
  unfold ofComponents
  apply (gives_compare components.machineConfig cluster).bind
  apply (gives_compare components.kubeletConfig cluster).bind
  apply (gives_compare components.tuned cluster).bind
  exact (gives_compare components.runtimeClass cluster).bind (.inl rfl)

structure Targets (plan : Plan) (tunedNamespace profile : String) : Prop where
  machineConfig : plan.machineConfig.Targets (machineConfigName profile)
  kubeletConfig : plan.kubeletConfig.Targets (componentName profile)
  tuned : plan.tuned.Targets (tunedKey tunedNamespace profile)
  runtimeClass : plan.runtimeClass.Targets (componentName profile)

theorem ofCluster_targets {components : Components} {tunedNamespace profile : String}
    {cluster : Cluster} {kinds : Kind → Prop} (placed : components.Placed tunedNamespace profile)
    (managed : ∀ kind, kind ≠ .machineConfigPool → kinds kind) (orderly : cluster.Orderly kinds) :
    (ofCluster components cluster).Targets tunedNamespace profile where
  machineConfig := Write.plan_targets placed.machineConfig fun _ found =>
    placed.machineConfig.2 ▸ orderly.peek (managed _ (by decide)) found
  kubeletConfig := Write.plan_targets placed.kubeletConfig fun _ found =>
    placed.kubeletConfig.2 ▸ orderly.peek (managed _ (by decide)) found
  tuned := Write.plan_targets placed.tuned fun _ found =>
    placed.tuned.2 ▸ orderly.peek (managed _ (by decide)) found
  runtimeClass := Write.plan_targets placed.runtimeClass fun _ found =>
    placed.runtimeClass.2 ▸ orderly.peek (managed _ (by decide)) found

end Plan

/-- The writes of a plan, with the sweep in their midst. -/
def Plan.perform (settings : Settings) (profile : Profile) (plan : Plan) : Pass Bool := do
  plan.machineConfig.perform
  Pass.onCluster (sweepTuned profile settings.tunedNamespace (tunedName profile.name))
  plan.tuned.perform
  plan.kubeletConfig.perform
  plan.runtimeClass.perform
  return true

theorem applyComponents_eq (settings : Settings) (profile : Profile) :
    applyComponents settings profile =
      Pass.ofSynthesis (profile.components settings.tunedNamespace) >>= fun components =>
        Pass.onCluster (Plan.ofComponents components) >>= fun plan =>
          if plan.isUnchanged then pure false else plan.perform settings profile := rfl

section Derivation
variable {settings : Settings} {profile : Profile}

theorem run_applyComponents_underivable {fault : SynthesisError}
    (underivable : profile.components settings.tunedNamespace = .error fault)
    (controller : Controller) :
    (applyComponents settings profile).run controller = (.error (.synthesis fault), controller) := by
  rw [applyComponents_eq, underivable]
  exact run_bind_error (Pass.run_ofSynthesis _ controller) _

theorem run_applyComponents_derived {components : Components}
    (derived : profile.components settings.tunedNamespace = .ok components)
    (controller : Controller) : (applyComponents settings profile).run controller =
      (Pass.onCluster (Plan.ofComponents components) >>= fun plan =>
        if plan.isUnchanged then pure false else plan.perform settings profile).run controller := by
  rw [applyComponents_eq, derived]
  exact run_bind_ok (Pass.run_ofSynthesis _ controller) _

end Derivation

theorem keeps_ofComponents {relation : Cluster → Cluster → Prop} [IsPreorder Cluster relation]
    (components : Components) : Keeps relation (Plan.ofComponents components) := by
  have reads : ∀ {K : Type} [Component K] (desired : K), Keeps relation (Plan.compare desired) :=
    fun _ => Keeps.bind (keeps_ofRead _) fun _ => Keeps.pure _
  unfold Plan.ofComponents
  apply Keeps.bind (reads _)
  intro _
  apply Keeps.bind (reads _)
  intro _
  apply Keeps.bind (reads _)
  intro _
  exact Keeps.bind (reads _) fun _ => Keeps.pure _

/-- Components that can be derived are compared with the cluster first. If one of them can't be
read, or if none differs, then nothing else is done. -/
theorem run_applyComponents_cases {settings : Settings} {profile : Profile}
    {components : Components}
    (derived : profile.components settings.tunedNamespace = .ok components)
    (controller : Controller) :
    let plan := Plan.ofCluster components controller.cluster
    let run := (applyComponents settings profile).run controller
    ((∃ kind, controller.cluster.check .get kind ≠ .ok ()) ∧
      ∃ fault, run = (.error fault, controller)) ∨
    (plan.isUnchanged = true ∧ run = (.ok false, controller)) ∨
    (plan.isUnchanged = false ∧ run = (plan.perform settings profile).run controller) := by
  intro plan run
  have compared := Pass.run_onCluster (Plan.ofComponents components) controller
  have whole : run = _ := run_applyComponents_derived derived controller
  rw [whole]
  obtain planned | ⟨disturbed, fault, last, failed⟩ :=
    Plan.gives_ofComponents components controller.cluster
  · rw [planned] at compared
    rw [run_bind_ok compared]
    cases plan.isUnchanged with
    | true => exact .inr (.inl ⟨rfl, rfl⟩)
    | false => exact .inr (.inr ⟨rfl, rfl⟩)
  · have same : controller.cluster = last := by
      have reads : Keeps Eq (Plan.ofComponents components) := keeps_ofComponents components
      have read := reads controller.cluster
      rwa [failed] at read
    subst same
    rw [failed] at compared
    exact .inl ⟨disturbed, .cluster fault, run_bind_error compared _⟩

section Kept
variable {relation : Cluster → Cluster → Prop} {tracked : Controller → Controller → Prop}
variable [Pass.Tracks tracked relation]

theorem Write.keeps_perform {K : Type} [Component K] {write : Write K}
    (creates : ∀ object, write = .create object →
      Keeps relation (ofWrite (Cluster.create · object)))
    (updates : ∀ object, write = .update object →
      Keeps relation (ofWrite (Cluster.update · object))) :
    Keeps tracked write.perform := by
  have counted : Keeps tracked (Write.perform.countWrite (K := K)) :=
    fun controller => Pass.Tracks.metrics controller _
  cases write with
  | create object => exact Keeps.bind (Pass.keeps_onCluster (creates object rfl)) fun _ => counted
  | update object => exact Keeps.bind (Pass.keeps_onCluster (updates object rfl)) fun _ => counted
  | unchanged => exact Keeps.pure ()

structure Plan.Kept (tracked : Controller → Controller → Prop) (plan : Plan) : Prop where
  machineConfig : Keeps tracked plan.machineConfig.perform
  kubeletConfig : Keeps tracked plan.kubeletConfig.perform
  tuned : Keeps tracked plan.tuned.perform
  runtimeClass : Keeps tracked plan.runtimeClass.perform

theorem Plan.keeps_perform {settings : Settings} {profile : Profile} {plan : Plan}
    (kept : plan.Kept tracked) (sweeps : Keeps relation
      (sweepTuned profile settings.tunedNamespace (tunedName profile.name))) :
    Keeps tracked (plan.perform settings profile) := by
  unfold Plan.perform
  refine Keeps.bind kept.machineConfig fun _ => ?_
  refine Keeps.bind (Pass.keeps_onCluster sweeps) fun _ => ?_
  refine Keeps.bind kept.tuned fun _ => ?_
  refine Keeps.bind kept.kubeletConfig fun _ => ?_
  exact Keeps.bind kept.runtimeClass fun _ => Keeps.pure true

variable [IsPreorder Cluster relation]

omit [Pass.Tracks tracked relation] in
theorem keeps_sweepTuned (profile : Profile) (inNamespace current : String)
    (deletes : ∀ key, Keeps relation (ensureDeleted Tuned key)) :
    Keeps relation (sweepTuned profile inNamespace current) := by
  unfold sweepTuned
  cases profile.metadata.uid with
  | none => exact Keeps.pure ()
  | some uid => exact Keeps.bind (keeps_ofRead _) fun listed => Keeps.forM fun tuned _ => deletes _

omit [IsPreorder Cluster relation] in
theorem keeps_applyComponents_of_writes {settings : Settings} {profile : Profile}
    (creates : ∀ (K : Type) [Component K] [Stored.Lawful K] (object : K),
      Resource.kind K ≠ .performanceProfile ∧ Resource.kind K ≠ .machineConfigPool →
        Keeps relation (ofWrite (Cluster.create · object)))
    (updates : ∀ (K : Type) [Component K] [Stored.Lawful K] (object : K),
      Resource.kind K ≠ .performanceProfile ∧ Resource.kind K ≠ .machineConfigPool →
        Keeps relation (ofWrite (Cluster.update · object)))
    (sweeps : Keeps relation
      (sweepTuned profile settings.tunedNamespace (tunedName profile.name))) :
    Keeps tracked (applyComponents settings profile) := by
  have performs : ∀ {K : Type} [Component K] [Stored.Lawful K] (write : Write K),
      Resource.kind K ≠ .performanceProfile ∧ Resource.kind K ≠ .machineConfigPool →
        Keeps tracked write.perform :=
    fun write other => Write.keeps_perform (fun object _ => creates _ object other)
      fun object _ => updates _ object other
  rw [applyComponents_eq]
  refine Keeps.bind (Pass.keeps_ofSynthesis _) fun components => ?_
  refine Keeps.bind (Pass.keeps_reading (keeps_ofComponents components)) fun plan => ?_
  split
  · exact Keeps.pure false
  · refine Plan.keeps_perform ⟨?_, ?_, ?_, ?_⟩ sweeps
    · exact performs _ (by decide)
    · exact performs _ (by decide)
    · exact performs _ (by decide)
    · exact performs _ (by decide)

omit [IsPreorder Cluster relation] [Pass.Tracks tracked relation] in
theorem keeps_applyComponents_aside {settings : Settings} {profile : Profile}
    {aside : Controller → Controller → Prop} [Pass.Tracks aside fun _ _ => True] :
    Keeps aside (applyComponents settings profile) :=
  keeps_applyComponents_of_writes (fun _ _ _ _ _ => Keeps.anything _)
    (fun _ _ _ _ _ => Keeps.anything _) (Keeps.anything _)

omit [Pass.Tracks tracked relation] in
theorem keeps_applyComponents {invariant : Cluster → Prop} (settings : Settings)
    (profile : Profile)
    (performs : ∀ components cluster,
      profile.components settings.tunedNamespace = .ok components → invariant cluster →
        (Plan.ofCluster components cluster).Kept (Pass.Clusters (Guarded invariant relation)))
    (sweeps : Keeps (Guarded invariant relation)
      (sweepTuned profile settings.tunedNamespace (tunedName profile.name))) :
    Keeps (Pass.Clusters (Guarded invariant relation)) (applyComponents settings profile) := by
  rw [applyComponents_eq]
  refine Keeps.bind_of (Pass.keeps_ofSynthesis _) fun _ components _ synthesized => ?_
  have derived := Pass.mapError_eq_ok_iff.1 (congrArg Prod.fst synthesized)
  refine Pass.keeps_bind_guarded (Pass.keeps_onCluster (keeps_ofComponents components))
    fun start plan _ holds planned => ?_
  have kept : plan.Kept (Pass.Clusters (Guarded invariant relation)) := by
    rw [Pass.run_onCluster] at planned
    obtain run | ⟨_, _, _, run⟩ := Plan.gives_ofComponents components start.cluster
    · rw [run] at planned
      cases planned
      exact performs components start.cluster derived holds
    · rw [run] at planned
      cases planned
  split
  · exact Keeps.pure false
  · exact Plan.keeps_perform kept sweeps

end Kept

section Orderly
variable {kinds : Kind → Prop} {footprint : Footprint}

theorem Write.orderly_perform {K : Type} [Component K] [Stored.Lawful K] {write : Write K}
    {key : String} (targets : write.Targets key)
    (written : footprint.writes (Resource.kind K, key)) :
    Keeps (Pass.Clusters (Guarded (Cluster.Orderly kinds) (Cluster.Within footprint)))
      write.perform := by
  refine Write.keeps_perform (fun object planned => ?_) (fun object planned => ?_)
  · subst planned
    obtain ⟨named, rfl⟩ := targets
    exact orderly_create named written
  · subst planned
    obtain ⟨named, rfl⟩ := targets
    exact orderly_update named written

theorem Write.within_perform {K : Type} [Component K] [Stored.Lawful K] {write : Write K}
    {key : String} {controller : Controller} (targets : write.Targets key)
    (orderly : controller.cluster.Orderly kinds) :
    (write.perform.run controller).2.cluster.Orderly kinds ∧
      controller.cluster.Within { writes := (· = (Resource.kind K, key)) }
        (write.perform.run controller).2.cluster := by
  have keeps : Keeps (Pass.Clusters (Guarded (Cluster.Orderly kinds)
      (Cluster.Within { writes := (· = (Resource.kind K, key)) }))) write.perform :=
    Write.orderly_perform targets rfl
  exact keeps controller orderly

/-- Applying the components of a profile writes at their places and deletes tuned objects. -/
theorem orderly_applyComponents (settings : Settings) (profile : Profile)
    (managed : ∀ kind, kind ≠ .machineConfigPool → kinds kind)
    (writes : ∀ place ∈ componentPlaces settings.tunedNamespace profile.name,
      footprint.writes place)
    (removes : ∀ key, footprint.removes (.tuned, key)) :
    Keeps (Pass.Clusters (Guarded (Cluster.Orderly kinds) (Cluster.Within footprint)))
      (applyComponents settings profile) := by
  refine keeps_applyComponents settings profile (fun components cluster derived orderly => ?_)
    (keeps_sweepTuned _ _ _ fun key => orderly_ensureDeleted (removes key))
  have targets :=
    Plan.ofCluster_targets (Profile.components_placed derived) managed orderly
  constructor
  · exact Write.orderly_perform targets.machineConfig (writes _ (by simp [componentPlaces]))
  · exact Write.orderly_perform targets.kubeletConfig (writes _ (by simp [componentPlaces]))
  · exact Write.orderly_perform targets.tuned (writes _ (by simp [componentPlaces]))
  · exact Write.orderly_perform targets.runtimeClass (writes _ (by simp [componentPlaces]))

end Orderly
end NodeTuning
