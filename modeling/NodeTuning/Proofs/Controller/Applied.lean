import NodeTuning.Proofs.Controller.Applying

/-!
What applying components comes to where nothing is made to fail. Main statement: it succeeds, and
each component is then stored as it should be, with all that others wrote to it.
-/
namespace NodeTuning
open Steps Cluster.Action

section Writing
variable {K : Type} [Component K] [Stored.Lawful K] [Component.Lawful K]

omit [Component.Lawful K] in
theorem Write.run_create {controller : Controller} {object : K}
    (allowed : controller.cluster.check .create (Resource.kind K) = .ok ())
    (absent : controller.cluster.peek K (storeKey object) = none) :
    ∃ after, (Write.create object).perform.run controller = (.ok (), after) ∧
      after.cluster.peek K (storeKey object) = some (controller.cluster.asCreated object) := by
  have ok := Cluster.create_eq_ok_iff.2 ⟨allowed, absent, rfl, rfl⟩
  have written := Pass.run_onCluster (.ofWrite (Cluster.create · object)) controller
  rw [run_ofWrite_ok ok] at written
  refine ⟨_, run_bind_ok written _, ?_⟩
  change (((controller.cluster.countUid object).put (controller.cluster.asCreated object)).record
    _ _ _).peek K (storeKey object) = _
  simp

omit [Stored.Lawful K] [Component.Lawful K] in
theorem Write.run_update {controller : Controller} {object existing : K}
    (allowed : controller.cluster.check .update (Resource.kind K) = .ok ())
    (found : controller.cluster.peek K (storeKey object) = some existing) :
    ∃ after, (Write.update object).perform.run controller = (.ok (), after) ∧
      after.cluster = (controller.cluster.put (Cluster.asUpdated existing object)).record .update
        (Resource.kind K) (storeKey object) := by
  have ok := Cluster.update_eq_ok_iff.2 ⟨allowed, existing, found, rfl, rfl⟩
  have written := Pass.run_onCluster (.ofWrite (Cluster.update · object)) controller
  rw [run_ofWrite_ok ok] at written
  exact ⟨_, run_bind_ok written _, rfl⟩

theorem Write.run_perform {existing : Option K} {desired : K} {key : String}
    {controller : Controller} (calm : controller.cluster.failures = .empty)
    (found : controller.cluster.peek K key = existing)
    (belongs : (Resource.metadata desired).BelongsUnder key)
    (stored : ∀ object, existing = some object → (Resource.metadata object).BelongsUnder key) :
    ∃ after object, (Write.plan existing desired).perform.run controller = (.ok (), after) ∧
      controller.cluster.Within { writes := (· = (Resource.kind K, key)) } after.cluster ∧
      after.cluster.peek K key = some object ∧ Realizes existing desired object := by
  have targets := Write.plan_targets belongs stored
  have unmanaged : controller.cluster.Orderly fun _ => False :=
    fun _ _ _ impossible => impossible.elim
  have within := (Write.within_perform targets unmanaged).2
  cases existing with
  | none =>
    obtain ⟨named, rfl⟩ := belongs
    obtain ⟨after, run, created⟩ :=
      run_create (Cluster.check_of_calm calm _ _) found
    rw [Write.plan, run] at within
    exact ⟨after, _, run, within, created, realizes_asCreated controller.cluster desired⟩
  | some existing =>
    cases changed : mutated? existing desired with
    | none =>
      simp only [Write.plan, changed] at within ⊢
      exact ⟨controller, existing, rfl, within, found, realizes_unchanged changed⟩
    | some updated =>
      simp only [Write.plan, changed] at within targets ⊢
      obtain ⟨named, rfl⟩ := targets
      obtain ⟨after, run, reached⟩ :=
        run_update (Cluster.check_of_calm calm _ _) found
      have written : after.cluster.peek K (storeKey updated) =
          some (Cluster.asUpdated existing updated) := by
        rw [reached]
        simp
      rw [run] at within
      refine ⟨after, _, run, within, written, ?_⟩
      rw [mutated?_eq_some changed]
      exact realizes_asUpdated existing desired

theorem Write.realizes_of_isUnchanged {existing : Option K} {desired : K}
    (unchanged : (Write.plan existing desired).isUnchanged = true) :
    ∃ object, existing = some object ∧ Realizes existing desired object := by
  cases existing with
  | none => cases unchanged
  | some existing =>
    cases changed : mutated? existing desired with
    | none => exact ⟨existing, rfl, realizes_unchanged changed⟩
    | some updated =>
      simp only [Write.plan, changed] at unchanged
      cases unchanged

end Writing

/-- The sweep succeeds and deletes no tuned object of the current name. -/
theorem run_sweepTuned {cluster : Cluster} (calm : cluster.failures = .empty) (profile : Profile)
    (inNamespace current : String) :
    ∃ after, (sweepTuned profile inNamespace current).run cluster = (.ok (), after) ∧
      cluster.Within { removes := fun place =>
        place.1 = .tuned ∧ place.2 ≠ keyIn (some inNamespace) current } after := by
  unfold sweepTuned
  cases profile.metadata.uid with
  | none => exact ⟨cluster, rfl, Cluster.Within.refl _ _⟩
  | some uid =>
    have listed : cluster.listTuned inNamespace = .ok (cluster.tuneds.values.filter fun tuned =>
        tuned.metadata.inNamespace = some inNamespace) := by
      simp [Cluster.listTuned, Cluster.check_of_calm calm, bind, Except.bind, pure, Except.pure]
    dsimp only
    rw [run_bind_ok (by rw [run_ofRead, listed])]
    refine run_forM_ok (fun tuned member start within => ?_) (Cluster.Within.refl _ _)
    have undisturbed : start.failures = .empty := within.failures.trans calm
    refine ⟨_, run_ensureDeleted_ok (Cluster.check_of_calm undisturbed _ _) _,
      within.trans (Cluster.Within.deletion ⟨rfl, ?_⟩)⟩
    have outdated := (List.mem_filter.1 member).2
    simp only [isOutdated, Bool.and_eq_true, decide_eq_true_eq] at outdated
    exact fun same => outdated.2 (keyIn_inj.1 same)

/-- What it means that a component has been applied at a key. -/
def AppliedAt {K : Type} [Component K] [Stored.Lawful K] (before after : Cluster) (key : String)
    (desired : K) : Prop :=
  ∃ object, after.peek K key = some object ∧ Realizes (before.peek K key) desired object

structure Applied (tunedNamespace profile : String) (components : Components)
    (before after : Cluster) : Prop where
  machineConfig : AppliedAt before after (machineConfigName profile) components.machineConfig
  kubeletConfig : AppliedAt before after (componentName profile) components.kubeletConfig
  tuned : AppliedAt before after (tunedKey tunedNamespace profile) components.tuned
  runtimeClass : AppliedAt before after (componentName profile) components.runtimeClass

section Steps
variable {K : Type} [Component K] [Stored.Lawful K] {before middle after : Cluster} {key : String}
variable {desired : K}

theorem AppliedAt.later {footprint : Footprint} (applied : AppliedAt before middle key desired)
    (within : middle.Within footprint after) (apart : ¬ footprint.Touches (Resource.kind K, key)) :
    AppliedAt before after key desired := by
  obtain ⟨object, found, realizes⟩ := applied
  exact ⟨object, (within.peek_eq apart).trans found, realizes⟩

variable [Component.Lawful K]

theorem AppliedAt.of_isUnchanged (belongs : (Resource.metadata desired).BelongsUnder key)
    (unchanged :
      (Write.plan (before.peek K (storeKey desired)) desired).isUnchanged = true) :
    AppliedAt before before key desired := by
  obtain ⟨_, rfl⟩ := belongs
  exact Write.realizes_of_isUnchanged unchanged

theorem Write.run_applied (desired : K) {kinds : Kind → Prop} (controller : Controller)
    (calm : controller.cluster.failures = .empty) (orderly : before.Orderly kinds)
    (managed : kinds (Resource.kind K)) (belongs : (Resource.metadata desired).BelongsUnder key)
    (same : controller.cluster.peek K key = before.peek K key) :
    ∃ after, (Write.plan (before.peek K (storeKey desired)) desired).perform.run controller =
        (.ok (), after) ∧
      controller.cluster.Within { writes := (· = (Resource.kind K, key)) } after.cluster ∧
      AppliedAt before after.cluster key desired := by
  have own : storeKey desired = key := belongs.2
  obtain ⟨after, object, run, within, found, realizes⟩ :=
    Write.run_perform calm same belongs fun object => orderly.peek managed
  exact ⟨after, by rw [own, run], within, object, found, realizes⟩

end Steps

section Whole
variable {settings : Settings} {profile : Profile} {components : Components} {kinds : Kind → Prop}
variable {controller : Controller}

private theorem run_writes (placed : components.Placed settings.tunedNamespace profile.name)
    (calm : controller.cluster.failures = .empty) (orderly : controller.cluster.Orderly kinds)
    (managed : ∀ kind, kind ≠ .machineConfigPool → kinds kind) :
    ∃ after, ((Plan.ofCluster components controller.cluster).perform settings profile).run
        controller = (.ok true, after) ∧
      Applied settings.tunedNamespace profile.name components controller.cluster after.cluster := by
  -- The plan was made at the start. Each write finds its own place as it was then, since neither
  -- the writes before it nor the sweep have touched it.
  obtain ⟨one, runOne, toOne, machineConfig⟩ := Write.run_applied components.machineConfig _ calm
    orderly (managed _ (by decide)) placed.machineConfig rfl
  have calmOne := toOne.failures.trans calm
  obtain ⟨swept, sweep, toTwo⟩ := run_sweepTuned calmOne profile settings.tunedNamespace
    (tunedName profile.name)
  have runTwo := Pass.run_onCluster
    (sweepTuned profile settings.tunedNamespace (tunedName profile.name)) one
  rw [sweep] at runTwo
  have calmTwo := toTwo.failures.trans calmOne
  have tunedKept : swept.peek Tuned (tunedKey settings.tunedNamespace profile.name) = _ :=
    (toTwo.peek_eq (by simp [Footprint.Touches, tunedKey])).trans
      (toOne.peek_eq (by simp [Footprint.Touches]))
  obtain ⟨three, runThree, toThree, tuned⟩ := Write.run_applied components.tuned
    { one with cluster := swept } calmTwo orderly (managed _ (by decide)) placed.tuned tunedKept
  have calmThree := toThree.failures.trans calmTwo
  have kubeletKept : three.cluster.peek KubeletConfig (componentName profile.name) = _ :=
    (toThree.peek_eq (by simp [Footprint.Touches])).trans
      ((toTwo.peek_eq (by simp [Footprint.Touches])).trans
        (toOne.peek_eq (by simp [Footprint.Touches])))
  obtain ⟨four, runFour, toFour, kubeletConfig⟩ := Write.run_applied components.kubeletConfig _
    calmThree orderly (managed _ (by decide)) placed.kubeletConfig kubeletKept
  have calmFour := toFour.failures.trans calmThree
  have classKept : four.cluster.peek RuntimeClass (componentName profile.name) = _ :=
    (toFour.peek_eq (by simp [Footprint.Touches])).trans
      ((toThree.peek_eq (by simp [Footprint.Touches])).trans
        ((toTwo.peek_eq (by simp [Footprint.Touches])).trans
          (toOne.peek_eq (by simp [Footprint.Touches]))))
  obtain ⟨five, runFive, toFive, runtimeClass⟩ := Write.run_applied components.runtimeClass _
    calmFour orderly (managed _ (by decide)) placed.runtimeClass classKept
  refine ⟨five, ?_, ?_, ?_, ?_, runtimeClass⟩
  · apply (run_bind_ok runOne _).trans
    apply (run_bind_ok runTwo _).trans
    apply (run_bind_ok runThree _).trans
    apply (run_bind_ok runFour _).trans
    exact run_bind_ok runFive _
  · have afterSweep := machineConfig.later toTwo (by simp [Footprint.Touches])
    have afterTuned := afterSweep.later toThree (by simp [Footprint.Touches])
    have afterKubelet := afterTuned.later toFour (by simp [Footprint.Touches])
    exact afterKubelet.later toFive (by simp [Footprint.Touches])
  · exact kubeletConfig.later toFive (by simp [Footprint.Touches])
  · have afterKubelet := tuned.later toFour (by simp [Footprint.Touches])
    exact afterKubelet.later toFive (by simp [Footprint.Touches])

theorem run_applyComponents (derived : profile.components settings.tunedNamespace = .ok components)
    (calm : controller.cluster.failures = .empty) (orderly : controller.cluster.Orderly kinds)
    (managed : ∀ kind, kind ≠ .machineConfigPool → kinds kind) :
    ∃ written after, (applyComponents settings profile).run controller = (.ok written, after) ∧
      Applied settings.tunedNamespace profile.name components controller.cluster after.cluster := by
  have placed := Profile.components_placed derived
  obtain ⟨⟨_, blocked⟩, _⟩ | ⟨unchanged, run⟩ | ⟨_, run⟩ :=
    run_applyComponents_cases derived controller
  · exact absurd (Cluster.check_of_calm calm _ _) blocked
  · simp only [Plan.isUnchanged, Bool.and_eq_true] at unchanged
    obtain ⟨⟨⟨one, two⟩, three⟩, four⟩ := unchanged
    exact ⟨false, controller, run, .of_isUnchanged placed.machineConfig one,
      .of_isUnchanged placed.kubeletConfig two, .of_isUnchanged placed.tuned three,
      .of_isUnchanged placed.runtimeClass four⟩
  · obtain ⟨after, performed, applied⟩ := run_writes placed calm orderly managed
    exact ⟨true, after, run.trans performed, applied⟩

end Whole
end NodeTuning
