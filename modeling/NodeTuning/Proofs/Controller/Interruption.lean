import NodeTuning.Proofs.Controller.Settling
import NodeTuning.Proofs.Controller.Sweeping

/-!
Where applying components can be interrupted. Main statement: however it ends, each component is as
before or settled, and each outdated tuned object is there or gone.
-/
namespace NodeTuning
open Stored Steps Cluster.Action

/-- At a place of the components is what they come to over what was there at the start. -/
inductive Components.SettledAt (components : Components) (tunedNamespace name : String)
    (start now : Cluster) : Place → Prop where
  | machineConfig : start.Settled now (machineConfigName name) components.machineConfig →
      SettledAt components tunedNamespace name start now (.machineConfig, machineConfigName name)
  | kubeletConfig : start.Settled now (componentName name) components.kubeletConfig →
      SettledAt components tunedNamespace name start now (.kubeletConfig, componentName name)
  | tuned : start.Settled now (tunedKey tunedNamespace name) components.tuned →
      SettledAt components tunedNamespace name start now (.tuned, tunedKey tunedNamespace name)
  | runtimeClass : start.Settled now (componentName name) components.runtimeClass →
      SettledAt components tunedNamespace name start now (.runtimeClass, componentName name)

namespace Components.SettledAt
variable {components : Components} {tunedNamespace name : String} {place : Place}
variable {start middle now later : Cluster}

theorem congr (settled : components.SettledAt tunedNamespace name start now place)
    (same : later.peekAny place.1 place.2 = now.peekAny place.1 place.2) :
    components.SettledAt tunedNamespace name start later place := by
  cases settled with
  | machineConfig settled => exact .machineConfig (settled.congr (Cluster.peek_congr same))
  | kubeletConfig settled => exact .kubeletConfig (settled.congr (Cluster.peek_congr same))
  | tuned settled => exact .tuned (settled.congr (Cluster.peek_congr same))
  | runtimeClass settled => exact .runtimeClass (settled.congr (Cluster.peek_congr same))

theorem agree (first : components.SettledAt tunedNamespace name start now place)
    (second : components.SettledAt tunedNamespace name start later place) :
    (now.peekAny place.1 place.2).map AnyObject.unversioned =
      (later.peekAny place.1 place.2).map AnyObject.unversioned := by
  cases first with
  | machineConfig one => cases second with | machineConfig two => exact one.agree two
  | kubeletConfig one => cases second with | kubeletConfig two => exact one.agree two
  | tuned one => cases second with | tuned two => exact one.agree two
  | runtimeClass one => cases second with | runtimeClass two => exact one.agree two

theorem rebase (before : middle.peekAny place.1 place.2 = start.peekAny place.1 place.2 ∨
      components.SettledAt tunedNamespace name start middle place)
    (settled : components.SettledAt tunedNamespace name middle now place) :
    components.SettledAt tunedNamespace name start now place := by
  cases settled with
  | machineConfig settled =>
    refine .machineConfig (settled.rebase (before.imp Cluster.peek_congr fun earlier => ?_))
    cases earlier with | machineConfig earlier => exact earlier
  | kubeletConfig settled =>
    refine .kubeletConfig (settled.rebase (before.imp Cluster.peek_congr fun earlier => ?_))
    cases earlier with | kubeletConfig earlier => exact earlier
  | tuned settled =>
    refine .tuned (settled.rebase (before.imp Cluster.peek_congr fun earlier => ?_))
    cases earlier with | tuned earlier => exact earlier
  | runtimeClass settled =>
    refine .runtimeClass (settled.rebase (before.imp Cluster.peek_congr fun earlier => ?_))
    cases earlier with | runtimeClass earlier => exact earlier

end Components.SettledAt

/-- What a run over the components of a profile may have left at any moment. -/
structure Components.Halfway (components : Components) (tunedNamespace : String)
    (profile : Profile) (start now : Cluster) : Prop where
  orderly : now.Orderly fun _ => True
  deferredDeletion : now.deferredDeletion = start.deferredDeletion
  own : ∀ place ∈ componentPlaces tunedNamespace profile.name,
    now.peekAny place.1 place.2 = start.peekAny place.1 place.2 ∨
      components.SettledAt tunedNamespace profile.name start now place
  rest : ∀ place, place ∉ componentPlaces tunedNamespace profile.name →
    now.peekAny place.1 place.2 = start.peekAny place.1 place.2 ∨
      start.Outdated tunedNamespace profile place ∧ now.peekAny place.1 place.2 = none

namespace Components.Halfway
variable {components : Components} {tunedNamespace : String} {profile : Profile}
variable {start before after : Cluster}

theorem refl (orderly : start.Orderly fun _ => True) :
    components.Halfway tunedNamespace profile start start :=
  ⟨orderly, rfl, fun _ _ => .inl rfl, fun _ _ => .inl rfl⟩

theorem write (halfway : components.Halfway tunedNamespace profile start before) {place : Place}
    (within : before.Within { writes := (· = place) } after) (orderly : after.Orderly fun _ => True)
    (member : place ∈ componentPlaces tunedNamespace profile.name)
    (here : after.peekAny place.1 place.2 = before.peekAny place.1 place.2 ∨
      components.SettledAt tunedNamespace profile.name start after place) :
    components.Halfway tunedNamespace profile start after := by
  have elsewhere : ∀ other, other ≠ place →
      after.peekAny other.1 other.2 = before.peekAny other.1 other.2 := by
    intro other different
    exact within.peekAny_eq (by simpa [Footprint.Touches] using different)
  refine ⟨orderly, within.deferredDeletion.trans halfway.deferredDeletion, ?_, ?_⟩
  · intro other own
    have kept : after.peekAny other.1 other.2 = before.peekAny other.1 other.2 →
        after.peekAny other.1 other.2 = start.peekAny other.1 other.2 ∨
          components.SettledAt tunedNamespace profile.name start after other := by
      intro same
      rcases halfway.own other own with unchanged | settled
      · exact .inl (same.trans unchanged)
      · exact .inr (settled.congr same)
    by_cases different : other = place
    · subst different
      rcases here with same | settled
      · exact kept same
      · exact .inr settled
    · exact kept (elsewhere other different)
  · intro other foreign
    have different : other ≠ place := fun same => foreign (same ▸ member)
    rw [elsewhere other different]
    exact halfway.rest other foreign

theorem sweep (halfway : components.Halfway tunedNamespace profile start before)
    (swept : Cluster.Swept tunedNamespace profile before after) :
    components.Halfway tunedNamespace profile start after := by
  refine ⟨halfway.orderly.within swept.within fun _ _ => id,
    swept.within.deferredDeletion.trans halfway.deferredDeletion, ?_, ?_⟩
  · intro place own
    have same := swept.stays_own halfway.orderly trivial own
    rcases halfway.own place own with unchanged | settled
    · exact .inl (same.trans unchanged)
    · exact .inr (settled.congr same)
  · intro place foreign
    by_cases spared :
        before.deferredDeletion = true ∨ ¬ before.Outdated tunedNamespace profile place
    · rw [swept.stays place spared]
      exact halfway.rest place foreign
    · rw [not_or, Bool.not_eq_true, Classical.not_not] at spared
      have gone := swept.taken spared.1 place spared.2
      rcases halfway.rest place foreign with unchanged | earlier
      · exact .inr ⟨Cluster.Outdated.congr spared.2 unchanged.symm, gone⟩
      · exact .inr ⟨earlier.1, gone⟩

end Components.Halfway

/-- A plan that goes through: four writes, each at its place, and the sweep behind the first. -/
structure Plan.Stages (plan : Plan) (tunedNamespace : String) (profile : Profile)
    (start one two three four after : Controller) : Prop where
  machineConfig : plan.machineConfig.perform.run start = (.ok (), one)
  swept : Cluster.Swept tunedNamespace profile one.cluster two.cluster
  tuned : plan.tuned.perform.run two = (.ok (), three)
  kubeletConfig : plan.kubeletConfig.perform.run three = (.ok (), four)
  runtimeClass : plan.runtimeClass.perform.run four = (.ok (), after)
  toOne : start.cluster.Within
    { writes := (· = (.machineConfig, machineConfigName profile.name)) } one.cluster
  orderly : one.cluster.Orderly fun _ => True
  toThree : two.cluster.Within
    { writes := (· = (.tuned, tunedKey tunedNamespace profile.name)) } three.cluster
  toFour : three.cluster.Within
    { writes := (· = (.kubeletConfig, componentName profile.name)) } four.cluster
  toAfter : four.cluster.Within
    { writes := (· = (.runtimeClass, componentName profile.name)) } after.cluster

section Runs
variable {settings : Settings} {profile : Profile} {components : Components}
variable {controller after : Controller}

theorem halfway_perform {start : Cluster} (orderly : start.Orderly fun _ => True)
    (placed : components.Placed settings.tunedNamespace profile.name) :
    Keeps (Pass.Clusters
        (Preserving (components.Halfway settings.tunedNamespace profile start)))
      ((Plan.ofCluster components start).perform settings profile) := by
  -- A write of the plan settles its place over what was there at the start, whenever it is made.
  have performs : ∀ {K : Type} [Component K] [Lawful K] [Component.Lawful K] [Plain K]
      (desired : K) (key : String), (Resource.metadata desired).BelongsUnder key →
      (Resource.kind K, key) ∈ componentPlaces settings.tunedNamespace profile.name →
      (∀ now, start.Settled now key desired → components.SettledAt settings.tunedNamespace
        profile.name start now (Resource.kind K, key)) →
      Keeps (Pass.Clusters
          (Preserving (components.Halfway settings.tunedNamespace profile start)))
        (Write.plan (start.peek K (storeKey desired)) desired).perform := by
    intro K _ _ _ _ desired key belongs member settle controller halfway
    have targets : (Write.plan (start.peek K (storeKey desired)) desired).Targets key :=
      Write.plan_targets belongs fun object found => belongs.2 ▸ orderly.peek trivial found
    obtain ⟨tidy, within⟩ := Write.within_perform targets halfway.orderly
    refine halfway.write within tidy member ?_
    rcases Write.settles_perform belongs orderly controller with same | settled
    · exact .inl (by rw [Lawful.peekAny_kind, Lawful.peekAny_kind, same])
    · exact .inr (settle _ settled)
  apply Plan.keeps_perform
  · constructor
    · exact performs _ _ placed.machineConfig (by simp [componentPlaces]) fun _ => .machineConfig
    · exact performs _ _ placed.kubeletConfig (by simp [componentPlaces]) fun _ => .kubeletConfig
    · exact performs _ _ placed.tuned (by simp [componentPlaces]) fun _ => .tuned
    · exact performs _ _ placed.runtimeClass (by simp [componentPlaces]) fun _ => .runtimeClass
  · intro cluster halfway
    cases identified : profile.metadata.uid with
    | none =>
      unfold sweepTuned
      rw [identified]
      exact halfway
    | some uid =>
      obtain ⟨_, run⟩ | ⟨after, run, swept⟩ :=
        Cluster.run_sweepTuned_ends settings.tunedNamespace halfway.orderly trivial identified
      · rw [run]
        exact halfway
      · rw [run]
        exact halfway.sweep swept

theorem halfway_applyComponents
    (derived : profile.components settings.tunedNamespace = .ok components)
    (orderly : controller.cluster.Orderly fun _ => True) :
    components.Halfway settings.tunedNamespace profile controller.cluster
      ((applyComponents settings profile).run controller).2.cluster := by
  have start : components.Halfway settings.tunedNamespace profile controller.cluster
      controller.cluster := .refl orderly
  obtain ⟨_, fault, run⟩ | ⟨_, run⟩ | ⟨_, run⟩ := run_applyComponents_cases derived controller
  · rw [run]
    exact start
  · rw [run]
    exact start
  · rw [run]
    exact halfway_perform orderly (Profile.components_placed derived) controller start

theorem Plan.stages_of_perform {plan : Plan} {written : Bool}
    (targets : plan.Targets settings.tunedNamespace profile.name)
    (orderly : controller.cluster.Orderly fun _ => True)
    (run : (plan.perform settings profile).run controller = (.ok written, after)) :
    written = true ∧ ∃ one two three four,
      plan.Stages settings.tunedNamespace profile controller one two three four after := by
  have writes : ∀ {K : Type} [Component K] [Lawful K] {write : Write K} {key : String}
      {before after : Controller}, write.Targets key →
      write.perform.run before = (.ok (), after) → before.cluster.Orderly (fun _ => True) →
      after.cluster.Orderly (fun _ => True) ∧
        before.cluster.Within { writes := (· = (Resource.kind K, key)) } after.cluster := by
    intro K _ _ write key before after aimed run tidy
    have reached := Write.within_perform aimed tidy
    rwa [run] at reached
  unfold Plan.perform at run
  obtain ⟨_, one, runOne, run⟩ := run_bind_eq_ok_iff.1 run
  obtain ⟨_, two, runTwo, run⟩ := run_bind_eq_ok_iff.1 run
  obtain ⟨_, three, runThree, run⟩ := run_bind_eq_ok_iff.1 run
  obtain ⟨_, four, runFour, run⟩ := run_bind_eq_ok_iff.1 run
  obtain ⟨_, five, runFive, run⟩ := run_bind_eq_ok_iff.1 run
  cases run
  obtain ⟨tidyOne, toOne⟩ := writes targets.machineConfig runOne orderly
  obtain ⟨swept, sweep, rfl⟩ := Pass.run_onCluster_eq_ok_iff.1 runTwo
  have taken := Cluster.swept_of_run tidyOne trivial sweep
  have tidyTwo := tidyOne.within taken.within fun _ _ => id
  obtain ⟨tidyThree, toThree⟩ := writes targets.tuned runThree tidyTwo
  obtain ⟨tidyFour, toFour⟩ := writes targets.kubeletConfig runFour tidyThree
  obtain ⟨_, toFive⟩ := writes targets.runtimeClass runFive tidyFour
  exact ⟨rfl, one, _, three, four, runOne, taken, runThree, runFour, runFive, toOne, tidyOne,
    toThree, toFour, toFive⟩

/-- A plan that goes through settles all four components, whatever is made to fail. -/
theorem Components.settled_of_stages {start one two three four after : Controller}
    (stages : (Plan.ofCluster components start.cluster).Stages settings.tunedNamespace profile
      start one two three four after)
    (orderly : start.cluster.Orderly fun _ => True)
    (placed : components.Placed settings.tunedNamespace profile.name) :
    ∀ place ∈ componentPlaces settings.tunedNamespace profile.name,
      components.SettledAt settings.tunedNamespace profile.name start.cluster after.cluster
        place := by
  have swept : ∀ place ∈ componentPlaces settings.tunedNamespace profile.name,
      two.cluster.peekAny place.1 place.2 = one.cluster.peekAny place.1 place.2 :=
    fun place own => stages.swept.stays_own stages.orderly trivial own
  -- A write finds its place as it was at the start, and no later stage touches that place.
  intro place member
  simp only [componentPlaces, List.forall_mem_cons] at swept
  simp only [componentPlaces, List.mem_cons, List.not_mem_nil, or_false] at member
  rcases member with rfl | rfl | rfl | rfl
  · have written : components.SettledAt settings.tunedNamespace profile.name start.cluster
        one.cluster (.machineConfig, machineConfigName profile.name) :=
      .machineConfig (Write.settled_of_run placed.machineConfig orderly rfl stages.machineConfig)
    have afterSweep := written.congr swept.1
    have afterTuned := afterSweep.congr (stages.toThree.peekAny_eq (by simp [Footprint.Touches]))
    have afterKubelet := afterTuned.congr (stages.toFour.peekAny_eq (by simp [Footprint.Touches]))
    exact afterKubelet.congr (stages.toAfter.peekAny_eq (by simp [Footprint.Touches]))
  · have same := (stages.toThree.peekAny_eq (by simp [Footprint.Touches])).trans
      (swept.2.1.trans (stages.toOne.peekAny_eq (by simp [Footprint.Touches])))
    have written : components.SettledAt settings.tunedNamespace profile.name start.cluster
        four.cluster (.kubeletConfig, componentName profile.name) :=
      .kubeletConfig (Write.settled_of_run placed.kubeletConfig orderly (Cluster.peek_congr same)
        stages.kubeletConfig)
    exact written.congr (stages.toAfter.peekAny_eq (by simp [Footprint.Touches]))
  · have same := swept.2.2.1.trans (stages.toOne.peekAny_eq (by simp [Footprint.Touches]))
    have written : components.SettledAt settings.tunedNamespace profile.name start.cluster
        three.cluster (.tuned, tunedKey settings.tunedNamespace profile.name) :=
      .tuned (Write.settled_of_run placed.tuned orderly (Cluster.peek_congr same) stages.tuned)
    have afterKubelet := written.congr (stages.toFour.peekAny_eq (by simp [Footprint.Touches]))
    exact afterKubelet.congr (stages.toAfter.peekAny_eq (by simp [Footprint.Touches]))
  · have same := (stages.toFour.peekAny_eq (by simp [Footprint.Touches])).trans
      ((stages.toThree.peekAny_eq (by simp [Footprint.Touches])).trans
        (swept.2.2.2.1.trans (stages.toOne.peekAny_eq (by simp [Footprint.Touches]))))
    exact .runtimeClass (Write.settled_of_run placed.runtimeClass orderly (Cluster.peek_congr same)
      stages.runtimeClass)

/-- A run that goes through leaves all four components settled, whatever is made to fail. -/
theorem settled_applyComponents {written : Bool}
    (derived : profile.components settings.tunedNamespace = .ok components)
    (orderly : controller.cluster.Orderly fun _ => True)
    (run : (applyComponents settings profile).run controller = (.ok written, after)) :
    ∀ place ∈ componentPlaces settings.tunedNamespace profile.name,
      components.SettledAt settings.tunedNamespace profile.name controller.cluster after.cluster
        place := by
  have placed := Profile.components_placed derived
  obtain ⟨_, _, failed⟩ | ⟨unchanged, quiet⟩ | ⟨_, performed⟩ :=
    run_applyComponents_cases derived controller
  · rw [run] at failed
    cases failed
  · rw [run] at quiet
    cases quiet
    simp only [Plan.isUnchanged, Bool.and_eq_true] at unchanged
    obtain ⟨⟨⟨one, two⟩, three⟩, four⟩ := unchanged
    simp only [componentPlaces, List.forall_mem_cons]
    exact ⟨.machineConfig (.of_applied (.of_isUnchanged placed.machineConfig one) rfl),
      .kubeletConfig (.of_applied (.of_isUnchanged placed.kubeletConfig two) rfl),
      .tuned (.of_applied (.of_isUnchanged placed.tuned three) rfl),
      .runtimeClass (.of_applied (.of_isUnchanged placed.runtimeClass four) rfl),
      List.forall_mem_nil _⟩
  · have targets := Plan.ofCluster_targets placed (fun _ _ => trivial) orderly
    rw [run] at performed
    obtain ⟨_, _, _, _, _, stages⟩ := Plan.stages_of_perform targets orderly performed.symm
    exact Components.settled_of_stages stages orderly placed

end Runs
end NodeTuning
