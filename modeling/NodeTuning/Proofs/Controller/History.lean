import NodeTuning.Proofs.Controller.Covering

/-!
Histories of a cluster: passes, failures that come and go, collections of garbage, and what users do
to profiles and pools, in any order. Main statement: in no history a component outlives the
finalizer of its profile.
-/
namespace NodeTuning

namespace Cluster

def createProfile (cluster : Cluster) (name : String) (profile : Profile) : Cluster :=
  match cluster.peek Profile name with
  | some _ => cluster
  | none => cluster.put { profile with
      metadata := { profile.metadata with name := some name, inNamespace := none } }

/-- A user edits the profile of a name, but for its finalizers. -/
def editProfile (cluster : Cluster) (name : String) (spec : ProfileSpec)
    (labels annotations : Option Labels) : Cluster :=
  match cluster.peek Profile name with
  | none => cluster
  | some profile => cluster.put { profile with
      spec, metadata := { profile.metadata with labels, annotations } }

/-- A user asks for the deletion of the profile of a name. Any finalizer holds it back. -/
def deleteProfile (cluster : Cluster) (name : String) (time : Timestamp) : Cluster :=
  match cluster.peek Profile name with
  | none => cluster
  | some profile =>
    if (Resource.finalizers profile).isEmpty then cluster.remove Profile name
    else cluster.put { profile with
      metadata := { profile.metadata with deletionTimestamp := some time } }

end Cluster

/-- What can happen next. Each pass may have a check of its own. -/
inductive Occurrence where
  | pass (validate : Profile → Except String Unit) (now : Timestamp) (name : String)
  | failOn (operation message : String)
  | clearFailures
  | collectGarbage
  | putPool (pool : MachineConfigPool)
  | createProfile (name : String) (profile : Profile)
  | editProfile (name : String) (spec : ProfileSpec) (labels annotations : Option Labels)
  | deleteProfile (name : String) (time : Timestamp)

namespace Controller

def undergo (tunedNamespace : String) (controller : Controller) : Occurrence → Controller
  | .pass validate now name => (controller.reconcile ⟨tunedNamespace, validate⟩ now name).2
  | .failOn operation message =>
    { controller with cluster := controller.cluster.failOn operation message }
  | .clearFailures => { controller with cluster := controller.cluster.clearFailures }
  | .collectGarbage => { controller with cluster := controller.cluster.collectGarbage }
  | .putPool pool => { controller with cluster := controller.cluster.put pool }
  | .createProfile name profile =>
    { controller with cluster := controller.cluster.createProfile name profile }
  | .editProfile name spec labels annotations =>
    { controller with cluster := controller.cluster.editProfile name spec labels annotations }
  | .deleteProfile name time =>
    { controller with cluster := controller.cluster.deleteProfile name time }

def after (tunedNamespace : String) (controller : Controller) (history : List Occurrence) :
    Controller :=
  history.foldl (undergo tunedNamespace) controller

end Controller

namespace Cluster
variable {tunedNamespace : String} {cluster : Cluster}

/-- A cluster without components, in which every profile sits under its own name. -/
structure Bare (cluster : Cluster) : Prop where
  machineConfigs : cluster.machineConfigs = .empty
  kubeletConfigs : cluster.kubeletConfigs = .empty
  tuneds : cluster.tuneds = .empty
  runtimeClasses : cluster.runtimeClasses = .empty
  profiles : ∀ key profile, cluster.peek Profile key = some profile →
    profile.metadata.name = some key ∧ profile.metadata.inNamespace = none

theorem Bare.peekAny (bare : cluster.Bare) {kind : Kind} (key : String)
    (notProfile : kind ≠ .performanceProfile) (notPool : kind ≠ .machineConfigPool) :
    cluster.peekAny kind key = none := by
  cases kind with
  | performanceProfile => exact absurd rfl notProfile
  | machineConfigPool => exact absurd rfl notPool
  | machineConfig => simp [Cluster.peekAny, peek, Stored.store, bare.machineConfigs]
  | kubeletConfig => simp [Cluster.peekAny, peek, Stored.store, bare.kubeletConfigs]
  | tuned => simp [Cluster.peekAny, peek, Stored.store, bare.tuneds]
  | runtimeClass => simp [Cluster.peekAny, peek, Stored.store, bare.runtimeClasses]

theorem Bare.covered (bare : cluster.Bare) (tunedNamespace : String) :
    cluster.Covered tunedNamespace := by
  refine ⟨fun kind key object managed found => ?_, fun key profile found =>
    (bare.profiles key profile found).2, fun name held => ?_⟩
  · by_cases isProfile : kind = .performanceProfile
    · subst isProfile
      obtain ⟨profile, stored, rfl⟩ := Option.map_eq_some_iff.1 found
      obtain ⟨named, unspaced⟩ := bare.profiles key profile stored
      simp [ObjectMeta.BelongsUnder, AnyObject.metadata, named, unspaced, keyIn]
    · rw [bare.peekAny key isProfile managed] at found
      cases found
  · obtain ⟨place, member, there⟩ := List.any_eq_true.1 held
    obtain ⟨notProfile, notPool⟩ := kind_of_mem_componentPlaces member
    rw [holds, bare.peekAny place.2 notProfile notPool] at there
    cases there

namespace Covered
variable (covered : cluster.Covered tunedNamespace)
include covered

theorem collectGarbage : cluster.collectGarbage.Covered tunedNamespace := by
  have within : cluster.Within { removes := (·.1 ≠ .performanceProfile) }
      cluster.collectGarbage := by
    refine ⟨fun kind key => ?_, ⟨[], by simp [Cluster.collectGarbage]⟩, ?_, rfl, rfl⟩
    · rw [peekAny_collectGarbage]
      split
      · rename_i marked
        exact .inr (.inr (.inl ⟨marked.1, rfl⟩))
      · exact .inl rfl
    · intro place impossible
      cases impossible
  exact covered.within within (covered.orderly.within within fun _ _ => id)
    (fun _ impossible => impossible.elim) fun _ => id

theorem putPool (pool : MachineConfigPool) : (cluster.put pool).Covered tunedNamespace := by
  have within : cluster.Within { writes := (·.1 = .machineConfigPool) }
      ((cluster.put pool).record .update .machineConfigPool (storeKey pool)) :=
    Within.put rfl rfl
  have orderly := covered.orderly.within within fun _ managed => managed
  refine (covered.within within orderly (fun _ => .inl) fun _ impossible =>
    impossible.elim).of_objects fun kind key => ?_
  rw [peekAny_record]

theorem createProfile (name : String) (profile : Profile) :
    (cluster.createProfile name profile).Covered tunedNamespace := by
  unfold Cluster.createProfile
  split
  · exact covered
  · rename_i absent
    apply covered.put_profile (show _ = some name from rfl) rfl
    intro held
    obtain ⟨stored, found, _⟩ := covered.retained name held
    rw [absent] at found
    cases found

theorem adopted {name : String} {profile : Profile}
    (found : cluster.peek Profile name = some profile)
    (held : cluster.holdsAny (componentPlaces tunedNamespace name) = true) :
    profile.hasFinalizer = true := by
  obtain ⟨stored, same, adopted⟩ := covered.retained name held
  rw [found] at same
  cases same
  exact adopted

theorem editProfile (name : String) (spec : ProfileSpec) (labels annotations : Option Labels) :
    (cluster.editProfile name spec labels annotations).Covered tunedNamespace := by
  unfold Cluster.editProfile
  split
  · exact covered
  · rename_i profile found
    obtain ⟨named, unspaced⟩ := covered.metadata_of_peek found
    have adopted := covered.adopted found
    exact covered.put_profile named unspaced adopted

theorem deleteProfile (name : String) (time : Timestamp) :
    (cluster.deleteProfile name time).Covered tunedNamespace := by
  unfold Cluster.deleteProfile
  split
  · exact covered
  · rename_i profile found
    obtain ⟨named, unspaced⟩ := covered.metadata_of_peek found
    have adopted := covered.adopted found
    split
    · rename_i empty
      refine covered.remove_profile (Bool.eq_false_iff.2 fun held => ?_)
      have carried := adopted held
      rw [Profile.hasFinalizer, List.isEmpty_iff.1 empty] at carried
      cases carried
    · exact covered.put_profile named unspaced adopted

end Covered
end Cluster

namespace Controller
variable {tunedNamespace : String} {controller : Controller}

theorem covered_undergo (covered : controller.cluster.Covered tunedNamespace)
    (occurrence : Occurrence) :
    (controller.undergo tunedNamespace occurrence).cluster.Covered tunedNamespace := by
  cases occurrence with
  | pass validate now name => exact covered_reconcile ⟨tunedNamespace, validate⟩ now name covered
  | failOn operation message => exact covered.of_objects fun kind key => by cases kind <;> rfl
  | clearFailures => exact covered.of_objects fun kind key => by cases kind <;> rfl
  | collectGarbage => exact covered.collectGarbage
  | putPool pool => exact covered.putPool pool
  | createProfile name profile => exact covered.createProfile name profile
  | editProfile name spec labels annotations =>
    exact covered.editProfile name spec labels annotations
  | deleteProfile name time => exact covered.deleteProfile name time

theorem holds_after {invariant : Controller → Prop} {history : List Occurrence}
    (step : ∀ controller, ∀ occurrence ∈ history, invariant controller →
      invariant (controller.undergo tunedNamespace occurrence)) (holds : invariant controller) :
    invariant (controller.after tunedNamespace history) := by
  induction history generalizing controller with
  | nil => exact holds
  | cons first later ih =>
    exact ih (fun controller occurrence member => step controller occurrence (by simp [member]))
      (step controller first (by simp) holds)

theorem covered_after (covered : controller.cluster.Covered tunedNamespace)
    (history : List Occurrence) :
    (controller.after tunedNamespace history).cluster.Covered tunedNamespace := by
  have step : ∀ controller : Controller, ∀ occurrence ∈ history,
      controller.cluster.Covered tunedNamespace →
        (controller.undergo tunedNamespace occurrence).cluster.Covered tunedNamespace :=
    fun _ occurrence _ covered => covered_undergo covered occurrence
  exact holds_after step covered

end Controller

/-- Whatever happens to a cluster that starts without components, and in whatever order, while a
component is stored its profile is stored with the finalizer. -/
theorem component_retains_profile (tunedNamespace : String) (start : Controller)
    (bare : start.cluster.Bare) (history : List Occurrence) (name : String)
    (held : (start.after tunedNamespace history).cluster.holdsAny
      (componentPlaces tunedNamespace name) = true) :
    ∃ profile, (start.after tunedNamespace history).cluster.peek Profile name = some profile ∧
      profile.hasFinalizer = true :=
  (Controller.covered_after (bare.covered tunedNamespace) history).retained name held

/-- A profile that is created, rolled out, deleted, and held back by components that stay until
garbage is collected. -/
def shortLife : List Occurrence :=
  let accepting : Profile → Except String Unit := fun _ => .ok ()
  let bare := { smallProfile with metadata := { name := some "small", uid := some "1" } }
  [.createProfile "small" bare, .pass accepting default "small", .pass accepting default "small",
    .deleteProfile "small" default, .pass accepting default "small"]

theorem component_retains_profile_shortLife :
    let start : Controller := { cluster := { deferredDeletion := true } }
    start.cluster.Bare ∧
    (start.after "tuning" shortLife).cluster.holdsAny (componentPlaces "tuning" "small") = true ∧
    ∃ profile, (start.after "tuning" shortLife).cluster.peek Profile "small" = some profile ∧
      profile.hasFinalizer = true := by
  intro start
  have bare : start.cluster.Bare := ⟨rfl, rfl, rfl, rfl, fun key profile found => by cases found⟩
  have held : (start.after "tuning" shortLife).cluster.holdsAny
      (componentPlaces "tuning" "small") = true := by decide +kernel
  exact ⟨bare, held, component_retains_profile "tuning" start bare shortLife "small" held⟩

end NodeTuning
