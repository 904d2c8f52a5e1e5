import NodeTuning.Proofs.Controller.Draining

/-!
Which profiles a pass writes components for. Main statement: only for those that live, carry the
finalizer, pass the check and are not paused; and passes over a paused one do nothing at all.
-/
namespace NodeTuning
open Steps Cluster.Action

def Call.WritesComponent (call : Call) : Prop :=
  (call.verb = .create ∨ call.verb = .update) ∧
    (call.kind = .machineConfig ∨ call.kind = .kubeletConfig ∨ call.kind = .tuned ∨
      call.kind = .runtimeClass)

section Kept
variable {footprint : Footprint} {settings : Settings} (now : Timestamp) {profile : Profile}

/-- What a footprint must allow for the writes of profiles and statuses and for all deletions. -/
structure Footprint.AllowsAllButComponents (footprint : Footprint) : Prop where
  writes : ∀ key, footprint.writes (.performanceProfile, key)
  reports : ∀ key, footprint.reports (.performanceProfile, key)
  removes : ∀ place, footprint.removes place

theorem within_reconcileProfile (allows : footprint.AllowsAllButComponents)
    (components : settings.Accepts profile → profile.isPaused = false →
      ∀ place, footprint.writes place) :
    Keeps (Pass.Clusters (Cluster.Within footprint)) (reconcileProfile settings now profile) := by
  apply keeps_reconcileProfile
  · intro accepts unpaused
    have writes := components accepts unpaused
    exact keeps_applyComponents_of_writes (fun _ _ _ object _ => keeps_create object (writes _))
      (fun _ _ _ object _ => keeps_update object (writes _))
      (keeps_sweepTuned _ _ _ fun _ => keeps_ensureDeleted (allows.removes _))
  · exact keeps_deleteComponents _ _ fun K _ _ key _ => keeps_ensureDeleted (allows.removes _)
  · intro finalizers
    exact keeps_updateProfile _ (allows.writes _) (allows.writes _)
  · intro subject references report
    exact keeps_patchStatus profile.name _ allows.writes (allows.reports profile.name)

end Kept

/-- The footprint of a pass: components are written only for a profile that gets through all
guards. -/
def gate (settings : Settings) (cluster : Cluster) (name : String) : Footprint where
  writes place := place.1 = .performanceProfile ∨
    ∃ profile, cluster.read Profile name = .ok profile ∧ settings.Accepts profile ∧
      profile.isPaused = false
  reports _ := True
  removes _ := True

theorem within_passed (settings : Settings) (now : Timestamp) (name : String)
    (controller : Controller) : controller.cluster.Within (gate settings controller.cluster name)
      (controller.passed settings now name).2.cluster := by
  obtain ⟨_, _, run⟩ | ⟨_, _, run⟩ | ⟨profile, read, run⟩ :=
    Controller.passed_cases settings now name controller
  · rw [run]
    exact Cluster.Within.refl _ _
  · rw [run]
    exact Cluster.Within.refl _ _
  · rw [run]
    have allows : (gate settings controller.cluster name).AllowsAllButComponents :=
      ⟨fun _ => .inl rfl, fun _ => trivial, fun _ => trivial⟩
    exact within_reconcileProfile now allows
      (fun accepts unpaused _ => .inr ⟨profile, read, accepts, unpaused⟩) controller.counted

/-- Passes over one profile, one after the other, with what came of each. -/
def Controller.reconcileEach (settings : Settings) (name : String) :
    List Timestamp → Controller → List (Except ControllerError Outcome) × Controller
  | [], controller => ([], controller)
  | now :: later, controller =>
    let (result, after) := controller.reconcile settings now name
    let (results, last) := reconcileEach settings name later after
    (result :: results, last)

theorem reconcile_paused {settings : Settings} {name : String} {controller : Controller}
    {profile : Profile} (read : controller.cluster.read Profile name = .ok profile)
    (accepts : settings.Accepts profile) (paused : profile.isPaused = true) (now : Timestamp) :
    (controller.reconcile settings now name).1 = .ok .done ∧
    (controller.reconcile settings now name).2.cluster = controller.cluster ∧
    (controller.reconcile settings now name).2.events = controller.events := by
  have passed : controller.passed settings now name = (.ok .done, controller.counted) := by
    rw [Controller.passed_found settings now read, reconcileProfile_paused now accepts paused]
    exact run_hold settings profile controller.counted
  have ended := Controller.reconcile_passed settings now name controller
  rwa [passed] at ended

theorem reconcileEach_paused {settings : Settings} {name : String} {profile : Profile}
    (accepts : settings.Accepts profile) (paused : profile.isPaused = true)
    (times : List Timestamp) {controller : Controller}
    (read : controller.cluster.read Profile name = .ok profile) :
    (controller.reconcileEach settings name times).1 = times.map (fun _ => .ok .done) ∧
    (controller.reconcileEach settings name times).2.cluster = controller.cluster ∧
    (controller.reconcileEach settings name times).2.events = controller.events := by
  induction times generalizing controller with
  | nil => exact ⟨rfl, rfl, rfl⟩
  | cons now later ih =>
    obtain ⟨done, cluster, events⟩ := reconcile_paused read accepts paused now
    have again : (controller.reconcile settings now name).2.cluster.read Profile name =
        .ok profile := by rw [cluster, read]
    obtain ⟨dones, lastCluster, lastEvents⟩ := ih again
    refine ⟨?_, lastCluster.trans cluster, lastEvents.trans events⟩
    rw [Controller.reconcileEach, List.map_cons, ← dones, ← done]

/-- A pass logs the write of a component only if the profile that it read is alive, carries the
finalizer, is accepted and is not paused. However many passes go over a paused profile that is
otherwise accepted, they all succeed and change nothing. -/
theorem reconcile_gated (settings : Settings) (name : String) (controller : Controller) :
    (∀ now, ∃ more, (controller.reconcile settings now name).2.cluster.calls =
        controller.cluster.calls ++ more ∧
      ((∃ call ∈ more, call.WritesComponent) →
        ∃ profile, controller.cluster.read Profile name = .ok profile ∧
          settings.Accepts profile ∧ profile.isPaused = false)) ∧
    (∀ profile times, controller.cluster.read Profile name = .ok profile →
      settings.Accepts profile → profile.isPaused = true →
        (controller.reconcileEach settings name times).1 = times.map (fun _ => .ok .done) ∧
        (controller.reconcileEach settings name times).2.cluster = controller.cluster ∧
        (controller.reconcileEach settings name times).2.events = controller.events) := by
  refine ⟨fun now => ?_, fun profile times read accepts paused =>
    reconcileEach_paused accepts paused times read⟩
  have extended : controller.cluster.Within (gate settings controller.cluster name)
      (controller.reconcile settings now name).2.cluster := by
    rw [(Controller.reconcile_passed settings now name controller).2.1]
    exact within_passed settings now name controller
  obtain ⟨more, logged, permitted⟩ := extended.calls
  refine ⟨more, logged, ?_⟩
  rintro ⟨call, member, written, component⟩
  have allowed : (gate settings controller.cluster name).writes (call.kind, call.key) := by
    have permits := permitted call member
    rcases written with created | updated
    · simpa [Footprint.Permits, created] using permits
    · simpa [Footprint.Permits, updated] using permits
  -- The footprint lets components be written in the second case only.
  rcases allowed with isProfile | admitted
  · have kind : call.kind = .performanceProfile := isProfile
    simp [kind] at component
  · exact admitted

def pausedProfile : Profile :=
  { smallProfile with metadata := { smallProfile.metadata with
    annotations := some (SortedMap.empty.insert pauseAnnotation "true") } }

theorem reconcile_gated_small :
    let live : Controller := { cluster := Cluster.put {} smallProfile }
    let held : Controller := { cluster := Cluster.put {} pausedProfile }
    (∃ profile, live.cluster.read Profile "small" = .ok profile ∧
      ({} : Settings).Accepts profile ∧ profile.isPaused = false) ∧
    (held.reconcileEach {} "small" [default, default]).2.cluster = held.cluster := by
  intro live held
  constructor
  · obtain ⟨more, logged, only⟩ := (reconcile_gated {} "small" live).1 default
    have written : Call.mk .create .machineConfig "50-performance-small" ∈
        (live.reconcile {} default "small").2.cluster.calls := by decide +kernel
    rw [logged] at written
    exact only ⟨_, by simpa [live] using written, .inl rfl, .inl rfl⟩
  · exact ((reconcile_gated {} "small" held).2 pausedProfile [default, default] rfl
      ⟨rfl, rfl, by decide +kernel⟩ rfl).2.1

end NodeTuning
