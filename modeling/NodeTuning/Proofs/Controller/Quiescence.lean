import NodeTuning.Proofs.Controller.Confinement
import NodeTuning.Proofs.Controller.Convergence
import NodeTuning.Proofs.Controller.Settling

/-!
Passes over one profile come to rest. Main statement: where nothing is made to fail, one pass over a
live profile that carries the finalizer brings the cluster to where further passes leave it, whether
the profile is refused, held, impossible to derive components from, or rolled out.
-/
namespace NodeTuning
open Steps Cluster.Action

/-- A check that looks neither at the status nor at the finalizers of the profile. -/
def Settings.Steady (settings : Settings) (profile : Profile) : Prop :=
  ∀ finalizers status, settings.validate { profile with
    metadata := { profile.metadata with finalizers }, status } = settings.validate profile

/-- The profile is accepted, and it is paused or its components can be derived. -/
structure Settings.Serves (settings : Settings) (profile : Profile) : Prop where
  valid : settings.validate profile = .ok ()
  served : profile.isPaused = true ∨
    ∃ components, profile.components settings.tunedNamespace = .ok components

/-- The report on a profile from which no components can be derived. -/
def SynthesisError.report (fault : SynthesisError) : Report :=
  .degraded "ComponentCreationFailed"
    ("failed to create components: " ++ (ControllerError.synthesis fault).message)

/-- All that a pass over a live and adopted profile asks for is there already. -/
inductive Profile.Rests (settings : Settings) (cluster : Cluster) (profile : Profile) : Prop where
  | refused (message : String) : settings.validate profile = .error message →
      profile.Expresses settings (.degraded "ValidationFailed" message) .kept → Rests ..
  | held : settings.validate profile = .ok () → profile.isPaused = true → Rests ..
  | underivable (fault : SynthesisError) : settings.validate profile = .ok () →
      profile.isPaused = false → profile.components settings.tunedNamespace = .error fault →
      profile.Expresses settings fault.report .kept → Rests ..
  | rolledOut (components : Components) (labels : Labels) : settings.validate profile = .ok () →
      profile.isPaused = false → profile.components settings.tunedNamespace = .ok components →
      profile.poolLabels = .ok labels → (Plan.ofCluster components cluster).isUnchanged = true →
      profile.Expresses settings (cluster.poolsReport labels) .current → Rests ..

theorem Applied.isUnchanged {tunedNamespace profile : String} {components : Components}
    {before after : Cluster} (applied : Applied tunedNamespace profile components before after)
    (placed : components.Placed tunedNamespace profile) :
    (Plan.ofCluster components after).isUnchanged = true := by
  have settled : ∀ {K : Type} [Component K] [Stored.Lawful K] [Component.Lawful K] [Stored.Plain K]
      {key : String} {desired : K}, AppliedAt before after key desired →
      (Resource.metadata desired).BelongsUnder key →
      Write.plan (after.peek K (storeKey desired)) desired = .unchanged := by
    rintro K _ _ _ _ key desired ⟨stored, found, realizes⟩ ⟨_, rfl⟩
    have here : after.peek K (storeKey desired) = some stored := found
    rw [here]
    exact realizes.plan_eq_unchanged
  simp only [Plan.isUnchanged, Plan.ofCluster, settled applied.machineConfig placed.machineConfig,
    settled applied.kubeletConfig placed.kubeletConfig, settled applied.tuned placed.tuned,
    settled applied.runtimeClass placed.runtimeClass]
  rfl

section Branches
variable {settings : Settings} {now : Timestamp} {profile : Profile} {controller : Controller}

theorem run_rollOut_underivable {fault : SynthesisError}
    (underivable : profile.components settings.tunedNamespace = .error fault)
    {after : Controller}
    (wrote : (writeReport settings now profile fault.report .kept).run controller =
      (.ok (), after)) :
    ∃ last, (rollOut settings now profile).run controller = (.error (.synthesis fault), last) ∧
      last.cluster = after.cluster := by
  exact ⟨_, run_rollOut_failed (run_applyComponents_underivable underivable controller) wrote, rfl⟩

theorem run_rollOut_unchanged {components : Components} (calm : controller.cluster.failures = .empty)
    (derived : profile.components settings.tunedNamespace = .ok components)
    (unchanged : (Plan.ofCluster components controller.cluster).isUnchanged = true) :
    (rollOut settings now profile).run controller = (.ok false, controller) := by
  have applied : (applyComponents settings profile).run controller = (.ok false, controller) := by
    obtain ⟨⟨_, blocked⟩, _⟩ | ⟨_, run⟩ | ⟨changed, _⟩ :=
      run_applyComponents_cases derived controller
    · exact absurd (Cluster.check_of_calm calm _ _) blocked
    · exact run
    · rw [unchanged] at changed
      cases changed
  simpa using run_rollOut_applied applied

/-- A pass over a profile that rests leaves the cluster as it is. If the profile is served, then the
pass succeeds and tells no one. -/
theorem Profile.Rests.run (rests : profile.Rests settings controller.cluster)
    (live : profile.metadata.deletionTimestamp = none) (adopted : profile.hasFinalizer = true)
    (calm : controller.cluster.failures = .empty) (now : Timestamp) :
    ∃ result after, (reconcileProfile settings now profile).run controller = (result, after) ∧
      after.cluster = controller.cluster ∧
      (settings.Serves profile → result = .ok .done ∧ after.events = controller.events) := by
  cases rests with
  | refused message invalid expressed =>
    rw [reconcileProfile_invalid now live adopted invalid, refuse,
      run_bind_ok (run_writeReport_expressed expressed controller),
      run_bind_ok (Pass.run_tell _ _ _ _ _)]
    refine ⟨_, _, rfl, rfl, fun serves => ?_⟩
    have valid := serves.valid
    rw [invalid] at valid
    cases valid
  | held valid paused =>
    rw [reconcileProfile_paused now ⟨live, adopted, valid⟩ paused, run_hold]
    exact ⟨_, _, rfl, rfl, fun _ => ⟨rfl, rfl⟩⟩
  | underivable fault valid unpaused underivable expressed =>
    have wrote : (writeReport settings now profile fault.report .kept).run controller =
        (.ok (), controller) := run_writeReport_expressed expressed controller
    obtain ⟨last, run, same⟩ := run_rollOut_underivable underivable wrote
    rw [reconcileProfile_accepted now ⟨live, adopted, valid⟩ unpaused, run_bind_error run]
    refine ⟨_, _, rfl, same, fun serves => ?_⟩
    rcases serves.served with paused | ⟨components, derived⟩
    · rw [unpaused] at paused
      cases paused
    · rw [underivable] at derived
      cases derived
  | rolledOut components labels valid unpaused derived labelled unchanged expressed =>
    obtain ⟨reported, pools, report⟩ := run_poolReport (Cluster.listable_of_calm calm _) labelled
    have wrote : (writeReport settings now profile (reported.getD .available) .current).run
        controller = (.ok (), controller) := report ▸ run_writeReport_expressed expressed controller
    rw [reconcileProfile_accepted now ⟨live, adopted, valid⟩ unpaused,
      run_bind_ok (run_rollOut_unchanged calm derived unchanged),
      run_reportPools_read false pools wrote]
    exact ⟨_, _, rfl, rfl, fun _ => ⟨rfl, rfl⟩⟩

/-- Once its components are applied and its pools are reported, a profile is at rest. -/
theorem rests_rolledOut {components : Components} {labels : Labels}
    (own : storeKey profile = profile.name)
    (valid : ∀ status, settings.validate { profile with status } = .ok ())
    (unpaused : profile.isPaused = false)
    (derived : profile.components settings.tunedNamespace = .ok components)
    (labelled : profile.poolLabels = .ok labels) (calm : controller.cluster.failures = .empty)
    (orderly : controller.cluster.Orderly fun _ => True)
    (found : controller.cluster.peek Profile profile.name = some profile) (now : Timestamp) :
    let steps := rollOut settings now profile >>= reportPools settings now profile
    ∃ status, (steps.run controller).2.cluster.peek Profile profile.name =
        some { profile with status } ∧
      Profile.Rests settings (steps.run controller).2.cluster { profile with status } := by
  intro steps
  obtain ⟨written, middle, rolled, toMiddle, applied⟩ :=
    run_rollOut settings now controller derived calm orderly
  have kept : middle.cluster.peek Profile profile.name = some profile :=
    (toMiddle.peek_eq (by simp [Footprint.Touches, rollOutFootprint, componentPlaces])).trans found
  obtain ⟨after, status, reported, toAfter, stored, conveys⟩ := run_reportPools settings now
    labelled (toMiddle.failures.trans calm) kept own written
  rw [run_bind_ok rolled, reported]
  have still : Applied settings.tunedNamespace profile.name components controller.cluster
      after.cluster := by
    apply applied.later toAfter
    intro place other
    simp only [Footprint.Touches, false_or, or_false]
    rintro rfl
    exact other rfl
  have report : after.cluster.poolsReport labels = middle.cluster.poolsReport labels :=
    toAfter.poolsReport_eq (by simp [Footprint.Touches]) labels
  have expressed : Profile.Expresses settings { profile with status := some status }
      (after.cluster.poolsReport labels) .current := by
    rw [report]
    exact conveys.expresses
  exact ⟨some status, stored, .rolledOut components labels (valid _) unpaused derived labelled
    (still.isUnchanged (Profile.components_placed derived)) expressed⟩

/-- One pass brings a live and adopted profile to rest, by writing at most to its status and its
components. -/
theorem rests_reconcileProfile (own : storeKey profile = profile.name)
    (live : profile.metadata.deletionTimestamp = none) (adopted : profile.hasFinalizer = true)
    (steady : settings.Steady profile) (calm : controller.cluster.failures = .empty)
    (orderly : controller.cluster.Orderly fun _ => True)
    (found : controller.cluster.peek Profile profile.name = some profile) (now : Timestamp) :
    ∃ status, ((reconcileProfile settings now profile).run controller).2.cluster.peek Profile
        profile.name = some { profile with status } ∧
      Profile.Rests settings ((reconcileProfile settings now profile).run controller).2.cluster
        { profile with status } := by
  have verdict : ∀ status, settings.validate { profile with status } = settings.validate profile :=
    steady profile.metadata.finalizers
  cases valid : settings.validate profile with
  | error message =>
    obtain ⟨after, status, wrote, _, stored, expressed⟩ := run_writeReport_expresses settings now
      calm found own (.degraded "ValidationFailed" message) .kept
    rw [reconcileProfile_invalid now live adopted valid, refuse, run_bind_ok wrote]
    exact ⟨status, stored, .refused message ((verdict status).trans valid) expressed⟩
  | ok =>
    cases paused : profile.isPaused with
    | true =>
      rw [reconcileProfile_paused now ⟨live, adopted, valid⟩ paused, run_hold]
      exact ⟨profile.status, found, .held valid paused⟩
    | false =>
      rw [reconcileProfile_accepted now ⟨live, adopted, valid⟩ paused]
      cases derived : profile.components settings.tunedNamespace with
      | error fault =>
        obtain ⟨after, status, wrote, _, stored, expressed⟩ := run_writeReport_expresses settings
          now calm found own fault.report .kept
        obtain ⟨last, run, same⟩ := run_rollOut_underivable derived wrote
        rw [run_bind_error run, same]
        exact ⟨status, stored,
          .underivable fault ((verdict status).trans valid) paused derived expressed⟩
      | ok components =>
        obtain ⟨labels, labelled⟩ := Profile.poolLabels_of_components derived
        exact rests_rolledOut own (fun status => (verdict status).trans valid) paused derived
          labelled calm orderly found now

theorem peek_adopt (settings : Settings) (now : Timestamp)
    (named : profile.metadata.name = some profile.name)
    (unspaced : profile.metadata.inNamespace = none)
    (live : profile.metadata.deletionTimestamp = none)
    (calm : controller.cluster.failures = .empty)
    (orderly : controller.cluster.Orderly fun _ => True)
    (found : controller.cluster.peek Profile profile.name = some profile) :
    ∃ status, ((adopt settings now profile).run controller).2.cluster.peek Profile profile.name =
      some { profile.addFinalizer with status } := by
  have rewritten : Confined settings.tunedNamespace profile True controller.cluster
      ((ofWrite (Cluster.updateProfile · profile.addFinalizer)).run controller.cluster).2 :=
    confined_updateProfile named unspaced _ controller.cluster
  have written := Pass.run_onCluster
    (.ofWrite (Cluster.updateProfile · profile.addFinalizer)) controller
  obtain ⟨updated, middle, ok, run⟩ | ⟨fault, failed, _⟩ :=
    run_ofWrite_cases (Cluster.updateProfile · profile.addFinalizer) controller.cluster
  · have stored := peek_updateProfile_addFinalizer found named unspaced live ok
    obtain ⟨_, existing, there, rfl, _⟩ := Cluster.updateProfile_eq_ok_iff.1 ok
    have shown : profile.addFinalizer.name = profile.name := rfl
    obtain rfl : profile = existing := Option.some.inj (found.symm.trans (shown ▸ there))
    rw [run] at written rewritten
    have calmly : ({ controller with cluster := middle } : Controller).cluster.failures = .empty :=
      (rewritten orderly).2.failures.trans calm
    let subject : Profile := { profile.addFinalizer with status := profile.status }
    have own : storeKey subject = subject.name := storeKey_of_name named unspaced
    obtain ⟨after, status, reported, _, last, _⟩ := run_writeReport_expresses settings now calmly
      stored own (.progressing "DeploymentStarting" "Deployment is starting") .kept
    unfold adopt
    rw [run_bind_ok written, run_bind_ok reported]
    exact ⟨status, last⟩
  · have absent := Cluster.updateProfile_error failed calm
    rw [show profile.addFinalizer.name = profile.name from rfl, found] at absent
    cases absent

end Branches

section Passes
variable {settings : Settings} {name : String} {profile : Profile} {controller : Controller}

/-- Nothing is made to fail, every object sits under its own key, and under the name is the profile,
which is not being deleted. -/
structure Cluster.Peaceful (cluster : Cluster) (name : String) (profile : Profile) : Prop where
  calm : cluster.failures = .empty
  orderly : cluster.Orderly fun _ => True
  found : cluster.peek Profile name = some profile
  unspaced : profile.metadata.inNamespace = none
  live : profile.metadata.deletionTimestamp = none

namespace Cluster.Peaceful
variable (peaceful : controller.cluster.Peaceful name profile)
include peaceful

theorem named : profile.metadata.name = some name :=
  peaceful.orderly.name_of_peek trivial peaceful.found peaceful.unspaced

theorem own : storeKey profile = profile.name := by
  rw [Profile.name_of_metadata peaceful.named]
  exact storeKey_of_name peaceful.named peaceful.unspaced

theorem passed (settings : Settings) (now : Timestamp) : controller.passed settings now name =
    (reconcileProfile settings now profile).run controller.counted :=
  Controller.passed_found settings now
    (Cluster.read_eq_ok_iff.2 ⟨Cluster.check_of_calm peaceful.calm _ _, peaceful.found⟩)

theorem later (settings : Settings) (now : Timestamp) {stored : Profile}
    (found : (controller.reconcile settings now name).2.cluster.peek Profile name = some stored)
    (unspaced : stored.metadata.inNamespace = none)
    (live : stored.metadata.deletionTimestamp = none) :
    (controller.reconcile settings now name).2.cluster.Peaceful name stored := by
  obtain ⟨confined, _⟩ :=
    confined_reconcile settings now peaceful.orderly peaceful.found peaceful.unspaced
  obtain ⟨orderly, within⟩ := confined peaceful.orderly
  exact ⟨within.failures.trans peaceful.calm, orderly, found, unspaced, live⟩

theorem rests (adopted : profile.hasFinalizer = true) (steady : settings.Steady profile)
    (now : Timestamp) : ∃ status,
      (controller.reconcile settings now name).2.cluster.Peaceful name { profile with status } ∧
      Profile.Rests settings (controller.reconcile settings now name).2.cluster
        { profile with status } := by
  obtain rfl : profile.name = name := Profile.name_of_metadata peaceful.named
  have counted : controller.counted.cluster.Peaceful profile.name profile := peaceful
  obtain ⟨status, stored, rests⟩ := rests_reconcileProfile counted.own counted.live adopted steady
    counted.calm counted.orderly counted.found now
  have cluster := (Controller.reconcile_passed settings now profile.name controller).2.1
  rw [← peaceful.passed settings now, ← cluster] at stored rests
  exact ⟨status, peaceful.later settings now stored peaceful.unspaced peaceful.live, rests⟩

theorem adopts (settings : Settings) (unknown : profile.hasFinalizer = false) (now : Timestamp) :
    ∃ status, (controller.reconcile settings now name).2.cluster.Peaceful name
      { profile.addFinalizer with status } := by
  obtain rfl : profile.name = name := Profile.name_of_metadata peaceful.named
  have counted : controller.counted.cluster.Peaceful profile.name profile := peaceful
  obtain ⟨status, stored⟩ := peek_adopt settings now counted.named counted.unspaced counted.live
    counted.calm counted.orderly counted.found
  have cluster := (Controller.reconcile_passed settings now profile.name controller).2.1
  rw [← reconcileProfile_unknown now peaceful.live unknown, ← peaceful.passed settings now,
    ← cluster] at stored
  exact ⟨status, peaceful.later settings now stored peaceful.unspaced peaceful.live⟩

theorem reconcile_resting (adopted : profile.hasFinalizer = true)
    (rests : profile.Rests settings controller.cluster) (now : Timestamp) :
    (controller.reconcile settings now name).2.cluster = controller.cluster ∧
    (settings.Serves profile → (controller.reconcile settings now name).1 = .ok .done ∧
      (controller.reconcile settings now name).2.events = controller.events) := by
  have counted : profile.Rests settings controller.counted.cluster := rests
  obtain ⟨result, after, run, same, served⟩ :=
    counted.run peaceful.live adopted peaceful.calm now
  obtain ⟨ended, cluster, events⟩ := Controller.reconcile_passed settings now name controller
  rw [peaceful.passed settings now, run] at ended cluster events
  exact ⟨cluster.trans same, fun serves =>
    ⟨ended.trans (served serves).1, events.trans (served serves).2⟩⟩

theorem reconcileEach_resting (adopted : profile.hasFinalizer = true)
    (rests : profile.Rests settings controller.cluster) (times : List Timestamp) :
    (controller.reconcileEach settings name times).2.cluster = controller.cluster ∧
    (settings.Serves profile →
      (controller.reconcileEach settings name times).1 = times.map (fun _ => .ok .done) ∧
      (controller.reconcileEach settings name times).2.events = controller.events) := by
  induction times generalizing controller with
  | nil => exact ⟨rfl, fun _ => ⟨rfl, rfl⟩⟩
  | cons now later ih =>
    obtain ⟨same, served⟩ := peaceful.reconcile_resting adopted rests now
    obtain ⟨last, dones⟩ := ih (same ▸ peaceful) (same ▸ rests)
    refine ⟨last.trans same, fun serves => ?_⟩
    obtain ⟨done, quiet⟩ := served serves
    obtain ⟨rest, silent⟩ := dones serves
    refine ⟨?_, silent.trans quiet⟩
    rw [Controller.reconcileEach, List.map_cons, ← rest, ← done]

/-- From the first pass on over an adopted profile, what is stored of it is at rest. -/
theorem reconcileEach_rests (adopted : profile.hasFinalizer = true)
    (steady : settings.Steady profile) {times : List Timestamp} (passes : times ≠ []) :
    ∃ status, let after := (controller.reconcileEach settings name times).2
      after.cluster.Peaceful name { profile with status } ∧
      Profile.Rests settings after.cluster { profile with status } := by
  cases times with
  | nil => exact absurd rfl passes
  | cons now later =>
    obtain ⟨status, still, rests⟩ := peaceful.rests adopted steady now
    obtain ⟨same, _⟩ := still.reconcileEach_resting adopted rests later
    rw [Controller.reconcileEach]
    dsimp only
    rw [same]
    exact ⟨status, still, rests⟩

end Cluster.Peaceful

theorem Settings.Steady.rewritten (steady : settings.Steady profile)
    (finalizers : Option (List String)) (status : Option ProfileStatus) :
    settings.Steady { profile with metadata := { profile.metadata with finalizers }, status } :=
  fun others other => (steady others other).trans (steady finalizers status).symm

theorem Settings.Serves.rewritten (serves : settings.Serves profile)
    (steady : settings.Steady profile) (finalizers : Option (List String))
    (status : Option ProfileStatus) :
    settings.Serves { profile with metadata := { profile.metadata with finalizers }, status } :=
  ⟨(steady finalizers status).trans serves.valid, serves.served⟩

theorem Settings.steady_default (profile : Profile) : ({} : Settings).Steady profile :=
  fun _ _ => rfl

end Passes

/-- Where nothing is made to fail and every object sits under its own key, passes over a live profile
come to rest, be it refused, paused, impossible to derive components from, or rolled out. If it
carries the finalizer, then one pass is enough, and else two are. However many passes follow, they
write nothing. If the profile is accepted, and is paused or its components can be derived, then these
passes also succeed and tell no one. -/
theorem reconcile_quiesces (settings : Settings) (name : String) (controller : Controller)
    (profile : Profile) (calm : controller.cluster.failures = .empty)
    (orderly : controller.cluster.Orderly fun _ => True)
    (found : controller.cluster.peek Profile name = some profile)
    (unspaced : profile.metadata.inNamespace = none)
    (live : profile.metadata.deletionTimestamp = none) (steady : settings.Steady profile)
    (first times : List Timestamp)
    (enough : (if profile.hasFinalizer then 1 else 2) ≤ first.length) :
    let rested := (controller.reconcileEach settings name first).2
    let later := rested.reconcileEach settings name times
    later.2.cluster = rested.cluster ∧
    (settings.Serves profile →
      later.1 = times.map (fun _ => .ok .done) ∧ later.2.events = rested.events) := by
  intro rested later
  have peaceful : controller.cluster.Peaceful name profile :=
    ⟨calm, orderly, found, unspaced, live⟩
  cases adopted : profile.hasFinalizer with
  | true =>
    have passes : first ≠ [] := by
      rintro rfl
      simp [adopted] at enough
    obtain ⟨status, still, rests⟩ := peaceful.reconcileEach_rests adopted steady passes
    obtain ⟨same, served⟩ := still.reconcileEach_resting adopted rests times
    exact ⟨same, fun serves => served (serves.rewritten steady _ status)⟩
  | false =>
    cases first with
    | nil => simp [adopted] at enough
    | cons now more =>
      have passes : more ≠ [] := by
        rintro rfl
        simp [adopted] at enough
      obtain ⟨status, known⟩ := peaceful.adopts settings adopted now
      have carried : profile.addFinalizer.hasFinalizer = true :=
        Profile.hasFinalizer_addFinalizer profile
      obtain ⟨last, still, rests⟩ :=
        known.reconcileEach_rests carried (steady.rewritten _ status) passes
      obtain ⟨same, served⟩ := still.reconcileEach_resting carried rests times
      exact ⟨same, fun serves => served (serves.rewritten steady _ last)⟩

theorem reconcile_quiesces_drifted :
    let controller : Controller := { cluster := drifted }
    let rested := (controller.reconcileEach {} "small" [default]).2
    drifted.Orderly (fun _ => True) ∧ ({} : Settings).Serves smallProfile ∧
    rested.cluster ≠ drifted ∧
    (rested.reconcileEach {} "small" [default, default]).2.cluster = rested.cluster ∧
    (rested.reconcileEach {} "small" [default, default]).1 = [.ok .done, .ok .done] := by
  intro controller rested
  have orderly : drifted.Orderly fun _ => True := (Cluster.Orderly.empty.put rfl).put rfl
  have serves : ({} : Settings).Serves smallProfile :=
    ⟨by decide +kernel, .inr (except_isOk_iff.1 (by decide +kernel))⟩
  obtain ⟨same, served⟩ := reconcile_quiesces {} "small" controller smallProfile rfl orderly rfl rfl
    rfl (Settings.steady_default smallProfile) [default] [default, default] (by decide)
  exact ⟨orderly, serves, by decide +kernel, same, (served serves).1⟩

end NodeTuning
