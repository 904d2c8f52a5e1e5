import NodeTuning.Controller.State
import Mathlib.Order.Defs.Unbundled

/-!
Runs of sequences of steps that may end early. A relation that is reflexive and transitive holds
between the states before and after a sequence once it holds for each step, whatever fails.
-/
namespace NodeTuning

theorem except_bind_eq_ok_iff {ε α β : Type} (first : Except ε α) (next : α → Except ε β)
    (result : β) : (first >>= next) = .ok result ↔
      ∃ value, first = .ok value ∧ next value = .ok result := by
  cases first <;> simp [bind, Except.bind]

theorem except_isOk_iff {ε α : Type} {result : Except ε α} :
    result.isOk = true ↔ ∃ value, result = .ok value := by
  cases result with
  | error fault => exact ⟨nofun, nofun⟩
  | ok value => exact ⟨fun _ => ⟨value, rfl⟩, fun _ => rfl⟩

@[simp] theorem except_mapError_ok {ε ε' α : Type} (wrap : ε → ε') (value : α) :
    (Except.ok value).mapError wrap = .ok value := rfl

@[simp] theorem except_mapError_error {ε ε' α : Type} (wrap : ε → ε') (fault : ε) :
    (Except.error fault : Except ε α).mapError wrap = .error (wrap fault) := rfl

/-- A sequence of steps on a state. What was done before a failure stays done. -/
abbrev Steps (ε σ α : Type) := ExceptT ε (StateM σ) α

namespace Steps
variable {ε σ α β : Type}

theorem run_bind_ok {first : Steps ε σ α} {start middle : σ} {value : α}
    (ok : first.run start = (.ok value, middle)) (next : α → Steps ε σ β) :
    (first >>= next).run start = (next value).run middle := by
  change ExceptT.bindCont next (first.run start).1 (first.run start).2 = _
  rw [ok]
  rfl

theorem run_bind_error {first : Steps ε σ α} {start middle : σ} {fault : ε}
    (failed : first.run start = (.error fault, middle)) (next : α → Steps ε σ β) :
    (first >>= next).run start = (.error fault, middle) := by
  change ExceptT.bindCont next (first.run start).1 (first.run start).2 = _
  rw [failed]
  rfl

theorem run_bind_cases (first : Steps ε σ α) (next : α → Steps ε σ β) (start : σ) :
    (∃ value middle, first.run start = (.ok value, middle) ∧
      (first >>= next).run start = (next value).run middle) ∨
    (∃ fault middle, first.run start = (.error fault, middle) ∧
      (first >>= next).run start = (.error fault, middle)) := by
  cases run : first.run start with
  | mk result middle =>
    cases result with
    | ok value => exact .inl ⟨value, middle, rfl, run_bind_ok run next⟩
    | error fault => exact .inr ⟨fault, middle, rfl, run_bind_error run next⟩

theorem run_bind_eq_ok_iff {first : Steps ε σ α} {next : α → Steps ε σ β} {start after : σ}
    {result : β} : (first >>= next).run start = (.ok result, after) ↔
      ∃ value middle, first.run start = (.ok value, middle) ∧
        (next value).run middle = (.ok result, after) := by
  obtain ⟨value, middle, run, whole⟩ | ⟨fault, middle, run, whole⟩ :=
    run_bind_cases first next start
  · rw [whole]
    constructor
    · exact fun later => ⟨value, middle, run, later⟩
    · rintro ⟨other, reached, same, later⟩
      rw [run] at same
      cases same
      exact later
  · rw [whole]
    constructor
    · intro impossible
      cases impossible
    · rintro ⟨other, reached, same, _⟩
      rw [run] at same
      cases same

/-- The steps give a value and end in a state, or they fail, which takes a disturbance. -/
def Gives (disturbed : Prop) (steps : Steps ε σ α) (start : σ) (value : α) (after : σ) : Prop :=
  steps.run start = (.ok value, after) ∨
    disturbed ∧ ∃ fault last, steps.run start = (.error fault, last)

namespace Gives
variable {disturbed : Prop} {start middle after : σ} {value : α} {result : β}

theorem bind {first : Steps ε σ α} {next : α → Steps ε σ β}
    (head : Gives disturbed first start value middle)
    (rest : Gives disturbed (next value) middle result after) :
    Gives disturbed (first >>= next) start result after := by
  rcases head with run | ⟨disturbance, fault, last, run⟩
  · unfold Gives
    rw [run_bind_ok run]
    exact rest
  · exact .inr ⟨disturbance, fault, last, run_bind_error run next⟩

theorem imp {other : Prop} {steps : Steps ε σ α}
    (gives : Gives disturbed steps start value after) (weaker : disturbed → other) :
    Gives other steps start value after :=
  Or.imp_right (And.imp_left weaker) gives

end Gives

theorem run_forM_ok {γ : Type} {invariant : σ → Prop} {step : γ → Steps ε σ PUnit}
    {items : List γ} (each : ∀ item ∈ items, ∀ start, invariant start →
      ∃ after, (step item).run start = (.ok ⟨⟩, after) ∧ invariant after)
    {start : σ} (holds : invariant start) :
    ∃ after, (items.forM step).run start = (.ok ⟨⟩, after) ∧ invariant after := by
  induction items generalizing start with
  | nil => exact ⟨start, rfl, holds⟩
  | cons item rest ih =>
    obtain ⟨middle, run, still⟩ := each item (by simp) start holds
    obtain ⟨after, later, last⟩ := ih (fun other member => each other (by simp [member])) still
    exact ⟨after, (run_bind_ok run fun _ => rest.forM step).trans later, last⟩

/-- Whatever comes of the steps, the states before and after them are related. -/
def Keeps (relation : σ → σ → Prop) (steps : Steps ε σ α) : Prop :=
  ∀ start, relation start (steps.run start).2

namespace Keeps

theorem anything (steps : Steps ε σ α) : Keeps (fun _ _ => True) steps := fun _ => trivial

variable {relation : σ → σ → Prop} [IsPreorder σ relation]

theorem pure (value : α) : Keeps relation (Pure.pure value : Steps ε σ α) :=
  fun start => refl start

theorem throw (fault : ε) : Keeps relation (MonadExcept.throw fault : Steps ε σ α) :=
  fun start => refl start

theorem bind_of {first : Steps ε σ α} {next : α → Steps ε σ β} (head : Keeps relation first)
    (rest : ∀ start value middle, first.run start = (.ok value, middle) →
      Keeps relation (next value)) : Keeps relation (first >>= next) := by
  intro start
  have reached := head start
  obtain ⟨value, middle, run, whole⟩ | ⟨fault, middle, run, whole⟩ :=
    run_bind_cases first next start
  · rw [run] at reached
    rw [whole]
    exact IsTrans.trans _ _ _ reached (rest start value middle run middle)
  · rw [run] at reached
    rw [whole]
    exact reached

theorem bind {first : Steps ε σ α} {next : α → Steps ε σ β} (head : Keeps relation first)
    (rest : ∀ value, Keeps relation (next value)) : Keeps relation (first >>= next) :=
  bind_of head fun _ value _ _ => rest value

theorem forM {γ : Type} {step : γ → Steps ε σ PUnit} {items : List γ}
    (each : ∀ item ∈ items, Keeps relation (step item)) : Keeps relation (items.forM step) := by
  induction items with
  | nil => exact pure _
  | cons item rest ih =>
    change Keeps relation (step item >>= fun _ => rest.forM step)
    exact bind (each item (by simp)) fun _ => ih fun other member => each other (by simp [member])

end Keeps

/-- The relation between states of which the first one satisfies an invariant. The second one then
satisfies it too. -/
def Guarded (invariant : σ → Prop) (relation : σ → σ → Prop) (before after : σ) : Prop :=
  invariant before → invariant after ∧ relation before after

instance (invariant : σ → Prop) (relation : σ → σ → Prop) [IsPreorder σ relation] :
    IsPreorder σ (Guarded invariant relation) where
  refl state holds := ⟨holds, refl state⟩
  trans first second third one two holds := by
    obtain ⟨middle, left⟩ := one holds
    obtain ⟨last, right⟩ := two middle
    exact ⟨last, IsTrans.trans _ _ _ left right⟩

/-- An invariant still holds if it did before. -/
def Preserving (invariant : σ → Prop) (before after : σ) : Prop :=
  invariant before → invariant after

instance (invariant : σ → Prop) : IsPreorder σ (Preserving invariant) where
  refl _ := id
  trans _ _ _ first second := second ∘ first

theorem Keeps.guarded {invariant : σ → Prop} {relation : σ → σ → Prop} {steps : Steps ε σ α}
    (kept : ∀ start, invariant start → invariant (steps.run start).2)
    (keeps : Keeps relation steps) : Keeps (Guarded invariant relation) steps :=
  fun start holds => ⟨kept start holds, keeps start⟩

theorem Keeps.bind_guarded {invariant : σ → Prop} {relation : σ → σ → Prop}
    [IsPreorder σ relation] {first : Steps ε σ α} {next : α → Steps ε σ β}
    (head : Keeps (Guarded invariant relation) first)
    (rest : ∀ start value middle, invariant start → first.run start = (.ok value, middle) →
      Keeps (Guarded invariant relation) (next value)) :
    Keeps (Guarded invariant relation) (first >>= next) := by
  intro start holds
  have reached := head start holds
  obtain ⟨value, middle, run, whole⟩ | ⟨fault, middle, run, whole⟩ :=
    run_bind_cases first next start
  · rw [run] at reached
    rw [whole]
    have last := rest start value middle holds run middle reached.1
    exact ⟨last.1, IsTrans.trans _ _ _ reached.2 last.2⟩
  · rw [run] at reached
    rw [whole]
    exact reached

end Steps

namespace Pass
variable {α : Type}
open Steps

theorem run_onClusterAs (wrap : ClusterError → ControllerError) (action : Cluster.Action α)
    (controller : Controller) : (onClusterAs wrap action).run controller =
      ((action.run controller.cluster).1.mapError wrap,
        { controller with cluster := (action.run controller.cluster).2 }) := rfl

theorem run_onCluster (action : Cluster.Action α) (controller : Controller) :
    (onCluster action).run controller = ((action.run controller.cluster).1.mapError .cluster,
      { controller with cluster := (action.run controller.cluster).2 }) := rfl

theorem run_attemptOnCluster (action : Cluster.Action α) (controller : Controller) :
    (attemptOnCluster action).run controller = (.ok (action.run controller.cluster).1,
      { controller with cluster := (action.run controller.cluster).2 }) := rfl

theorem run_attempt (pass : Pass α) (controller : Controller) :
    (attempt pass).run controller = (.ok (pass.run controller).1, (pass.run controller).2) := rfl

theorem run_ofSynthesis (result : Except SynthesisError α) (controller : Controller) :
    (ofSynthesis result).run controller = (result.mapError .synthesis, controller) := rfl

theorem run_tell (profile : Profile) (severity : Severity) (reason message : String)
    (controller : Controller) : (tell profile severity reason message).run controller =
      (.ok (), { controller with
        events := controller.events ++ [⟨profile.name, severity, reason, message⟩] }) := rfl

theorem mapError_eq_ok_iff {ε ε' : Type} {wrap : ε → ε'} {result : Except ε α} {value : α} :
    result.mapError wrap = .ok value ↔ result = .ok value := by
  cases result <;> simp

theorem run_onCluster_eq_ok_iff {action : Cluster.Action α} {controller after : Controller}
    {value : α} : (onCluster action).run controller = (.ok value, after) ↔
      ∃ cluster, action.run controller.cluster = (.ok value, cluster) ∧
        after = { controller with cluster := cluster } := by
  rw [run_onCluster, Prod.mk.injEq, mapError_eq_ok_iff]
  constructor
  · rintro ⟨ok, rfl⟩
    exact ⟨_, Prod.ext ok rfl, rfl⟩
  · rintro ⟨cluster, run, rfl⟩
    rw [run]
    exact ⟨rfl, rfl⟩

def Clusters (relation : Cluster → Cluster → Prop) (before after : Controller) : Prop :=
  relation before.cluster after.cluster

variable {relation : Cluster → Cluster → Prop} [IsPreorder Cluster relation]

instance : IsPreorder Controller (Clusters relation) where
  refl controller := refl controller.cluster
  trans first second third := IsTrans.trans first.cluster second.cluster third.cluster

theorem keeps_bind_guarded {β : Type} {invariant : Cluster → Prop} {first : Pass α}
    {next : α → Pass β} (head : Keeps (Clusters (Guarded invariant relation)) first)
    (rest : ∀ start value middle, invariant start.cluster →
      first.run start = (.ok value, middle) →
      Keeps (Clusters (Guarded invariant relation)) (next value)) :
    Keeps (Clusters (Guarded invariant relation)) (first >>= next) := by
  change Keeps (Guarded (fun controller : Controller => invariant controller.cluster)
    (Clusters relation)) _
  exact Keeps.bind_guarded head rest

omit [IsPreorder Cluster relation] in
theorem keeps_bind_preserving {β : Type} {invariant : Cluster → Prop} {first : Pass α}
    {next : α → Pass β} (head : Keeps (Clusters (Preserving invariant)) first)
    (rest : ∀ start value middle, invariant start.cluster →
      first.run start = (.ok value, middle) →
      Keeps (Clusters (Preserving invariant)) (next value)) :
    Keeps (Clusters (Preserving invariant)) (first >>= next) := by
  have guarded : Keeps (Clusters (Guarded invariant (Preserving invariant))) (first >>= next) := by
    refine keeps_bind_guarded (fun start holds => ⟨head start holds, head start⟩) ?_
    intro start value middle holds run
    have kept := rest start value middle holds run
    exact fun reached still => ⟨kept reached still, kept reached⟩
  exact fun start holds => (guarded start holds).1

/-- A relation between controllers that holds once the clusters are related, and which does not
mind the counters. -/
class Tracks (tracked : Controller → Controller → Prop)
    (relation : outParam (Cluster → Cluster → Prop)) : Prop extends
    IsPreorder Controller tracked where
  cluster (controller : Controller) (cluster : Cluster) :
    relation controller.cluster cluster → tracked controller { controller with cluster }
  metrics (controller : Controller) (metrics : Metrics) :
    tracked controller { controller with metrics }

/-- A relation between controllers that lets users be told of one profile. -/
class Tells (name : String) (tracked : Controller → Controller → Prop) : Prop where
  told (controller : Controller) (event : Event) : event.profile = name →
    tracked controller { controller with events := controller.events ++ [event] }

/-- A relation between controllers that lets the events and the delays of one profile change. -/
class Lets (name : String) (tracked : Controller → Controller → Prop) : Prop
    extends Tells name tracked where
  forgot (controller : Controller) : tracked controller (controller.forgetRetry name)

instance : Tracks (Clusters relation) relation where
  cluster _ _ related := related
  metrics controller _ := refl controller.cluster

instance (name : String) : Lets name (Clusters relation) where
  told controller _ _ := refl controller.cluster
  forgot controller := refl controller.cluster

section Tracked
variable {tracked : Controller → Controller → Prop} [Tracks tracked relation]

omit [IsPreorder Cluster relation] in
theorem keeps_onClusterAs {wrap : ClusterError → ControllerError} {action : Cluster.Action α}
    (kept : Keeps relation action) : Keeps tracked (onClusterAs wrap action) :=
  fun controller => Tracks.cluster controller _ (kept controller.cluster)

omit [IsPreorder Cluster relation] in
theorem keeps_onCluster {action : Cluster.Action α} (kept : Keeps relation action) :
    Keeps tracked (onCluster action) :=
  keeps_onClusterAs kept

omit [IsPreorder Cluster relation] in
theorem keeps_attemptOnCluster {action : Cluster.Action α} (kept : Keeps relation action) :
    Keeps tracked (attemptOnCluster action) :=
  fun controller => Tracks.cluster controller _ (kept controller.cluster)

end Tracked

theorem keeps_ofSynthesis {tracked : Controller → Controller → Prop}
    [IsPreorder Controller tracked] (result : Except SynthesisError α) :
    Keeps tracked (ofSynthesis result) :=
  fun controller => refl controller

/-- Reading leaves the controller as it is. -/
theorem keeps_reading {tracked : Controller → Controller → Prop} [IsPreorder Controller tracked]
    {wrap : ClusterError → ControllerError} {action : Cluster.Action α} (reads : Keeps Eq action) :
    Keeps tracked (onClusterAs wrap action) := by
  intro controller
  change tracked controller { controller with cluster := (action.run controller.cluster).2 }
  rw [← reads controller.cluster]
  exact refl controller

theorem keeps_attempt {tracked : Controller → Controller → Prop} {pass : Pass α}
    (kept : Keeps tracked pass) : Keeps tracked (attempt pass) :=
  fun controller => kept controller

theorem keeps_tell {tracked : Controller → Controller → Prop} (profile : Profile)
    [Tells profile.name tracked] (severity : Severity) (reason message : String) :
    Keeps tracked (tell profile severity reason message) :=
  fun controller => Tells.told controller ⟨profile.name, severity, reason, message⟩ rfl

end Pass
end NodeTuning
