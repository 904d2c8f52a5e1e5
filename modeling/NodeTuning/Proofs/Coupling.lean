import NodeTuning.Proofs.Cluster.Outcome

/-!
Two runs side by side. Steps are coupled if from related states they come to the same result and to
related states again. Main statement: a sequence is coupled once its steps are.
-/
namespace NodeTuning

namespace Steps
variable {ε σ α β : Type} {before middle after : σ → σ → Prop}

def Couples (before after : σ → σ → Prop) (first second : Steps ε σ α) : Prop :=
  ∀ one two, before one two →
    (first.run one).1 = (second.run two).1 ∧ after (first.run one).2 (second.run two).2

namespace Couples

theorem pure (value : α) (ends : ∀ one two, before one two → after one two) :
    Couples before after (Pure.pure value : Steps ε σ α) (Pure.pure value) :=
  fun one two related => ⟨rfl, ends one two related⟩

theorem throw (fault : ε) (ends : ∀ one two, before one two → after one two) :
    Couples before after (MonadExcept.throw fault : Steps ε σ α) (MonadExcept.throw fault) :=
  fun one two related => ⟨rfl, ends one two related⟩

theorem imp {before' after' : σ → σ → Prop} {first second : Steps ε σ α}
    (couples : Couples before after first second)
    (starts : ∀ one two, before' one two → before one two)
    (ends : ∀ one two, after one two → after' one two) : Couples before' after' first second := by
  intro one two related
  obtain ⟨same, reached⟩ := couples one two (starts one two related)
  exact ⟨same, ends _ _ reached⟩

/-- The rest may rely on what the first run came to. -/
theorem bind_of {first second : Steps ε σ α} {next later : α → Steps ε σ β}
    (head : Couples before middle first second)
    (rest : ∀ one two value reached, before one two → first.run one = (.ok value, reached) →
      Couples middle after (next value) (later value))
    (ends : ∀ one two, middle one two → after one two) :
    Couples before after (first >>= next) (second >>= later) := by
  intro one two related
  obtain ⟨same, reached⟩ := head one two related
  obtain ⟨value, last, run, whole⟩ | ⟨fault, last, run, whole⟩ := run_bind_cases first next one
  · rw [run] at same reached
    have other : second.run two = (.ok value, (second.run two).2) := Prod.ext same.symm rfl
    rw [whole, run_bind_ok other]
    exact rest one two value last related run last _ reached
  · rw [run] at same reached
    have other : second.run two = (.error fault, (second.run two).2) := Prod.ext same.symm rfl
    rw [whole, run_bind_error other]
    exact ⟨rfl, ends _ _ reached⟩

theorem bind {first second : Steps ε σ α} {next later : α → Steps ε σ β}
    (head : Couples before middle first second)
    (rest : ∀ value, Couples middle after (next value) (later value))
    (ends : ∀ one two, middle one two → after one two) :
    Couples before after (first >>= next) (second >>= later) :=
  bind_of head (fun _ _ value _ _ _ => rest value) ends

end Couples

/-- Both runs succeed, with whatever values, or fail alike. -/
def CouplesSilently (before after : σ → σ → Prop) (first second : Steps ε σ α) : Prop :=
  ∀ one two, before one two →
    (first.run one).1.map (fun _ => ()) = (second.run two).1.map (fun _ => ()) ∧
      after (first.run one).2 (second.run two).2

theorem CouplesSilently.bind {first second : Steps ε σ α} {next later : Steps ε σ β}
    (head : CouplesSilently before middle first second) (rest : Couples middle after next later)
    (ends : ∀ one two, middle one two → after one two) :
    Couples before after (first >>= fun _ => next) (second >>= fun _ => later) := by
  intro one two related
  obtain ⟨same, reached⟩ := head one two related
  cases run : first.run one with
  | mk result last =>
    cases other : second.run two with
    | mk result' last' =>
      rw [run, other] at same reached
      cases result with
      | ok value =>
        cases result' with
        | ok value' =>
          rw [run_bind_ok run, run_bind_ok other]
          exact rest last last' reached
        | error fault => cases same
      | error fault =>
        cases result' with
        | ok value' => cases same
        | error fault' =>
          cases same
          rw [run_bind_error run, run_bind_error other]
          exact ⟨rfl, ends last last' reached⟩

end Steps

/-- What two controllers have in common for a profile, given what their clusters have. -/
structure Controller.Alike (name : String) (relation : Cluster → Cluster → Prop)
    (one two : Controller) : Prop where
  cluster : relation one.cluster two.cluster
  events : (one.events.filter fun event => event.profile = name) =
    two.events.filter fun event => event.profile = name
  retry : one.retries.find? name = two.retries.find? name

section Writes
open Steps Cluster.Action
variable {α : Type} {before after : Cluster → Cluster → Prop}
variable {first second : Cluster → Except ClusterError (α × Cluster)}

theorem couples_ofWrite (each : ∀ one two, before one two →
    (∃ fault, first one = .error fault ∧ second two = .error fault ∧ after one two) ∨
    ∃ value later later', first one = .ok (value, later) ∧ second two = .ok (value, later') ∧
      after later later') : Couples before after (ofWrite first) (ofWrite second) := by
  intro one two related
  obtain ⟨fault, failed, failed', ends⟩ | ⟨value, later, later', ok, ok', ends⟩ :=
    each one two related
  · rw [run_ofWrite_error failed, run_ofWrite_error failed']
    exact ⟨rfl, ends⟩
  · rw [run_ofWrite_ok ok, run_ofWrite_ok ok']
    exact ⟨rfl, ends⟩

theorem couplesSilently_ofWrite (each : ∀ one two, before one two →
    (∃ fault, first one = .error fault ∧ second two = .error fault ∧ after one two) ∨
    ∃ value value' later later', first one = .ok (value, later) ∧
      second two = .ok (value', later') ∧ after later later') :
    CouplesSilently before after (ofWrite first) (ofWrite second) := by
  intro one two related
  obtain ⟨fault, failed, failed', ends⟩ | ⟨value, value', later, later', ok, ok', ends⟩ :=
    each one two related
  · rw [run_ofWrite_error failed, run_ofWrite_error failed']
    exact ⟨rfl, ends⟩
  · rw [run_ofWrite_ok ok, run_ofWrite_ok ok']
    exact ⟨rfl, ends⟩

end Writes

namespace Pass
open Steps Controller
variable {α : Type} {name : String} {before after : Cluster → Cluster → Prop}

theorem couples_onClusterAs {wrap : ClusterError → ControllerError}
    {first second : Cluster.Action α} (couples : Couples before after first second) :
    Couples (Alike name before) (Alike name after) (onClusterAs wrap first)
      (onClusterAs wrap second) := by
  intro one two alike
  obtain ⟨same, reached⟩ := couples one.cluster two.cluster alike.cluster
  rw [run_onClusterAs, run_onClusterAs, same]
  exact ⟨rfl, reached, alike.events, alike.retry⟩

theorem couples_onCluster {first second : Cluster.Action α}
    (couples : Couples before after first second) :
    Couples (Alike name before) (Alike name after) (onCluster first) (onCluster second) :=
  couples_onClusterAs couples

theorem couplesSilently_onCluster {first second : Cluster.Action α}
    (couples : CouplesSilently before after first second) :
    CouplesSilently (Alike name before) (Alike name after) (onCluster first)
      (onCluster second) := by
  intro one two alike
  obtain ⟨same, reached⟩ := couples one.cluster two.cluster alike.cluster
  rw [run_onCluster, run_onCluster]
  refine ⟨?_, reached, alike.events, alike.retry⟩
  generalize (first.run one.cluster).1 = left at same ⊢
  generalize (second.run two.cluster).1 = right at same ⊢
  cases left <;> cases right <;> simp_all [Except.map]

theorem couples_attemptOnCluster {first second : Cluster.Action α}
    (couples : Couples before after first second) :
    Couples (Alike name before) (Alike name after) (attemptOnCluster first)
      (attemptOnCluster second) := by
  intro one two alike
  obtain ⟨same, reached⟩ := couples one.cluster two.cluster alike.cluster
  rw [run_attemptOnCluster, run_attemptOnCluster, same]
  exact ⟨rfl, reached, alike.events, alike.retry⟩

theorem couples_attempt {before after : Controller → Controller → Prop} {first second : Pass α}
    (couples : Couples before after first second) :
    Couples before after (attempt first) (attempt second) := by
  intro one two related
  obtain ⟨same, reached⟩ := couples one two related
  rw [run_attempt, run_attempt, same]
  exact ⟨rfl, reached⟩

theorem couples_ofSynthesis {before : Controller → Controller → Prop}
    (result : Except SynthesisError α) :
    Couples before before (ofSynthesis result) (ofSynthesis result) :=
  fun _ _ related => ⟨rfl, related⟩

theorem couples_tell (profile : Profile) (severity : Severity) (reason message : String) :
    Couples (Alike name before) (Alike name before) (tell profile severity reason message)
      (tell profile severity reason message) := by
  intro one two alike
  refine ⟨rfl, alike.cluster, ?_, alike.retry⟩
  rw [run_tell, run_tell, List.filter_append, List.filter_append, alike.events]

theorem couples_forgetRetry (other : String) :
    Couples (Alike name before) (Alike name before) (change (·.forgetRetry other))
      (change (·.forgetRetry other)) := by
  intro one two alike
  refine ⟨rfl, alike.cluster, alike.events, ?_⟩
  change (one.retries.erase other).find? name = (two.retries.erase other).find? name
  rw [SortedMap.find?_erase, SortedMap.find?_erase, alike.retry]

end Pass

theorem Controller.Alike.imp {name : String} {relation weaker : Cluster → Cluster → Prop}
    {one two : Controller} (alike : Controller.Alike name relation one two)
    (implies : ∀ one two, relation one two → weaker one two) :
    Controller.Alike name weaker one two :=
  ⟨implies _ _ alike.cluster, alike.events, alike.retry⟩

end NodeTuning
