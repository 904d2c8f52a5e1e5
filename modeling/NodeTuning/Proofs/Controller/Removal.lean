import NodeTuning.Controller.Removal
import NodeTuning.Proofs.Component.Places

/-!
Removing the components of a profile. Main statements: what the deletions leave, that components
which are still there afterwards go with the next collection of garbage, and that the search for
components finds out whether there are any.
-/
namespace NodeTuning
open Steps Cluster.Action

section Components
variable (tunedNamespace profile : String) (cluster : Cluster)

/-- What is left of a cluster once the components of a profile have been deleted. -/
def Cluster.drained : Cluster :=
  let withoutTuned := deletion Tuned cluster (tunedKey tunedNamespace profile)
  let withoutKubelet := deletion KubeletConfig withoutTuned (componentName profile)
  let withoutClass := deletion RuntimeClass withoutKubelet (componentName profile)
  deletion MachineConfig withoutClass (machineConfigName profile)

@[simp] theorem failures_drained :
    (cluster.drained tunedNamespace profile).failures = cluster.failures := by
  simp [Cluster.drained]

/-- The components are gone at once unless deletion is deferred, and nothing else is. -/
theorem peekAny_drained (kind : Kind) (key : String) :
    (cluster.drained tunedNamespace profile).peekAny kind key =
      if cluster.deferredDeletion = false ∧ (kind, key) ∈ componentPlaces tunedNamespace profile
      then none else cluster.peekAny kind key := by
  cases deferred : cluster.deferredDeletion with
  | true => simp [Cluster.drained, Cluster.peekAny_deletion, deferred]
  | false =>
    simp only [Cluster.drained, Cluster.peekAny_deletion, Cluster.deferredDeletion_deletion,
      deferred, componentPlaces, List.mem_cons, Prod.mk.injEq, List.not_mem_nil, or_false,
      Stored.kind_machineConfig, Stored.kind_kubeletConfig, Stored.kind_tuned,
      Stored.kind_runtimeClass, true_and]
    cases kind <;> simp

theorem peek_profile_drained (key : String) :
    (cluster.drained tunedNamespace profile).peek Profile key = cluster.peek Profile key := by
  apply Cluster.peek_congr
  simp [peekAny_drained, componentPlaces]

theorem holdsAny_drained : (cluster.drained tunedNamespace profile).holdsAny
    (componentPlaces tunedNamespace profile) = (cluster.deferredDeletion &&
      cluster.holdsAny (componentPlaces tunedNamespace profile)) := by
  cases deferred : cluster.deferredDeletion with
  | true =>
    apply Cluster.holdsAny_congr
    intro place _
    simp [Cluster.holds, peekAny_drained, deferred]
  | false =>
    apply Cluster.holdsAny_eq_false_iff.2
    intro place member
    simp [Cluster.holds, peekAny_drained, deferred, member]

theorem within_drained : cluster.Within { removes := (· ∈ componentPlaces tunedNamespace profile) }
    (cluster.drained tunedNamespace profile) := by
  have deletes : ∀ {K : Type} [Stored K] [Stored.Lawful K] (before : Cluster) (key : String),
      (Resource.kind K, key) ∈ componentPlaces tunedNamespace profile →
      before.Within { removes := (· ∈ componentPlaces tunedNamespace profile) }
        (deletion K before key) := fun _ _ member => Cluster.Within.deletion member
  unfold Cluster.drained
  refine (deletes _ _ ?_).trans ((deletes _ _ ?_).trans ((deletes _ _ ?_).trans (deletes _ _ ?_)))
    <;> simp [componentPlaces]

theorem marked_of_holds_drained {place : Place}
    (member : place ∈ componentPlaces tunedNamespace profile)
    (left : (cluster.drained tunedNamespace profile).holds place = true) :
    place ∈ (cluster.drained tunedNamespace profile).terminating := by
  rw [Cluster.holds, peekAny_drained] at left
  split at left
  · cases left
  · rename_i there
    have deferred : cluster.deferredDeletion = true := by simpa [member] using there
    simp only [Cluster.drained, Cluster.mem_terminating_deletion,
      Cluster.deferredDeletion_deletion, deferred, Cluster.holds, Cluster.peekAny_deletion]
    simp only [componentPlaces, List.mem_cons, List.not_mem_nil, or_false] at member
    rcases member with rfl | rfl | rfl | rfl <;> simp [left]

theorem holdsAny_collectGarbage_drained :
    (cluster.drained tunedNamespace profile).collectGarbage.holdsAny
      (componentPlaces tunedNamespace profile) = false := by
  rw [Cluster.holdsAny_eq_false_iff]
  intro place member
  obtain ⟨notProfile, notPool⟩ := kind_of_mem_componentPlaces member
  cases left : (cluster.drained tunedNamespace profile).holds place with
  | true =>
    have marked := marked_of_holds_drained _ _ _ member left
    simp [Cluster.holds, Cluster.peekAny_collectGarbage, notProfile, notPool, marked]
  | false =>
    rw [Cluster.holds] at left ⊢
    rw [Cluster.peekAny_collectGarbage]
    split
    · rfl
    · exact left

theorem gives_deleteComponents :
    Gives (cluster.failures ≠ .empty) (deleteComponents tunedNamespace profile) cluster ()
      (cluster.drained tunedNamespace profile) := by
  unfold deleteComponents
  apply (gives_ensureDeleted Tuned rfl _).bind
  apply (gives_ensureDeleted KubeletConfig (by simp) _).bind
  apply (gives_ensureDeleted RuntimeClass (by simp) _).bind
  exact gives_ensureDeleted MachineConfig (by simp) _

theorem keeps_deleteComponents {relation : Cluster → Cluster → Prop} [IsPreorder Cluster relation]
    (deletes : ∀ (K : Type) [Stored K] [Stored.Lawful K] (key : String),
      (Resource.kind K, key) ∈ componentPlaces tunedNamespace profile →
        Keeps relation (ensureDeleted K key)) :
    Keeps relation (deleteComponents tunedNamespace profile) := by
  unfold deleteComponents
  refine Keeps.bind (deletes Tuned _ ?_) fun _ => ?_
  · simp [componentPlaces]
  refine Keeps.bind (deletes KubeletConfig _ ?_) fun _ => ?_
  · simp [componentPlaces]
  refine Keeps.bind (deletes RuntimeClass _ ?_) fun _ => ?_
  · simp [componentPlaces]
  apply deletes MachineConfig _
  simp [componentPlaces]

private theorem gives_isStored {K : Type} [Stored K] [Stored.Lawful K] (key : String) :
    Gives (cluster.failures ≠ .empty) (isStored K key) cluster
      (cluster.holds (Resource.kind K, key)) cluster := by
  unfold isStored
  rw [map_eq_pure_bind, Cluster.holds, Cluster.isSome_peekAny]
  have calm : cluster.failures = .empty → cluster.check .get (Resource.kind K) = .ok () :=
    fun calm => Cluster.check_of_calm calm _ _
  exact ((gives_find? K cluster key).imp (mt calm)).bind (.inl rfl)

private theorem gives_search {K : Type} [Stored K] [Stored.Lawful K] (key : String)
    {rest : Cluster.Action Bool} {places : List Place}
    (later : Gives (cluster.failures ≠ .empty) rest cluster (cluster.holdsAny places) cluster) :
    Gives (cluster.failures ≠ .empty)
      (isStored K key >>= fun found => if found then pure true else rest) cluster
      (cluster.holdsAny ((Resource.kind K, key) :: places)) cluster := by
  apply (gives_isStored cluster key).bind
  rw [Cluster.holdsAny, List.any_cons]
  cases cluster.holds (Resource.kind K, key) with
  | true => exact .inl rfl
  | false => exact later

theorem gives_componentsExist :
    Gives (cluster.failures ≠ .empty) (componentsExist tunedNamespace profile) cluster
      (cluster.holdsAny (componentPlaces tunedNamespace profile)) cluster := by
  have order : cluster.holdsAny (componentPlaces tunedNamespace profile) = cluster.holdsAny [
      (.tuned, tunedKey tunedNamespace profile), (.kubeletConfig, componentName profile),
      (.runtimeClass, componentName profile), (.machineConfig, machineConfigName profile)] := by
    simp only [Cluster.holdsAny, componentPlaces, List.any_cons, List.any_nil, Bool.or_false]
    ac_rfl
  have last := gives_isStored (K := MachineConfig) cluster (machineConfigName profile)
  rw [order]
  unfold componentsExist
  refine gives_search cluster _ (gives_search cluster _ (gives_search cluster _ ?_))
  simpa only [Cluster.holdsAny, List.any_cons, List.any_nil, Bool.or_false,
    Stored.kind_machineConfig] using last

end Components
end NodeTuning
