import NodeTuning.Proofs.Controller.Reporting
import NodeTuning.Proofs.Object.Query

/-!
Which pools a query finds, and which ones a profile looks at. Main statements: a query finds the
pools with all labels that it was written for, and a profile looks at the stored pools that carry
one of its labels, if queries can carry these.
-/
namespace NodeTuning

/-- The pool has one of the labels. -/
def MachineConfigPool.Carries (pool : MachineConfigPool) (labels : Labels) : Prop :=
  ∃ label ∈ labels.entries, (Resource.labels pool).find? label.1 = some label.2

namespace Cluster
variable {cluster : Cluster} {labels : Labels} {pool : MachineConfigPool}

/-- Every pool sits under its own name, as one of a kind that has no namespaces. -/
def PoolsNamed (cluster : Cluster) : Prop :=
  ∀ key pool, cluster.peek MachineConfigPool key = some pool →
    pool.metadata.name = some key ∧ pool.metadata.inNamespace = none

def HoldsPool (cluster : Cluster) (pool : MachineConfigPool) : Prop :=
  ∃ key, cluster.peek MachineConfigPool key = some pool

theorem PoolsNamed.of_orderly {kinds : Kind → Prop} (orderly : cluster.Orderly kinds)
    (managed : kinds .machineConfigPool)
    (unspaced : ∀ key pool, cluster.peek MachineConfigPool key = some pool →
      pool.metadata.inNamespace = none) : cluster.PoolsNamed :=
  fun key pool found =>
    ⟨orderly.name_of_stored managed found (unspaced key pool found), unspaced key pool found⟩

theorem unspaced_put (unspaced : ∀ key other, cluster.peek MachineConfigPool key = some other →
      other.metadata.inNamespace = none) (own : pool.metadata.inNamespace = none) :
    ∀ key other, (cluster.put pool).peek MachineConfigPool key = some other →
      other.metadata.inNamespace = none := by
  intro key other found
  rw [peek_put] at found
  split at found
  · cases found
    exact own
  · exact unspaced key other found

theorem displayName_of_peek (named : cluster.PoolsNamed) {key : String}
    (found : cluster.peek MachineConfigPool key = some pool) :
    Resource.displayName pool = key := by
  have name : pool.metadata.name = some key := (named key pool found).1
  simp [Resource.displayName, Resource.metadata, name]

theorem mem_poolsWith {label : String × String} (queryable : Queryable label) :
    pool ∈ cluster.poolsWith label ↔
      cluster.HoldsPool pool ∧ (Resource.labels pool).find? label.1 = some label.2 := by
  have stored : pool ∈ cluster.pools.values ↔ cluster.HoldsPool pool :=
    cluster.pools.mem_values_iff pool
  rw [poolsWith, List.mem_filter, stored]
  exact and_congr_right fun _ => LabelSelector.selects_query queryable _

private theorem mem_named_iff {pools : List MachineConfigPool} {key : String} :
    (key, pool) ∈ pools.map (fun pool => (Resource.displayName pool, pool)) ↔
      pool ∈ pools ∧ Resource.displayName pool = key := by
  rw [List.mem_map]
  constructor
  · rintro ⟨other, member, same⟩
    obtain ⟨shown, rfl⟩ := Prod.mk.inj same
    exact ⟨member, shown⟩
  · rintro ⟨member, rfl⟩
    exact ⟨pool, member, rfl⟩

theorem mem_flatMap_poolsWith (queryable : ∀ label ∈ labels.entries, Queryable label) :
    pool ∈ labels.entries.flatMap cluster.poolsWith ↔
      cluster.HoldsPool pool ∧ pool.Carries labels := by
  rw [List.mem_flatMap]
  constructor
  · rintro ⟨label, member, among⟩
    obtain ⟨held, carried⟩ := (mem_poolsWith (queryable label member)).1 among
    exact ⟨held, label, member, carried⟩
  · rintro ⟨held, label, member, carried⟩
    exact ⟨label, member, (mem_poolsWith (queryable label member)).2 ⟨held, carried⟩⟩

/-- A pool is stored under the name that it shows, so two with one name are the same. -/
theorem eq_of_displayName_eq (named : cluster.PoolsNamed) {other : MachineConfigPool}
    (held : cluster.HoldsPool pool) (heldToo : cluster.HoldsPool other)
    (same : Resource.displayName pool = Resource.displayName other) : pool = other := by
  obtain ⟨place, found⟩ := held
  obtain ⟨elsewhere, there⟩ := heldToo
  rw [displayName_of_peek named found, displayName_of_peek named there] at same
  rw [same, there] at found
  exact (Option.some.inj found).symm

theorem mem_poolsFor (named : cluster.PoolsNamed)
    (queryable : ∀ label ∈ labels.entries, Queryable label) :
    pool ∈ cluster.poolsFor labels ↔ cluster.HoldsPool pool ∧ pool.Carries labels := by
  have functional : ∀ key first second,
      (key, first) ∈ (labels.entries.flatMap cluster.poolsWith).map
        (fun pool => (Resource.displayName pool, pool)) →
      (key, second) ∈ (labels.entries.flatMap cluster.poolsWith).map
        (fun pool => (Resource.displayName pool, pool)) → first = second := by
    intro key first second one two
    obtain ⟨among, shown⟩ := mem_named_iff.1 one
    obtain ⟨amongToo, shownToo⟩ := mem_named_iff.1 two
    exact eq_of_displayName_eq named ((mem_flatMap_poolsWith queryable).1 among).1
      ((mem_flatMap_poolsWith queryable).1 amongToo).1 (shown.trans shownToo.symm)
  rw [poolsFor, SortedMap.mem_values_iff]
  simp only [← SortedMap.mem_entries_iff, SortedMap.mem_entries_ofList functional, mem_named_iff,
    mem_flatMap_poolsWith queryable, exists_and_left, exists_eq', and_true]

end Cluster

/-- A pool of worker nodes with the label that its role gives it. -/
def workerPool : MachineConfigPool where
  metadata := { name := some "worker", labels := some (SortedMap.empty.insert roleLabel "worker") }
  spec := ⟨none, none, false⟩
  status := none

/-- A query is read as the labels that it was written for. So it lists exactly the pools that these
labels select, in the order of their keys, and all pools if there are no labels. -/
theorem query_lists_selected (labels : Labels)
    (queryable : ∀ label ∈ labels.entries, Queryable label) :
    let selector := LabelSelector.ofLabels labels
    LabelSelector.labelsOfQuery selector.query = labels ∧
    ∀ cluster : Cluster, cluster.check .list .machineConfigPool = .ok () →
      let selected := cluster.pools.entries.filter fun entry =>
        selector.selects (Resource.labels entry.2)
      cluster.listPools selector.query = .ok (selected.map Prod.snd) ∧
      selected.Pairwise (fun one two => one.1 < two.1) ∧
      (labels = .empty → cluster.listPools selector.query = .ok cluster.pools.values) := by
  intro selector
  have read : LabelSelector.labelsOfQuery selector.query = labels :=
    LabelSelector.labelsOfQuery_query queryable
  refine ⟨read, ?_⟩
  intro cluster listable selected
  have listed : cluster.listPools selector.query = .ok (selected.map Prod.snd) := by
    rw [Cluster.listPools, listable, read]
    exact congrArg Except.ok List.filter_map
  refine ⟨listed, cluster.pools.sorted.filter _, fun empty => ?_⟩
  have all : selected = cluster.pools.entries := by
    apply List.filter_eq_self.2
    intro entry _
    exact LabelSelector.selects_ofLabels_iff.2 fun label member => by
      rw [empty] at member
      cases member
  rw [listed, all]
  rfl

/-- Labels with an empty key, an empty value and a value with an equals sign. -/
def oddLabels : Labels := (SortedMap.empty.insert "" "").insert "tier" "a=b"

theorem query_lists_selected_odd :
    let cluster : Cluster := (Cluster.put {} workerPool).put
      { workerPool with metadata := { name := some "odd", labels := some oddLabels } }
    (∀ label ∈ oddLabels.entries, Queryable label) ∧
    (LabelSelector.ofLabels oddLabels).query = "=,tier=a=b" ∧
    LabelSelector.labelsOfQuery (LabelSelector.ofLabels oddLabels).query = oddLabels ∧
    (cluster.listPools (LabelSelector.ofLabels oddLabels).query).map
      (List.map Resource.displayName) = .ok ["odd"] := by
  intro cluster
  have queryable : ∀ label ∈ oddLabels.entries, Queryable label := by
    have entries : oddLabels.entries = [("", ""), ("tier", "a=b")] := by decide +kernel
    rw [entries, List.forall_mem_cons, List.forall_mem_singleton]
    constructor <;> constructor <;> decide +kernel
  obtain ⟨read, lists⟩ := query_lists_selected oddLabels queryable
  refine ⟨queryable, by decide +kernel, read, ?_⟩
  rw [(lists cluster rfl).1]
  decide +kernel

namespace Profile

theorem poolLabels_small :
    smallProfile.poolLabels = .ok (SortedMap.empty.insert roleLabel "worker") := by
  decide +kernel

theorem queryable_small {labels : Labels} (labelled : smallProfile.poolLabels = .ok labels) :
    ∀ label ∈ labels.entries, Queryable label := by
  rw [poolLabels_small] at labelled
  cases labelled
  refine List.forall_mem_singleton.2 ⟨?_, ?_, ?_, ?_, ?_⟩ <;> decide +kernel

end Profile
end NodeTuning
