import NodeTuning.Proofs.Controller.PoolVerdict

/-!
The text of a report on pools. Main statement: it is what the stored pools with one of the labels of
the profile have to say, each once and in the order of their names, so it does not depend on how
these pools were come by.
-/
namespace NodeTuning
open Steps Cluster.Action

namespace MachineConfigPool

/-- The first condition of a type, if it holds. -/
def fault? (pool : MachineConfigPool) (type : String) : Option PoolCondition :=
  (pool.condition? type).filter fun condition => condition.status = "True"

/-- The line on one text of a fault. There is none if the text is missing or empty. -/
def lineOn (pool : MachineConfigPool) (type what : String)
    (text? : PoolCondition → Option String) : String :=
  match ((pool.fault? type).bind text?).filter (· ≠ "") with
  | none => ""
  | some text =>
    "Machine config pool " ++ Resource.displayName pool ++ " Degraded " ++ what ++ ": " ++ text ++
      ".\n"

/-- The lines on a degraded node, then those on a failed render. -/
def faultText (pool : MachineConfigPool) : String :=
  pool.lineOn "NodeDegraded" "Reason" PoolCondition.reason ++
    pool.lineOn "NodeDegraded" "Message" PoolCondition.message ++
    pool.lineOn "RenderDegraded" "Reason" PoolCondition.reason ++
    pool.lineOn "RenderDegraded" "Message" PoolCondition.message

theorem join_reportLine (pool what : String) (text : Option String) :
    String.join (reportLine pool what text) = match text.filter (· ≠ "") with
      | none => ""
      | some text => "Machine config pool " ++ pool ++ " Degraded " ++ what ++ ": " ++ text ++
        ".\n" := by
  cases text with
  | none => rfl
  | some text =>
    by_cases empty : text = "" <;> simp [reportLine, empty, Option.filter]

theorem join_faultLines (pool : MachineConfigPool) (type : String) :
    String.join (pool.faultLines type) = pool.lineOn type "Reason" PoolCondition.reason ++
      pool.lineOn type "Message" PoolCondition.message := by
  unfold faultLines lineOn fault?
  cases pool.condition? type with
  | none => rfl
  | some condition =>
    by_cases holds : condition.status = "True"
    · simp only [String.join_append, join_reportLine, Option.filter, holds,
        decide_true, if_true, Option.bind_some]
    · simp [holds, Option.filter]

theorem join_report (pool : MachineConfigPool) : String.join pool.report = pool.faultText := by
  simp only [report, faultConditions, List.flatMap_cons, List.flatMap_nil, List.append_nil,
    String.join_append, join_faultLines, faultText, String.append_assoc]

end MachineConfigPool

theorem degradedPoolsMessage_eq (pools : List MachineConfigPool) :
    degradedPoolsMessage pools = String.join (pools.map MachineConfigPool.faultText) := by
  unfold degradedPoolsMessage
  induction pools with
  | nil => rfl
  | cons pool rest ih =>
    rw [List.flatMap_cons, String.join_append, ih, MachineConfigPool.join_report, List.map_cons,
      String.join_cons]

namespace Cluster

theorem pairwise_poolsFor (cluster : Cluster) (labels : Labels) :
    (cluster.poolsFor labels).Pairwise fun one two =>
      Resource.displayName one < Resource.displayName two :=
  SortedMap.pairwise_values_ofList Resource.displayName _

/-- The cluster after pools have been added, one after the other. -/
def withPools (cluster : Cluster) (pools : List MachineConfigPool) : Cluster :=
  pools.foldl put cluster

theorem withPools_perm (cluster : Cluster) {pools others : List MachineConfigPool}
    (perm : pools.Perm others) (distinct : ∀ one ∈ pools, ∀ two ∈ pools,
      storeKey one = storeKey two → one = two) :
    cluster.withPools pools = cluster.withPools others := by
  apply perm.foldl_eq'
  intro one first two second before
  by_cases same : one = two
  · rw [same]
  · have apart : storeKey one ≠ storeKey two := fun key => same (distinct one first two second key)
    exact congrArg (fun pools => { before with pools }) (before.pools.insert_comm apart one two)

end Cluster

/-- If pools can be listed and all sit under their own names, then the report on the pools of a
profile is made from those with one of its labels, each once and in the order of their names, of
which each gives its lines on a degraded node and then those on a failed render. There is none
exactly if they give no line. The order in which pools were added makes no difference. -/
theorem poolReport_lists_pools (profile : Profile) (labels : Labels) (controller : Controller)
    (labelled : profile.poolLabels = .ok labels)
    (queryable : ∀ label ∈ labels.entries, Queryable label)
    (named : controller.cluster.PoolsNamed)
    (allowed : controller.cluster.check .list .machineConfigPool = .ok ()) :
    (∃ pools : List MachineConfigPool,
      (∀ pool, pool ∈ pools ↔ controller.cluster.HoldsPool pool ∧ pool.Carries labels) ∧
      (pools.Pairwise fun one two => Resource.displayName one < Resource.displayName two) ∧
      let message := String.join (pools.map MachineConfigPool.faultText)
      (poolReport profile).run controller =
        (.ok (if message = "" then none else some (.degraded "MCPDegraded" message)),
          controller)) ∧
    ∀ added others : List MachineConfigPool, added.Perm others →
      (∀ one ∈ added, ∀ two ∈ added, storeKey one = storeKey two → one = two) →
      let reported (pools : List MachineConfigPool) := ((poolReport profile).run
        { controller with cluster := controller.cluster.withPools pools }).1
      reported added = reported others := by
  constructor
  · refine ⟨controller.cluster.poolsFor labels, fun pool => Cluster.mem_poolsFor named queryable,
      controller.cluster.pairwise_poolsFor labels, ?_⟩
    have listable := Cluster.listable_of_check allowed labels.entries
    rw [run_poolReport_eq listable labelled, ← degradedPoolsMessage_eq]
    simp only [String.isEmpty_iff]
  · intro added others perm distinct reported
    simp only [reported, controller.cluster.withPools_perm perm distinct]

/-- A pool with a failed render, of which the reason is known but not the message. -/
def unrenderedPool (name : String) (labels : List (String × String)) : MachineConfigPool :=
  { workerPool with
    metadata := { name := some name, labels := some (.ofList labels) }
    status := some ⟨[⟨"RenderDegraded", "True", some "NoTemplate", none, none⟩], 1, 0, 0, 1⟩ }

/-- Of two pools the first one, which is added last, has both labels of the profile. -/
theorem poolReport_lists_pools_overlapping :
    let labels : Labels := .ofList [("rank", "1"), ("zone", "east")]
    let profile := { smallProfile with
      spec := { smallProfile.spec with machineConfigPoolSelector := some labels } }
    let one := unrenderedPool "one" [("rank", "1"), ("zone", "east")]
    let two := unrenderedPool "two" [("zone", "east")]
    let reported (pools : List MachineConfigPool) :=
      ((poolReport profile).run { cluster := Cluster.withPools {} pools }).1
    profile.poolLabels = .ok labels ∧ reported [one, two] = reported [two, one] ∧
    ∃ pools : List MachineConfigPool, one ∈ pools ∧ two ∈ pools ∧
      (pools.Pairwise fun one two => Resource.displayName one < Resource.displayName two) ∧
      reported [two, one] =
        .ok (some (.degraded "MCPDegraded" (String.join (pools.map (·.faultText))))) := by
  intro labels profile one two reported
  have queryable : ∀ label ∈ labels.entries, Queryable label := by
    have entries : labels.entries = [("rank", "1"), ("zone", "east")] := by decide +kernel
    rw [entries, List.forall_mem_cons, List.forall_mem_singleton]
    exact ⟨⟨by decide +kernel, by decide +kernel, by decide +kernel, by decide +kernel,
      by decide +kernel⟩, by decide +kernel, by decide +kernel, by decide +kernel,
      by decide +kernel, by decide +kernel⟩
  let controller : Controller := { cluster := Cluster.withPools {} [two, one] }
  have orderly : controller.cluster.Orderly fun _ => True := (Cluster.Orderly.empty.put rfl).put rfl
  have named : controller.cluster.PoolsNamed := .of_orderly orderly trivial
    (Cluster.unspaced_put (Cluster.unspaced_put (fun _ _ none => by cases none) rfl) rfl)
  have distinct : ∀ first ∈ [one, two], ∀ second ∈ [one, two],
      storeKey first = storeKey second → first = second := by decide +kernel
  obtain ⟨⟨pools, among, ordered, run⟩, _⟩ :=
    poolReport_lists_pools profile labels controller rfl queryable named rfl
  have empty := (poolReport_lists_pools profile labels {} rfl queryable
    (fun _ _ none => by cases none) rfl).2
  have first : one ∈ pools := (among one).2
    ⟨⟨"one", by decide +kernel⟩, ("zone", "east"), by decide +kernel, by decide +kernel⟩
  have second : two ∈ pools := (among two).2
    ⟨⟨"two", by decide +kernel⟩, ("zone", "east"), by decide +kernel, by decide +kernel⟩
  have filled : String.join (pools.map (·.faultText)) ≠ "" := by
    intro none
    have silent := join_eq_empty_iff.1 none _ (List.mem_map_of_mem first)
    exact absurd silent (by decide +kernel)
  refine ⟨rfl, empty _ _ (List.Perm.swap ..) distinct, pools, first, second, ordered, ?_⟩
  simp only [reported]
  rw [run, if_neg filled]

end NodeTuning
