import NodeTuning.Proofs.Controller.PoolVerdict
import NodeTuning.Watch.Fingerprint
import NodeTuning.Watch.ProfileRef

/-!
Which events of pools are news. A cache remembers under each name the fingerprint of the pool that
showed it last. Main statement: over every sequence of pools, a pool is news exactly if none has
shown its name before or the last one had another fingerprint. One that is no news has the labels of
that last one, adds the same to every report and wakes the same profiles, while what neither a
report nor a selection reads is never news. Fingerprints are values, so two of them are the same
only if all that they were taken from is.
-/
namespace NodeTuning

namespace Fingerprints

/-- The answers for some pools one after the other, and the cache after them. -/
def observeAll : Fingerprints → List MachineConfigPool → List Bool × Fingerprints
  | seen, [] => ([], seen)
  | seen, pool :: rest =>
    let (changed, after) := seen.observe pool
    let (answers, last) := observeAll after rest
    (changed :: answers, last)

end Fingerprints

def lastNamed (pools : List MachineConfigPool) (name : String) : Option MachineConfigPool :=
  pools.findRev? fun pool => Resource.displayName pool = name

section Cache
variable {seen : Fingerprints} {pool : MachineConfigPool} {name : String}

theorem lastNamed_eq_none_iff {pools : List MachineConfigPool} :
    lastNamed pools name = none ↔ ∀ pool ∈ pools, Resource.displayName pool ≠ name := by
  simp [lastNamed]

theorem lastNamed_cons (rest : List MachineConfigPool) : lastNamed (pool :: rest) name =
    (lastNamed rest name).or (if Resource.displayName pool = name then some pool else none) := by
  rw [lastNamed, List.findRev?, lastNamed]
  cases rest.findRev? fun pool => Resource.displayName pool = name <;> simp

theorem displayName_of_lastNamed {pools : List MachineConfigPool}
    (last : lastNamed pools name = some pool) : Resource.displayName pool = name := by
  rw [lastNamed, List.findRev?_eq_find?_reverse] at last
  simpa using List.find?_some last

namespace Fingerprints

theorem observe_changed_iff (seen : Fingerprints) (pool : MachineConfigPool) :
    (seen.observe pool).1 = true ↔
    seen.find? (Resource.displayName pool) ≠ some pool.fingerprint := by
  simp [observe]

theorem find?_observe : (seen.observe pool).2.find? name =
    if name = Resource.displayName pool then some pool.fingerprint else seen.find? name :=
  seen.find?_insert _ _ _

/-- The cache holds what was seen last under each name. -/
theorem find?_observeAll (seen : Fingerprints) (pools : List MachineConfigPool) (name : String) :
    (seen.observeAll pools).2.find? name =
      ((lastNamed pools name).map MachineConfigPool.fingerprint).or (seen.find? name) := by
  induction pools generalizing seen with
  | nil => rfl
  | cons pool rest ih =>
    have step := ih (seen.observe pool).2
    rw [find?_observe] at step
    refine step.trans ?_
    rw [lastNamed_cons]
    cases lastNamed rest name with
    | some last => rfl
    | none =>
      by_cases here : name = Resource.displayName pool
      · simp [here]
      · simp [here, Ne.symm here]

theorem length_observeAll (seen : Fingerprints) (pools : List MachineConfigPool) :
    (seen.observeAll pools).1.length = pools.length := by
  induction pools generalizing seen with
  | nil => rfl
  | cons pool rest ih => simp [observeAll, ih]

theorem observeAll_append (seen : Fingerprints) (front back : List MachineConfigPool) :
    (seen.observeAll (front ++ back)).1 =
      (seen.observeAll front).1 ++ ((seen.observeAll front).2.observeAll back).1 := by
  induction front generalizing seen with
  | nil => rfl
  | cons pool rest ih => simp [observeAll, ih]

/-- The answer for a pool in a sequence is the one that the cache gives after those before it. -/
theorem getElem?_observeAll (seen : Fingerprints) (front back : List MachineConfigPool)
    (pool : MachineConfigPool) : (seen.observeAll (front ++ pool :: back)).1[front.length]? =
      some ((seen.observeAll front).2.observe pool).1 := by
  rw [observeAll_append, List.getElem?_append_right (by simp [length_observeAll])]
  simp [length_observeAll, observeAll]

end Fingerprints
end Cache

namespace MachineConfigPool
variable {first second : MachineConfigPool}

theorem conditionMark_of_fingerprint (same : first.fingerprint = second.fingerprint) {type : String}
    (watched : type ∈ watchedConditions) : first.conditionMark type = second.conditionMark type :=
  List.map_inj_left.1 (congrArg Fingerprint.conditions same) type watched

theorem faultLines_eq (pool : MachineConfigPool) (type : String) :
    pool.faultLines type = match pool.conditionMark type with
      | none => []
      | some mark =>
        if mark.status = "True" then
          reportLine (Resource.displayName pool) "Reason" mark.reason ++
            reportLine (Resource.displayName pool) "Message" mark.message
        else [] := by
  unfold faultLines conditionMark
  cases pool.condition? type <;> rfl

/-- A report reads no more of a pool than its name and its fingerprint. -/
theorem report_congr (named : Resource.displayName first = Resource.displayName second)
    (same : first.fingerprint = second.fingerprint) : first.report = second.report := by
  have each : ∀ type ∈ faultConditions, first.faultLines type = second.faultLines type := by
    intro type fault
    have watched : type ∈ watchedConditions := by
      simp only [faultConditions, List.mem_cons] at fault
      simp only [watchedConditions, List.mem_cons]
      tauto
    rw [faultLines_eq, faultLines_eq, named, conditionMark_of_fingerprint same watched]
  rw [report, report, List.flatMap_def, List.flatMap_def, List.map_inj_left.2 each]

/-- The conditions of the types that matter, in their order and without their times. -/
def watchedMarks (pool : MachineConfigPool) : List (String × ConditionMark) :=
  let conditions := (pool.status.map (·.conditions)).getD []
  (conditions.filter fun condition => condition.type ∈ watchedConditions).map fun condition =>
    (condition.type, ⟨condition.status, condition.reason, condition.message⟩)

theorem conditionMark_eq_find? (pool : MachineConfigPool) {type : String}
    (watched : type ∈ watchedConditions) : pool.conditionMark type =
      (pool.watchedMarks.find? fun entry => entry.1 = type).map (·.2) := by
  unfold conditionMark condition? watchedMarks
  cases pool.status with
  | none => rfl
  | some status =>
    have both : ∀ condition : PoolCondition,
        (condition.type ∈ watchedConditions ∧ condition.type = type) ↔ condition.type = type := by
      intro condition
      constructor
      · exact And.right
      · intro here
        exact ⟨here ▸ watched, here⟩
    simp only [Option.bind_some, Option.map_some, Option.getD_some, List.find?_map,
      List.find?_filter, Function.comp_def, Option.map_map]
    congr 2
    funext condition
    simpa using (both condition).symm

theorem fingerprint_eq_of_watchedMarks (labels : Resource.labels first = Resource.labels second)
    (marks : first.watchedMarks = second.watchedMarks) :
    first.fingerprint = second.fingerprint := by
  have each : ∀ type ∈ watchedConditions,
      first.conditionMark type = second.conditionMark type := by
    intro type watched
    rw [conditionMark_eq_find? first watched, conditionMark_eq_find? second watched, marks]
  rw [fingerprint, fingerprint, labels, List.map_inj_left.2 each]

theorem selectsPool_congr (profile : Profile)
    (labels : Resource.labels first = Resource.labels second) :
    profile.selectsPool first = profile.selectsPool second := by
  rw [Profile.selectsPool, Profile.selectsPool, labels]

/-- Nothing that depends on pools tells one of the two from the other: not their labels, not what
they add to a report on pools, whichever others stand before and after them, and not the profiles
that they wake. -/
structure SameNews (first second : MachineConfigPool) : Prop where
  labels : Resource.labels first = Resource.labels second
  report : ∀ front back, degradedPoolsMessage (front ++ first :: back) =
    degradedPoolsMessage (front ++ second :: back)
  wakes : ∀ profiles, profilesForPool? profiles first = profilesForPool? profiles second

theorem sameNews_of_fingerprint (named : Resource.displayName first = Resource.displayName second)
    (same : first.fingerprint = second.fingerprint) : SameNews first second := by
  have labels : Resource.labels first = Resource.labels second :=
    congrArg Fingerprint.labels same
  refine ⟨labels, fun front back => ?_, fun profiles => ?_⟩
  · simp only [degradedPoolsMessage, List.flatMap_append, List.flatMap_cons,
      report_congr named same]
  · simp only [profilesForPool?, selectsPool_congr _ labels]

end MachineConfigPool

/-- In a sequence of pools a pool is news exactly if no earlier one shows its name or the last one
that does has another fingerprint, and a pool that is no news tells nothing that this last one did
not tell. Pools that agree in their labels and, but for times, in the conditions that matter have
the same fingerprint, whatever else they differ in. -/
theorem news_iff_fingerprint_changed (front back : List MachineConfigPool)
    (pool : MachineConfigPool) :
    (∃ changed, (Fingerprints.observeAll .empty (front ++ pool :: back)).1[front.length]? =
        some changed ∧
      (changed = true ↔
        (∀ other ∈ front, Resource.displayName other ≠ Resource.displayName pool) ∨
        ∃ last, lastNamed front (Resource.displayName pool) = some last ∧
          last.fingerprint ≠ pool.fingerprint) ∧
      (changed = false → ∃ last, lastNamed front (Resource.displayName pool) = some last ∧
        last.SameNews pool)) ∧
    ∀ other : MachineConfigPool, Resource.labels other = Resource.labels pool →
      other.watchedMarks = pool.watchedMarks → other.fingerprint = pool.fingerprint := by
  have remembered := Fingerprints.find?_observeAll .empty front (Resource.displayName pool)
  rw [SortedMap.find?_empty, Option.or_none] at remembered
  have news := Fingerprints.observe_changed_iff (Fingerprints.observeAll .empty front).2 pool
  rw [remembered] at news
  refine ⟨⟨_, Fingerprints.getElem?_observeAll .empty front back pool, ?_, ?_⟩,
    fun other => MachineConfigPool.fingerprint_eq_of_watchedMarks⟩
  · rw [news, ← lastNamed_eq_none_iff]
    cases lastNamed front (Resource.displayName pool) <;> simp
  · intro suppressed
    rw [← Bool.not_eq_true, news, not_not] at suppressed
    obtain ⟨last, latest, same⟩ := Option.map_eq_some_iff.1 suppressed
    exact ⟨last, latest,
      MachineConfigPool.sameNews_of_fingerprint (displayName_of_lastNamed latest) same⟩

/-- The degraded pool later on: it is paused now, and its version, the times and the numbers of its
status have changed, as has a condition that does not matter. -/
def touchedPool : MachineConfigPool where
  metadata := { workerPool.metadata with resourceVersion := some "42" }
  spec := ⟨none, none, true⟩
  status := some ⟨[⟨"Updating", "True", none, none, none⟩,
    ⟨"NodeDegraded", "True", some "NodeFailed", none, some default⟩], 3, 1, 1, 2⟩

theorem touchedPool_is_no_news :
    let pool := degradedPool (some "NodeFailed") none
    let other := { workerPool with metadata := { name := some "infra" } }
    (Fingerprints.observeAll .empty [pool, other, touchedPool]).1 = [true, true, false] ∧
      pool.fingerprint = touchedPool.fingerprint ∧ pool.SameNews touchedPool := by
  intro pool other
  have answers : (Fingerprints.observeAll .empty [pool, other, touchedPool]).1 =
      [true, true, false] := by decide +kernel
  obtain ⟨⟨changed, answer, _, quiet⟩, unread⟩ :=
    news_iff_fingerprint_changed [pool, other] [] touchedPool
  have suppressed : changed = false := by
    rw [List.cons_append, List.singleton_append, answers] at answer
    exact (Option.some.inj answer).symm
  obtain ⟨last, latest, same⟩ := quiet suppressed
  have known : lastNamed [pool, other] (Resource.displayName touchedPool) = some pool := by
    decide +kernel
  rw [known] at latest
  cases latest
  exact ⟨answers, unread pool rfl rfl, same⟩

end NodeTuning
