import NodeTuning.Proofs.Cluster.Operations
import NodeTuning.Proofs.Controller.Branches
import NodeTuning.Proofs.Controller.Sweeping

/-!
The order in which components are applied. Main statement: nothing is written before all components
have been looked up, and the writes are then those of a plan, one after the other, up to the first
operation that fails.
-/
namespace NodeTuning
open Stored Steps Cluster.Action

section Reading

/-- What keeps the object under a key from being looked up. That there is none does not. -/
def Cluster.obstacle (K : Type) [Stored K] (cluster : Cluster) (key : String) :
    Option ClusterError :=
  match cluster.read K key with
  | .ok _ => none
  | .error fault => if fault.isNotFound then none else some fault

namespace Components

/-- The first thing that keeps components from being looked up. -/
def obstacle (components : Components) (cluster : Cluster) : Option ClusterError :=
  (cluster.obstacle MachineConfig (storeKey components.machineConfig)).or
    ((cluster.obstacle KubeletConfig (storeKey components.kubeletConfig)).or
      ((cluster.obstacle Tuned (storeKey components.tuned)).or
        (cluster.obstacle RuntimeClass (storeKey components.runtimeClass))))

end Components

variable {K : Type} [Component K]

theorem run_find?_eq (cluster : Cluster) (key : String) : (find? K key).run cluster =
    (match cluster.obstacle K key with
      | some fault => .error fault
      | none => .ok (cluster.peek K key), cluster) := by
  unfold find? Cluster.obstacle Cluster.read Cluster.present
  rw [run_ofRead]
  cases allowed : cluster.check .get (Resource.kind K) with
  | error fault => simp [bind, Except.bind, Cluster.check_error allowed]
  | ok => cases cluster.peek K key <;> simp [bind, Except.bind, ClusterError.isNotFound]

theorem Plan.run_compare_bind {α : Type} (desired : K) (next : Write K → Cluster.Action α)
    (cluster : Cluster) : (compare desired >>= next).run cluster =
      match cluster.obstacle K (storeKey desired) with
      | some fault => (.error fault, cluster)
      | none => (next (.plan (cluster.peek K (storeKey desired)) desired)).run cluster := by
  have found := run_find?_eq (K := K) cluster (storeKey desired)
  cases blocked : cluster.obstacle K (storeKey desired) with
  | some fault =>
    rw [blocked] at found
    exact run_bind_error (run_bind_error found _) _
  | none =>
    rw [blocked] at found
    exact run_bind_ok (run_bind_ok found _) _

theorem Plan.run_ofComponents (components : Components) (cluster : Cluster) :
    (ofComponents components).run cluster = (match components.obstacle cluster with
      | some fault => .error fault
      | none => .ok (ofCluster components cluster), cluster) := by
  unfold ofComponents Components.obstacle
  rw [run_compare_bind]
  cases cluster.obstacle MachineConfig (storeKey components.machineConfig) with
  | some fault => rfl
  | none =>
    dsimp only
    rw [run_compare_bind]
    cases cluster.obstacle KubeletConfig (storeKey components.kubeletConfig) with
    | some fault => rfl
    | none =>
      dsimp only
      rw [run_compare_bind]
      cases cluster.obstacle Tuned (storeKey components.tuned) with
      | some fault => rfl
      | none =>
        dsimp only
        rw [run_compare_bind]
        cases cluster.obstacle RuntimeClass (storeKey components.runtimeClass) <;> rfl

end Reading

section Planned

def Operation.applies (kind : Kind) : Operation → Bool
  | .create object | .update object => object.kind = kind
  | _ => false

def Operation.deletion (tunedNamespace : String) (tuned : Tuned) : Operation :=
  .delete .tuned (some tunedNamespace) (Resource.displayName tuned)

def Write.operations {K : Type} [Component K] [Lawful K] : Write K → List Operation
  | .create object => [.create (toAny object)]
  | .update object => [.update (toAny object)]
  | .unchanged => []

/-- The listing of tuned objects, and the deletions of those that are outdated for a profile, in the
order of their keys. -/
def Cluster.sweepOperations (cluster : Cluster) (tunedNamespace : String) (profile : Profile) :
    List Operation :=
  match profile.metadata.uid with
  | none => []
  | some uid => .listTuned tunedNamespace ::
      (cluster.outdatedTuned tunedNamespace uid (tunedName profile.name)).map
        (.deletion tunedNamespace)

def Plan.operations (plan : Plan) (cluster : Cluster) (tunedNamespace : String)
    (profile : Profile) : List Operation :=
  [plan.machineConfig.operations, cluster.sweepOperations tunedNamespace profile,
    plan.tuned.operations, plan.kubeletConfig.operations, plan.runtimeClass.operations].flatten

/-- From one state to another some operations have been carried out, of which the writes of
components were counted. -/
structure Controller.Executed (operations : List Operation) (before after : Controller) : Prop where
  effect : Cluster.Performs operations before.cluster after.cluster
  calls : after.cluster.calls = before.cluster.calls ++ operations.flatMap Operation.calls :=
    effect.calls
  counted : ∀ kind : Kind, after.metrics.appliedCount kind.name =
    before.metrics.appliedCount kind.name + operations.countP (·.applies kind)
  passes : after.metrics.passes = before.metrics.passes
  failedPasses : after.metrics.failedPasses = before.metrics.failedPasses
  events : after.events = before.events
  retries : after.retries = before.retries

namespace Controller.Executed
variable {first second : List Operation} {before middle after : Controller}

theorem refl (controller : Controller) : Executed [] controller controller where
  effect := .nil controller.cluster
  counted _ := rfl
  passes := rfl
  failedPasses := rfl
  events := rfl
  retries := rfl

theorem append (head : Executed first before middle) (rest : Executed second middle after) :
    Executed (first ++ second) before after where
  effect := head.effect.append rest.effect
  counted kind := by rw [rest.counted, head.counted, List.countP_append, Nat.add_assoc]
  passes := rest.passes.trans head.passes
  failedPasses := rest.failedPasses.trans head.failedPasses
  events := rest.events.trans head.events
  retries := rest.retries.trans head.retries

theorem uncounted {operations : List Operation} {cluster : Cluster}
    (effect : Cluster.Performs operations before.cluster cluster)
    (none : ∀ operation ∈ operations, ∀ kind, operation.applies kind = false) :
    Executed operations before { before with cluster } where
  effect := effect
  counted kind := by
    have nothing : operations.countP (·.applies kind) = 0 := by
      rw [List.countP_eq_zero]
      intro operation member
      simp [none operation member kind]
    rw [nothing]
    rfl
  passes := rfl
  failedPasses := rfl
  events := rfl
  retries := rfl

end Controller.Executed

/-- Steps carry out operations one after the other and give a value, unless one of the operations
fails, which ends them. -/
def Follows {α : Type} (operations : List Operation) (pass : Pass α) (start : Controller)
    (value : α) : Prop :=
  (∃ after, pass.run start = (.ok value, after) ∧ start.Executed operations after) ∨
  ∃ done next rest fault after, operations = done ++ next :: rest ∧
    pass.run start = (.error (.cluster fault), after) ∧ start.Executed done after ∧
    (after.cluster.perform next).1 = .error fault

namespace Follows
variable {α β : Type} {first second : List Operation} {start : Controller} {value : α}

theorem pure (value : α) (start : Controller) : Follows [] (Pure.pure value) start value :=
  .inl ⟨start, rfl, .refl start⟩

theorem bind {pass : Pass α} {next : α → Pass β} {result : β}
    (head : Follows first pass start value)
    (rest : ∀ middle, pass.run start = (.ok value, middle) →
      Follows second (next value) middle result) :
    Follows (first ++ second) (pass >>= next) start result := by
  rcases head with ⟨middle, run, executed⟩ | ⟨done, failing, later, fault, after, split, run, executed, failed⟩
  · rcases rest middle run with ⟨after, ran, further⟩ |
      ⟨done, failing, later, fault, after, split, ran, further, failed⟩
    · exact .inl ⟨after, (run_bind_ok run next).trans ran, executed.append further⟩
    · refine .inr ⟨first ++ done, failing, later, fault, after, ?_, (run_bind_ok run next).trans ran,
        executed.append further, failed⟩
      rw [split, List.append_assoc]
  · refine .inr ⟨done, failing, later ++ second, fault, after, ?_, run_bind_error run next,
      executed, failed⟩
    rw [split, List.append_assoc, List.cons_append]

end Follows

section Writes
variable {K : Type} [Component K] [Lawful K] [Cluster.Performed K]

theorem appliedCount_countApplied (metrics : Metrics) (kind other : Kind) :
    (metrics.countApplied other.name).appliedCount kind.name =
      metrics.appliedCount kind.name + if other = kind then 1 else 0 := by
  have injective : kind.name = other.name ↔ other = kind := by
    cases kind <;> cases other <;> decide
  unfold Metrics.countApplied Metrics.appliedCount
  rw [SortedMap.find?_insert]
  by_cases same : other = kind
  · simp [same]
  · simp [same, injective]

omit [Cluster.Performed K] in
private theorem follows_counted {operation : Cluster → Except ClusterError (K × Cluster)}
    {request : Operation} (performed : ∀ cluster : Cluster, cluster.perform request =
      cluster.concluded ((operation cluster).map fun done => (.object (toAny done.1), done.2)))
    (applies : ∀ kind, request.applies kind = decide (Resource.kind K = kind))
    (start : Controller) : Follows [request] (do
      let _ ← Pass.onCluster (.ofWrite operation)
      Write.perform.countWrite (K := K)) start () := by
  have written := Pass.run_onCluster (.ofWrite operation) start
  obtain ⟨object, after, ok, run⟩ | ⟨fault, failed, run⟩ :=
    run_ofWrite_cases operation start.cluster
  · rw [run] at written
    have carried : start.cluster.perform request = (.ok (.object (toAny object)), after) := by
      rw [performed, ok]
      rfl
    have effect : Cluster.Performs [request] start.cluster after := .cons carried (.nil after)
    have counted : ∀ kind : Kind,
        (start.metrics.countApplied (Resource.kind K).name).appliedCount kind.name =
          start.metrics.appliedCount kind.name + [request].countP (·.applies kind) := by
      intro kind
      rw [appliedCount_countApplied, List.countP_cons, applies]
      simp
    exact .inl ⟨_, run_bind_ok written _,
      { effect, counted, passes := rfl, failedPasses := rfl, events := rfl, retries := rfl }⟩
  · rw [run] at written
    refine .inr ⟨[], request, [], fault, start, rfl, run_bind_error written _, .refl start, ?_⟩
    rw [performed, failed]
    rfl

theorem Write.follows_perform (write : Write K) (start : Controller) :
    Follows write.operations write.perform start () := by
  have applies : ∀ object : K, ∀ kind,
      decide ((toAny object).kind = kind) = decide (Resource.kind K = kind) :=
    fun object kind => by rw [Lawful.kind_toAny]
  cases write with
  | create object =>
    exact follows_counted (fun cluster => Cluster.Performed.perform_create cluster object)
      (applies object) start
  | update object =>
    exact follows_counted (fun cluster => Cluster.Performed.perform_update cluster object)
      (applies object) start
  | unchanged => exact .pure () start

end Writes

section Sweep
variable {tunedNamespace : String} {profile : Profile}

theorem Pass.onCluster_bind {α β : Type} (first : Cluster.Action α)
    (next : α → Cluster.Action β) :
    onCluster (first >>= next) = onCluster first >>= fun value => onCluster (next value) := by
  funext controller
  have head := run_onCluster first controller
  have whole := run_onCluster (first >>= next) controller
  obtain ⟨value, middle, run, rest⟩ | ⟨fault, middle, run, rest⟩ :=
    run_bind_cases first next controller.cluster
  · rw [run] at head
    rw [rest] at whole
    exact whole.trans (run_bind_ok head fun value => onCluster (next value)).symm
  · rw [run] at head
    rw [rest] at whole
    exact whole.trans (run_bind_error head fun value => onCluster (next value)).symm

theorem follows_listing (start : Controller) :
    Follows [.listTuned tunedNamespace]
      (Pass.onCluster (ofRead (Cluster.listTuned · tunedNamespace))) start
      (start.cluster.tuneds.values.filter fun tuned =>
        tuned.metadata.inNamespace = some tunedNamespace) := by
  have listed := Pass.run_onCluster (ofRead (Cluster.listTuned · tunedNamespace)) start
  have performed := Cluster.perform_listTuned start.cluster tunedNamespace
  rw [run_ofRead] at listed
  cases allowed : start.cluster.check .list .tuned with
  | ok =>
    simp only [Cluster.listTuned, allowed] at listed performed
    exact .inl ⟨start, listed, .uncounted (.cons performed (.nil _)) (by simp [Operation.applies])⟩
  | error fault =>
    simp only [Cluster.listTuned, allowed] at listed performed
    exact .inr ⟨[], _, [], fault, start, rfl, listed, .refl start, by rw [performed]; rfl⟩

theorem follows_deletion {start : Controller} {tuned : Tuned}
    (present : (start.cluster.peek Tuned
      (keyIn (some tunedNamespace) (Resource.displayName tuned))).isSome) :
    Follows [.deletion tunedNamespace tuned] (Pass.onCluster (ensureDeleted Tuned
      (keyIn (some tunedNamespace) (Resource.displayName tuned)))) start () := by
  let key := keyIn (some tunedNamespace) (Resource.displayName tuned)
  have deleted := Pass.run_onCluster (ensureDeleted Tuned key) start
  have performed := Cluster.perform_delete_tuned start.cluster (some tunedNamespace)
    (Resource.displayName tuned)
  cases allowed : start.cluster.check .delete .tuned with
  | ok =>
    have ok : start.cluster.delete Tuned key =
        .ok ((), Cluster.Action.deletion Tuned start.cluster key) := by
      rw [Cluster.delete_eq_ok_iff, Cluster.Action.deletion, if_pos present]
      exact ⟨allowed, present, rfl⟩
    rw [run_ensureDeleted_ok (K := Tuned) allowed] at deleted
    rw [ok] at performed
    exact .inl ⟨_, deleted, .uncounted (.cons performed (.nil _))
      (by simp [Operation.deletion, Operation.applies])⟩
  | error fault =>
    rw [run_ensureDeleted_error (K := Tuned) allowed] at deleted
    refine .inr ⟨[], _, [], fault, start, rfl, deleted, .refl start, ?_⟩
    rw [Operation.deletion, performed, Cluster.delete, kind_tuned, allowed]
    rfl

theorem follows_deletions {start : Controller} {tuneds : List Tuned}
    (present : ∀ tuned ∈ tuneds, (start.cluster.peek Tuned
      (keyIn (some tunedNamespace) (Resource.displayName tuned))).isSome)
    (sorted : (tuneds.map fun tuned =>
      keyIn (some tunedNamespace) (Resource.displayName tuned)).Pairwise (· < ·)) :
    Follows (tuneds.map (.deletion tunedNamespace)) (Pass.onCluster (tuneds.forM fun tuned =>
      ensureDeleted Tuned (keyIn (some tunedNamespace) (Resource.displayName tuned)))) start () := by
  induction tuneds generalizing start with
  | nil => exact .pure () start
  | cons first rest ih =>
    obtain ⟨above, sortedRest⟩ := List.pairwise_cons.1 sorted
    have whole := Pass.onCluster_bind (ensureDeleted Tuned
      (keyIn (some tunedNamespace) (Resource.displayName first))) fun _ => rest.forM fun tuned =>
        ensureDeleted Tuned (keyIn (some tunedNamespace) (Resource.displayName tuned))
    change Follows ([.deletion tunedNamespace first] ++ rest.map (.deletion tunedNamespace))
      (Pass.onCluster (_ >>= _)) start ()
    rw [whole]
    refine .bind (follows_deletion (present first (List.mem_cons_self ..))) fun middle run => ?_
    -- No later key is that of the first object, so deleting that leaves the others there.
    refine ih (fun tuned member => ?_) sortedRest
    have different : keyIn (some tunedNamespace) (Resource.displayName tuned) ≠
        keyIn (some tunedNamespace) (Resource.displayName first) :=
      (String.ne_of_lt (above _ (List.mem_map.2 ⟨tuned, member, rfl⟩))).symm
    have removes : Keeps (Pass.Clusters (Cluster.Within { removes := (· = (.tuned,
        keyIn (some tunedNamespace) (Resource.displayName first))) })) (Pass.onCluster
          (ensureDeleted Tuned (keyIn (some tunedNamespace) (Resource.displayName first)))) :=
      Pass.keeps_onCluster (keeps_ensureDeleted rfl)
    have within := removes start
    rw [run] at within
    rw [within.peek_eq (by simp [Footprint.Touches, different])]
    exact present tuned (List.mem_cons_of_mem _ member)

theorem follows_sweep {start : Controller} (belongs : ∀ key tuned,
    start.cluster.peek Tuned key = some tuned → tuned.metadata.BelongsUnder key) :
    Follows (start.cluster.sweepOperations tunedNamespace profile)
      (Pass.onCluster (sweepTuned profile tunedNamespace (tunedName profile.name))) start () := by
  unfold Cluster.sweepOperations sweepTuned
  cases profile.metadata.uid with
  | none => exact .pure () start
  | some uid =>
    dsimp only
    rw [Pass.onCluster_bind]
    refine .bind (follows_listing start) fun middle run => ?_
    have same : start = middle := by
      have reads : Keeps Eq (Pass.onCluster (ofRead (Cluster.listTuned · tunedNamespace))) :=
        Pass.keeps_reading (keeps_ofRead _)
      have read := reads start
      rwa [run] at read
    subst same
    refine follows_deletions (fun tuned member => ?_) (Cluster.sorted_outdatedTuned belongs)
    obtain ⟨⟨key, found⟩, spaced, _⟩ := Cluster.mem_outdatedTuned.1 member
    rw [Cluster.keyIn_displayName (belongs key tuned found) spaced, found]
    rfl

end Sweep

def Cluster.SameTuned (before after : Cluster) : Prop := after.tuneds = before.tuneds

instance : IsPreorder Cluster Cluster.SameTuned where
  refl _ := rfl
  trans _ _ _ first second := second.trans first

theorem sameTuned_perform (write : Write MachineConfig) :
    Keeps (Pass.Clusters Cluster.SameTuned) write.perform := by
  refine Write.keeps_perform (fun object _ => keeps_ofWrite ?_) fun object _ => keeps_ofWrite ?_
  · intro cluster created after ok
    obtain ⟨_, _, _, rfl⟩ := Cluster.create_eq_ok_iff.1 ok
    change (cluster.countUid object).tuneds = cluster.tuneds
    unfold Cluster.countUid
    split <;> rfl
  · intro cluster updated after ok
    obtain ⟨_, _, _, _, rfl⟩ := Cluster.update_eq_ok_iff.1 ok
    rfl

theorem Plan.follows_perform (plan : Plan) (settings : Settings) (profile : Profile)
    {start : Controller} (belongs : ∀ key tuned,
      start.cluster.peek Tuned key = some tuned → tuned.metadata.BelongsUnder key) :
    Follows (plan.operations start.cluster settings.tunedNamespace profile)
      (plan.perform settings profile) start true := by
  unfold Plan.operations Plan.perform
  refine .bind (plan.machineConfig.follows_perform start) fun middle run => ?_
  -- What is to be swept was said of the start, and is found after the machine config is written.
  have same : middle.cluster.tuneds = start.cluster.tuneds := by
    have keeps := sameTuned_perform plan.machineConfig start
    rwa [run] at keeps
  have sweep : start.cluster.sweepOperations settings.tunedNamespace profile =
      middle.cluster.sweepOperations settings.tunedNamespace profile := by
    unfold Cluster.sweepOperations Cluster.outdatedTuned
    rw [same]
  rw [sweep]
  have peeked : ∀ key, middle.cluster.peek Tuned key = start.cluster.peek Tuned key :=
    fun key => congrArg (SortedMap.find? · key) same
  refine .bind (follows_sweep fun key tuned found => belongs key tuned (peeked key ▸ found))
    fun swept _ => ?_
  refine .bind (plan.tuned.follows_perform swept) fun third _ => ?_
  refine .bind (plan.kubeletConfig.follows_perform third) fun fourth _ => ?_
  exact .bind (plan.runtimeClass.follows_perform fourth) fun last _ => .pure true last

end Planned

def Cluster.Suits {K : Type} [Component K] (cluster : Cluster) (desired : K) : Prop :=
  ∃ existing, cluster.peek K (storeKey desired) = some existing ∧ mutated? existing desired = none

structure Components.Suited (components : Components) (cluster : Cluster) : Prop where
  machineConfig : cluster.Suits components.machineConfig
  kubeletConfig : cluster.Suits components.kubeletConfig
  tuned : cluster.Suits components.tuned
  runtimeClass : cluster.Suits components.runtimeClass

theorem Write.isUnchanged_plan_iff {K : Type} [Component K] {cluster : Cluster} {desired : K} :
    (Write.plan (cluster.peek K (storeKey desired)) desired).isUnchanged = true ↔
      cluster.Suits desired := by
  unfold Cluster.Suits
  cases cluster.peek K (storeKey desired) with
  | none => simp [plan, isUnchanged]
  | some existing => cases changed : mutated? existing desired <;> simp [plan, isUnchanged, changed]

theorem Plan.isUnchanged_ofCluster_iff {components : Components} {cluster : Cluster} :
    (ofCluster components cluster).isUnchanged = true ↔ components.Suited cluster := by
  simp only [isUnchanged, ofCluster, Bool.and_eq_true, Write.isUnchanged_plan_iff]
  constructor
  · rintro ⟨⟨⟨machineConfig, kubeletConfig⟩, tuned⟩, runtimeClass⟩
    exact ⟨machineConfig, kubeletConfig, tuned, runtimeClass⟩
  · rintro ⟨machineConfig, kubeletConfig, tuned, runtimeClass⟩
    exact ⟨⟨⟨machineConfig, kubeletConfig⟩, tuned⟩, runtimeClass⟩

/-- Components that can't be derived or looked up, and components that need no change, leave all as
it is. All else that is done are the operations of the plan, one after the other: all of them, or
those before the first one that fails. The log, the counters and the cluster tell of just these. -/
theorem applyComponents_follows_plan (settings : Settings) (profile : Profile)
    (controller : Controller) (orderly : controller.cluster.Orderly fun _ => True) :
    let run := (applyComponents settings profile).run controller
    (∀ fault, profile.components settings.tunedNamespace = .error fault →
      run = (.error (.synthesis fault), controller)) ∧
    ∀ components, profile.components settings.tunedNamespace = .ok components →
      (∀ fault, components.obstacle controller.cluster = some fault →
        run = (.error (.cluster fault), controller)) ∧
      (components.obstacle controller.cluster = none →
        (components.Suited controller.cluster → run = (.ok false, controller)) ∧
        (¬ components.Suited controller.cluster →
          let operations := (Plan.ofCluster components controller.cluster).operations
            controller.cluster settings.tunedNamespace profile
          (run.1 = .ok true ∧ controller.Executed operations run.2) ∨
          ∃ done next rest fault, operations = done ++ next :: rest ∧
            run.1 = .error (.cluster fault) ∧ controller.Executed done run.2 ∧
            (run.2.cluster.perform next).1 = .error fault)) := by
  intro run
  refine ⟨fun fault failed => run_applyComponents_underivable failed controller,
    fun components derived => ?_⟩
  have compared := Pass.run_onCluster (Plan.ofComponents components) controller
  rw [Plan.run_ofComponents] at compared
  have whole : run = _ := run_applyComponents_derived derived controller
  rw [whole]
  refine ⟨fun fault blocked => ?_, fun clear => ?_⟩
  · rw [blocked] at compared
    exact run_bind_error compared _
  rw [clear] at compared
  rw [run_bind_ok compared]
  refine ⟨fun suited => ?_, fun unsuited => ?_⟩
  · rw [if_pos (Plan.isUnchanged_ofCluster_iff.2 suited)]
    rfl
  · rw [if_neg fun unchanged => unsuited (Plan.isUnchanged_ofCluster_iff.1 unchanged)]
    have follows := (Plan.ofCluster components controller.cluster).follows_perform settings profile
      fun key tuned => orderly.peek trivial
    rcases follows with ⟨after, ran, executed⟩ |
      ⟨done, next, rest, fault, after, split, ran, executed, failed⟩
    · rw [ran]
      exact .inl ⟨rfl, executed⟩
    · rw [ran]
      exact .inr ⟨done, next, rest, fault, split, rfl, executed, failed⟩

/-- A tuned object of an old name, in a cluster that creates no new one. -/
def stuck : Cluster :=
  (Cluster.put {} formerTuned).failOn (operationName .create .tuned) "down"

theorem applyComponents_follows_plan_stuck :
    let start : Controller := { cluster := stuck }
    let run := (applyComponents {} smallProfile).run start
    run.2.cluster.calls.map Call.text = ["create MachineConfig 50-performance-small",
      "delete Tuned openshift-cluster-node-tuning-operator/old"] ∧
    ∃ done next fault, run.1 = .error (.cluster fault) ∧ start.Executed done run.2 ∧
      (run.2.cluster.perform next).1 = .error fault := by
  intro start run
  have texts : run.2.cluster.calls.map Call.text = ["create MachineConfig 50-performance-small",
      "delete Tuned openshift-cluster-node-tuning-operator/old"] := by decide +kernel
  have failed : run.1.isOk = false := by decide +kernel
  have orderly : stuck.Orderly fun _ => True :=
    (Cluster.Orderly.empty.put rfl).of_objects fun kind key => by cases kind <;> rfl
  have follows := applyComponents_follows_plan {} smallProfile start orderly
  have same : (applyComponents {} smallProfile).run start = run := rfl
  dsimp only at follows
  rw [same] at follows
  obtain ⟨underived, derived⟩ := follows
  -- The log shows a write, which leaves only the last of the ways to end.
  have moved : run.2 ≠ start := by
    intro same
    rw [same] at texts
    cases texts
  cases components : smallProfile.components ({} : Settings).tunedNamespace with
  | error fault => exact absurd (congrArg Prod.snd (underived fault components)) moved
  | ok generated =>
    obtain ⟨unread, read⟩ := derived generated components
    cases obstacle : generated.obstacle start.cluster with
    | some fault => exact absurd (congrArg Prod.snd (unread fault obstacle)) moved
    | none =>
      obtain ⟨suited, unsuited⟩ := read obstacle
      have changed : ¬ generated.Suited start.cluster := fun fits =>
        moved (congrArg Prod.snd (suited fits))
      obtain ⟨succeeded, _⟩ | ⟨done, next, _, fault, _, ended, executed, last⟩ := unsuited changed
      · have ok : run.1 = .ok true := succeeded
        rw [ok] at failed
        cases failed
      · exact ⟨texts, done, next, fault, ended, executed, last⟩

end NodeTuning
