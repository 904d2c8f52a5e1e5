import NodeTuning.Topology
import Mathlib.Algebra.Ring.Nat
import Mathlib.Data.List.Flatten
import Mathlib.Data.List.Infix
import Mathlib.Data.List.Nodup
import Mathlib.Data.List.Pairwise
import Mathlib.Data.List.Perm.Subperm
import Mathlib.Data.Nat.Find

/-!
What a reservation takes. Cores are taken whole and from the first on, so a share can be taken
exactly if some first cores hold that many CPUs. Main statement: which counts can be reserved, from
the lowest cores on or evenly from every node, which fault each other count gives, and how the
reserved and the isolated CPUs divide the machine.
-/
namespace NodeTuning

namespace CpuSet
variable {set : CpuSet} {cpus : List Nat}

theorem nodup_ids (set : CpuSet) : set.ids.Nodup := set.sorted.imp Nat.ne_of_lt

/-- The size is counted on any list of the same members that repeats none. -/
theorem size_eq_length (distinct : cpus.Nodup) (same : ∀ cpu, cpu ∈ set ↔ cpu ∈ cpus) :
    set.size = cpus.length := by
  have reordered : set.ids.Perm cpus := (List.perm_ext_iff_of_nodup set.nodup_ids distinct).2 same
  exact reordered.length_eq

theorem size_insertAll (distinct : cpus.Nodup) (fresh : ∀ cpu ∈ cpus, cpu ∉ set) :
    (set.insertAll cpus).size = set.size + cpus.length := by
  have joined : (set.ids ++ cpus).Nodup :=
    set.nodup_ids.append distinct fun cpu inside added => fresh cpu added inside
  have same : ∀ cpu, cpu ∈ set.insertAll cpus ↔ cpu ∈ set.ids ++ cpus := by
    intro cpu
    rw [mem_insertAll, List.mem_append, mem_def]
  rw [size_eq_length joined same, List.length_append, size]

end CpuSet

/-- The CPUs of some cores, core by core. -/
def cpusOf (cores : List Core) : List Nat := cores.flatMap (·.cpus)

section Cores
variable {core : Core} {cores front other : List Core} {share : Nat}

@[simp] theorem cpusOf_nil : cpusOf [] = [] := rfl

@[simp] theorem cpusOf_cons (core : Core) (cores : List Core) :
    cpusOf (core :: cores) = core.cpus ++ cpusOf cores := rfl

@[simp] theorem cpusOf_append (front back : List Core) :
    cpusOf (front ++ back) = cpusOf front ++ cpusOf back := List.flatMap_append

theorem mem_cpusOf {cpu : Nat} : cpu ∈ cpusOf cores ↔ ∃ core ∈ cores, cpu ∈ core.cpus :=
  List.mem_flatMap

theorem cpusOf_sublist (part : front.Sublist cores) : (cpusOf front).Sublist (cpusOf cores) :=
  part.flatMap _

/-- The first cores hold exactly the share. -/
structure Fills (share : Nat) (cores front : List Core) : Prop where
  first : front <+: cores
  size : (cpusOf front).length = share

theorem Fills.le (fills : Fills share cores front) : share ≤ (cpusOf cores).length := by
  rw [← fills.size]
  exact (cpusOf_sublist fills.first.sublist).length_le

theorem cpusOf_first (first : front <+: cores) : cpusOf front <+: cpusOf cores := by
  obtain ⟨back, rfl⟩ := first
  exact ⟨cpusOf back, (cpusOf_append front back).symm⟩

/-- Only cores without CPUs can be left out or added where a share is full. -/
theorem Fills.cpusOf_eq (fills : Fills share cores front) (also : Fills share cores other) :
    cpusOf front = cpusOf other := by
  have sizes : (cpusOf front).length = (cpusOf other).length := fills.size.trans also.size.symm
  rcases List.prefix_or_prefix_of_prefix fills.first also.first with shorter | longer
  · exact (cpusOf_first shorter).eq_of_length sizes
  · exact ((cpusOf_first longer).eq_of_length sizes.symm).symm

/-- The cores repeat no CPU and have none that is taken already. -/
structure Untaken (taken : CpuSet) (cores : List Core) : Prop where
  distinct : (cpusOf cores).Nodup
  fresh : ∀ cpu ∈ cpusOf cores, cpu ∉ taken

variable {taken : CpuSet}

theorem untaken_empty (distinct : (cpusOf cores).Nodup) : Untaken .empty cores :=
  ⟨distinct, fun cpu _ => CpuSet.mem_empty cpu⟩

theorem Untaken.size_insertAll (untaken : Untaken taken (core :: cores)) :
    (taken.insertAll core.cpus).size = taken.size + core.cpus.length := by
  apply CpuSet.size_insertAll
  · exact (List.nodup_append.1 untaken.distinct).1
  · intro cpu member
    exact untaken.fresh cpu (List.mem_append_left _ member)

theorem Untaken.insertAll (untaken : Untaken taken (core :: cores)) :
    Untaken (taken.insertAll core.cpus) cores where
  distinct := (List.nodup_append.1 untaken.distinct).2.1
  fresh := by
    intro cpu later inside
    rcases CpuSet.mem_insertAll.1 inside with before | own
    · exact untaken.fresh cpu (List.mem_append_right _ later) before
    · exact (List.nodup_append.1 untaken.distinct).2.2 cpu own cpu later rfl

end Cores

namespace Topology
variable {share : Nat} {cores front : List Core} {taken : CpuSet}

/-- First cores that fill up the share are taken. -/
theorem takeCores_of_fill (untaken : Untaken taken cores) (first : front <+: cores)
    (size : taken.size + (cpusOf front).length = share) :
    takeCores share cores taken = .ok (taken.insertAll (cpusOf front)) := by
  induction cores generalizing taken front with
  | nil =>
    obtain rfl := List.prefix_nil.1 first
    rfl
  | cons core rest ih =>
    rw [takeCores]
    by_cases full : taken.size = share
    · -- what the first cores still add has no CPU
      have none : cpusOf front = [] := by
        apply List.length_eq_zero_iff.1
        omega
      rw [if_pos full, none]
      rfl
    · rw [if_neg full]
      rcases List.prefix_cons_iff.1 first with rfl | ⟨more, rfl, further⟩
      · rw [cpusOf_nil, List.length_nil, Nat.add_zero] at size
        exact absurd size full
      · rw [cpusOf_cons, List.length_append, ← Nat.add_assoc] at size
        rw [if_neg (by omega), cpusOf_cons]
        rw [← untaken.size_insertAll] at size
        rw [ih untaken.insertAll further size]
        exact congrArg Except.ok List.foldl_append.symm

/-- Without such first cores, the core that leads beyond the share is a fault. -/
theorem takeCores_of_no_fill (untaken : Untaken taken cores) (room : taken.size ≤ share)
    (enough : share ≤ taken.size + (cpusOf cores).length)
    (none : ∀ front, front <+: cores → taken.size + (cpusOf front).length ≠ share) :
    takeCores share cores taken = .error (.splitsThreadSiblings share) := by
  induction cores generalizing taken with
  | nil =>
    have unfilled := none [] (List.prefix_refl [])
    rw [cpusOf_nil, List.length_nil] at enough unfilled
    omega
  | cons core rest ih =>
    have unfilled := none [] List.nil_prefix
    rw [cpusOf_nil, List.length_nil, Nat.add_zero] at unfilled
    rw [takeCores, if_neg unfilled]
    split_ifs with beyond
    · rfl
    · have grown := untaken.size_insertAll
      rw [cpusOf_cons, List.length_append] at enough
      apply ih untaken.insertAll
      · omega
      · omega
      · intro front first filled
        apply none (core :: front) (List.prefix_cons_iff.2 (.inr ⟨front, rfl, first⟩))
        rw [cpusOf_cons, List.length_append]
        omega

theorem takeCores_of_fills (distinct : (cpusOf cores).Nodup) (fills : Fills share cores front) :
    takeCores share cores .empty = .ok (.ofList (cpusOf front)) := by
  apply takeCores_of_fill (untaken_empty distinct) fills.first
  rw [fills.size]
  exact Nat.zero_add share

theorem takeCores_of_not_fills (distinct : (cpusOf cores).Nodup)
    (enough : share ≤ (cpusOf cores).length) (none : ¬ ∃ front, Fills share cores front) :
    takeCores share cores .empty = .error (.splitsThreadSiblings share) := by
  have zero : CpuSet.empty.size = 0 := rfl
  apply takeCores_of_no_fill (untaken_empty distinct)
  · omega
  · omega
  · intro front first filled
    exact none ⟨front, first, by omega⟩

section Shares
variable {count total position : Nat} {node : NumaNode} {nodes : List NumaNode}
  {chosen : List Core}

/-- A node can give the share of its position in whole cores. -/
def Provides (count total position : Nat) (node : NumaNode) : Prop :=
  nodeShare count total position ≤ node.cpuCount ∧
    ∃ front, Fills (nodeShare count total position) node.cores front

/-- What is reported of a node that can not: first that it is too small for its share. -/
def shareFault (count total position : Nat) (node : NumaNode) : CpuError :=
  let share := nodeShare count total position
  if node.cpuCount < share then .nodeCapacityExceeded node.id share node.cpuCount
  else .splitsThreadSiblings share

/-- Cores of the nodes from a position on: of every node the first ones, filling its share. -/
inductive Chooses (count total : Nat) : Nat → List NumaNode → List Core → Prop
  | nil (position : Nat) : Chooses count total position [] []
  | cons {position : Nat} {node : NumaNode} {nodes : List NumaNode} {front chosen : List Core}
      (fills : Fills (nodeShare count total position) node.cores front)
      (later : Chooses count total (position + 1) nodes chosen) :
      Chooses count total position (node :: nodes) (front ++ chosen)

theorem exists_chooses
    (provided : ∀ i node, nodes[i]? = some node → Provides count total (position + i) node) :
    ∃ chosen, Chooses count total position nodes chosen := by
  induction nodes generalizing position with
  | nil => exact ⟨[], .nil position⟩
  | cons node rest ih =>
    obtain ⟨_, front, fills⟩ := provided 0 node rfl
    obtain ⟨chosen, later⟩ := @ih (position + 1) fun i other found => by
      rw [Nat.add_assoc, Nat.add_comm 1 i]
      exact provided (i + 1) other found
    exact ⟨front ++ chosen, .cons fills later⟩

theorem Chooses.sublist (chooses : Chooses count total position nodes chosen) :
    chosen.Sublist (nodes.flatMap (·.cores)) := by
  induction chooses with
  | nil position => exact .refl _
  | cons fills later ih => exact fills.first.sublist.append ih

theorem Chooses.length (chooses : Chooses count total position nodes chosen) :
    (cpusOf chosen).length =
      ((List.range' position nodes.length).map (nodeShare count total)).sum := by
  induction chooses with
  | nil position => rfl
  | cons fills later ih =>
    rw [cpusOf_append, List.length_append, fills.size, ih]
    rfl

theorem Chooses.mem_iff (chooses : Chooses count total position nodes chosen) {cpu : Nat} :
    cpu ∈ cpusOf chosen ↔ ∃ i node front, nodes[i]? = some node ∧
      Fills (nodeShare count total (position + i)) node.cores front ∧ cpu ∈ cpusOf front := by
  induction chooses with
  | nil position => simp
  | @cons position node rest front chosen fills later ih =>
    rw [cpusOf_append, List.mem_append, ih]
    constructor
    · rintro (own | ⟨i, other, first, found, filled, inside⟩)
      · exact ⟨0, node, front, rfl, fills, own⟩
      · rw [Nat.add_assoc, Nat.add_comm 1 i] at filled
        exact ⟨i + 1, other, first, found, filled, inside⟩
    · rintro ⟨i, other, first, found, filled, inside⟩
      cases i with
      | zero =>
        cases found
        rw [filled.cpusOf_eq fills] at inside
        exact .inl inside
      | succ i =>
        rw [Nat.add_comm i 1, ← Nat.add_assoc] at filled
        exact .inr ⟨i, other, first, found, filled, inside⟩

/-- The shares of all positions make up the count. -/
theorem sum_nodeShare (some : 0 < total) :
    ((List.range' 0 total).map (nodeShare count total)).sum = count := by
  have upTo : ∀ size, ((List.range' 0 size).map (nodeShare count total)).sum =
      size * (count / total) + min size (count % total) := by
    intro size
    induction size with
    | zero => simp
    | succ size ih =>
      rw [List.range'_concat, List.map_append, List.sum_append, ih]
      simp only [Nat.one_mul, Nat.zero_add, List.map_cons, List.map_nil, List.sum_cons,
        List.sum_nil, nodeShare, Nat.add_mul]
      split_ifs <;> omega
  have small := Nat.mod_lt count some
  rw [upTo, Nat.min_eq_right (Nat.le_of_lt small), Nat.div_add_mod]

theorem takeShares_of_chooses (distinct : (cpusOf (nodes.flatMap (·.cores))).Nodup)
    (chooses : Chooses count total position nodes chosen) :
    takeShares count total position nodes taken = .ok (taken.union (.ofList (cpusOf chosen))) := by
  induction chooses generalizing taken with
  | nil position =>
    rw [takeShares]
    exact congrArg Except.ok (CpuSet.ext_mem fun cpu => by simp)
  | @cons position node rest front chosen fills later ih =>
    rw [List.flatMap_cons, cpusOf_append] at distinct
    obtain ⟨own, others, _⟩ := List.nodup_append.1 distinct
    have fitting : ¬ node.cpuCount < nodeShare count total position := Nat.not_lt.2 fills.le
    rw [takeShares, if_neg fitting, takeCores_of_fills own fills]
    dsimp only
    rw [ih others]
    exact congrArg Except.ok (CpuSet.ext_mem fun cpu => by simp [or_assoc])

theorem provides_iff : Provides count total position node ↔
    ∃ front, Fills (nodeShare count total position) node.cores front :=
  and_iff_right_of_imp fun ⟨_, fills⟩ => fills.le

/-- Where not all nodes can give their shares, there is a first one. -/
theorem first_lacking
    (lacking : ¬ ∀ i node, nodes[i]? = some node → Provides count total i node) :
    ∃ i node, nodes[i]? = some node ∧ ¬ Provides count total i node ∧
      ∀ j < i, ∀ earlier, nodes[j]? = some earlier → Provides count total j earlier := by
  classical
  have somewhere : ∃ i node, nodes[i]? = some node ∧ ¬ Provides count total i node := by
    simpa only [not_forall, exists_prop] using lacking
  obtain ⟨node, found, fails⟩ := Nat.find_spec somewhere
  refine ⟨_, node, found, fails, fun j less earlier before => ?_⟩
  by_contra also
  exact Nat.find_min somewhere less ⟨earlier, before, also⟩

/-- The fault is that of the first node that can not give its share. -/
theorem takeShares_of_lacking (distinct : (cpusOf (nodes.flatMap (·.cores))).Nodup) {i : Nat}
    (found : nodes[i]? = some node) (lacking : ¬ Provides count total (position + i) node)
    (before : ∀ j < i, ∀ other, nodes[j]? = some other →
      Provides count total (position + j) other) :
    takeShares count total position nodes taken =
      .error (shareFault count total (position + i) node) := by
  induction nodes generalizing position i taken with
  | nil => cases found
  | cons first rest ih =>
    rw [List.flatMap_cons, cpusOf_append] at distinct
    obtain ⟨own, others, _⟩ := List.nodup_append.1 distinct
    rw [takeShares]
    cases i with
    | zero =>
      cases found
      simp only [Nat.add_zero, shareFault] at lacking ⊢
      split_ifs with small
      · rfl
      · have enough := Nat.not_lt.1 small
        rw [takeCores_of_not_fills own enough (mt provides_iff.2 lacking)]
    | succ i =>
      obtain ⟨fitting, front, fills⟩ := before 0 (Nat.succ_pos i) first rfl
      rw [Nat.add_zero] at fitting fills
      rw [if_neg (Nat.not_lt.2 fitting), takeCores_of_fills own fills]
      dsimp only
      rw [← Nat.add_assoc, Nat.add_right_comm] at lacking ⊢
      apply ih others found lacking
      intro j less other earlier
      rw [Nat.add_right_comm, Nat.add_assoc]
      exact before (j + 1) (Nat.succ_lt_succ less) other earlier

end Shares

section Sides
variable {topology : Topology} {count : Nat} {chosen : List Core}

/-- Both sides of a reservation: so many CPUs are reserved, in whole cores, and all others, at least
one, are isolated. -/
structure Divides (topology : Topology) (count : Nat) (reserved isolated : CpuSet) : Prop where
  size : reserved.size = count
  isolated_eq : isolated = topology.allCpus.diff reserved
  filled : isolated ≠ .empty
  apart : ∀ cpu ∈ reserved, cpu ∉ isolated
  whole : reserved.union isolated = topology.allCpus
  unsplit : ∀ core ∈ topology.cores,
    (∀ cpu ∈ core.cpus, cpu ∈ reserved) ∨ ∀ cpu ∈ core.cpus, cpu ∈ isolated

theorem mem_allCpus {cpu : Nat} : cpu ∈ topology.allCpus ↔ cpu ∈ cpusOf topology.cores :=
  CpuSet.mem_ofList

/-- On a machine that repeats no CPU, two different cores have none in common. -/
theorem eq_of_mem_cpus (distinct : (cpusOf topology.cores).Nodup) {first second : Core} {cpu : Nat}
    (one : first ∈ topology.cores) (two : second ∈ topology.cores) (inFirst : cpu ∈ first.cpus)
    (inSecond : cpu ∈ second.cpus) : first = second := by
  by_contra different
  have apart := (List.nodup_flatMap.1 distinct).2
  have symmetric : Std.Symm (Function.onFun List.Disjoint fun core : Core => core.cpus) :=
    ⟨fun _ _ disjoint _ second first => disjoint first second⟩
  exact apart.forall one two different inFirst inSecond

/-- Whole cores that leave a CPU over divide the machine. -/
theorem divides_of_chosen (distinct : (cpusOf topology.cores).Nodup)
    (part : chosen.Sublist topology.cores) (size : (cpusOf chosen).length = count)
    (less : count < topology.cpuCount) :
    Divides topology count (.ofList (cpusOf chosen))
      (topology.allCpus.diff (.ofList (cpusOf chosen))) where
  size := by
    rw [← size]
    exact CpuSet.size_eq_length (distinct.sublist (cpusOf_sublist part)) fun _ => CpuSet.mem_ofList
  isolated_eq := rfl
  filled := by
    intro none
    have covered : ∀ cpu ∈ cpusOf topology.cores, cpu ∈ cpusOf chosen := by
      intro cpu member
      by_contra outside
      apply CpuSet.mem_empty cpu
      rw [← none, CpuSet.mem_diff, mem_allCpus, CpuSet.mem_ofList]
      exact ⟨member, outside⟩
    have bounded := (distinct.subperm covered).length_le
    rw [size] at bounded
    exact Nat.not_lt.2 bounded less
  apart := fun _ inside outside => (CpuSet.mem_diff.1 outside).2 inside
  whole := by
    apply CpuSet.ext_mem
    intro cpu
    have contained : cpu ∈ cpusOf chosen → cpu ∈ cpusOf topology.cores :=
      fun member => (cpusOf_sublist part).subset member
    rw [CpuSet.mem_union, CpuSet.mem_diff, mem_allCpus, CpuSet.mem_ofList]
    tauto
  unsplit := by
    intro core member
    by_cases taken : core ∈ chosen
    · left
      intro cpu own
      exact CpuSet.mem_ofList.2 (mem_cpusOf.2 ⟨core, taken, own⟩)
    · right
      intro cpu own
      rw [CpuSet.mem_diff, mem_allCpus, CpuSet.mem_ofList]
      refine ⟨mem_cpusOf.2 ⟨core, member, own⟩, fun inside => ?_⟩
      obtain ⟨other, picked, shared⟩ := mem_cpusOf.1 inside
      rw [eq_of_mem_cpus distinct member (part.subset picked) own shared] at taken
      exact taken picked

end Sides

section Reserve
variable {topology : Topology} {count : Nat} {split : Bool}

theorem reserve_out_of_range {count : Int} (outside : ¬ (1 ≤ count ∧ count ≤ topology.cpuCount - 1))
    (split : Bool) : topology.reserve count split =
      .error (.invalidReservedCount count (topology.cpuCount - 1)) := by
  have refused : ¬ (1 ≤ count ∧ count ≤ (topology.cpuCount - 1 : Nat)) := by omega
  rw [reserve, if_neg refused]

theorem natural_of_in_range {count : Int} {total : Nat}
    (within : 1 ≤ count ∧ count ≤ (total : Int) - 1) :
    ∃ number : Nat, count = number ∧ 1 ≤ number ∧ number < total :=
  ⟨count.toNat, by omega, by omega, by omega⟩

theorem in_range_of_reserve {count : Int} {sides : CpuSet × CpuSet}
    (taken : topology.reserve count split = .ok sides) :
    1 ≤ count ∧ count ≤ (topology.cpuCount : Int) - 1 := by
  by_contra outside
  rw [reserve_out_of_range outside] at taken
  cases taken

variable (positive : 1 ≤ count) (less : count < topology.cpuCount)
include positive less

theorem reserve_in_range : topology.reserve count split =
    (topology.reservedCpus count split).map fun reserved =>
      (reserved, topology.allCpus.diff reserved) := by
  have accepted : 1 ≤ (count : Int) ∧ (count : Int) ≤ (topology.cpuCount - 1 : Nat) := by omega
  rw [reserve, if_pos accepted, Int.toNat_natCast]
  cases topology.reservedCpus count split <;> rfl

variable (distinct : (cpusOf topology.cores).Nodup)
include distinct

theorem reserve_of_fills {front : List Core} (fills : Fills count topology.cores front) :
    topology.reserve count false = .ok (.ofList (cpusOf front),
      topology.allCpus.diff (.ofList (cpusOf front))) := by
  rw [reserve_in_range positive less, reservedCpus, if_neg (by simp),
    takeCores_of_fills distinct fills]
  rfl

theorem reserve_of_not_fills (none : ¬ ∃ front, Fills count topology.cores front) :
    topology.reserve count false = .error (.splitsThreadSiblings count) := by
  rw [reserve_in_range positive less, reservedCpus, if_neg (by simp),
    takeCores_of_not_fills distinct (Nat.le_of_lt less) none]
  rfl

omit distinct positive in
theorem nodes_ne_nil : topology.nodes ≠ [] := by
  intro none
  rw [cpuCount, cores, none] at less
  cases less

omit distinct in
theorem reserve_split : topology.reserve count true =
    (takeShares count topology.nodes.length 0 topology.nodes .empty).map fun reserved =>
      (reserved, topology.allCpus.diff reserved) := by
  rw [reserve_in_range positive less, reservedCpus, if_pos ⟨rfl, nodes_ne_nil less⟩]

theorem reserve_of_chooses {chosen : List Core}
    (chooses : Chooses count topology.nodes.length 0 topology.nodes chosen) :
    topology.reserve count true = .ok (.ofList (cpusOf chosen),
      topology.allCpus.diff (.ofList (cpusOf chosen))) := by
  have alone : CpuSet.empty.union (.ofList (cpusOf chosen)) = .ofList (cpusOf chosen) :=
    CpuSet.ext_mem fun cpu => by simp
  rw [reserve_split positive less, takeShares_of_chooses distinct chooses, alone]
  rfl

theorem reserve_of_lacking {i : Nat} {node : NumaNode} (found : topology.nodes[i]? = some node)
    (lacking : ¬ Provides count topology.nodes.length i node)
    (before : ∀ j < i, ∀ other, topology.nodes[j]? = some other →
      Provides count topology.nodes.length j other) :
    topology.reserve count true = .error (shareFault count topology.nodes.length i node) := by
  have failed := @takeShares_of_lacking .empty count topology.nodes.length 0 node topology.nodes
    distinct i found
  simp only [Nat.zero_add] at failed
  rw [reserve_split positive less, failed lacking before]
  rfl

/-- From the lowest cores on: taken exactly if some first cores fill the count. -/
theorem reserve_lowest :
    ((∃ sides, topology.reserve count false = .ok sides) ↔
      ∃ front, Fills count topology.cores front) ∧
    ((¬ ∃ front, Fills count topology.cores front) →
      topology.reserve count false = .error (.splitsThreadSiblings count)) ∧
    ∀ reserved isolated, topology.reserve count false = .ok (reserved, isolated) →
      (∀ front, Fills count topology.cores front →
        ∀ cpu, cpu ∈ reserved ↔ cpu ∈ cpusOf front) ∧
      Divides topology count reserved isolated := by
  have faulty := reserve_of_not_fills positive less distinct
  have fillable : ∀ sides, topology.reserve count false = .ok sides →
      ∃ front, Fills count topology.cores front := by
    intro sides taken
    by_contra none
    rw [faulty none] at taken
    cases taken
  refine ⟨⟨fun ⟨sides, taken⟩ => fillable sides taken, ?_⟩, faulty, ?_⟩
  · rintro ⟨front, fills⟩
    exact ⟨_, reserve_of_fills positive less distinct fills⟩
  · intro reserved isolated taken
    obtain ⟨front, fills⟩ := fillable _ taken
    rw [reserve_of_fills positive less distinct fills] at taken
    cases taken
    constructor
    · intro other also cpu
      rw [CpuSet.mem_ofList, fills.cpusOf_eq also]
    · exact divides_of_chosen distinct fills.first.sublist fills.size less

/-- Evenly from every node: taken exactly if every node provides its share. -/
theorem reserve_evenly :
    ((∃ sides, topology.reserve count true = .ok sides) ↔
      ∀ i node, topology.nodes[i]? = some node → Provides count topology.nodes.length i node) ∧
    (∀ i node, topology.nodes[i]? = some node → ¬ Provides count topology.nodes.length i node →
      (∀ j < i, ∀ earlier, topology.nodes[j]? = some earlier →
        Provides count topology.nodes.length j earlier) →
      topology.reserve count true = .error (shareFault count topology.nodes.length i node)) ∧
    ∀ reserved isolated, topology.reserve count true = .ok (reserved, isolated) →
      (∀ cpu, cpu ∈ reserved ↔ ∃ i node front, topology.nodes[i]? = some node ∧
        Fills (nodeShare count topology.nodes.length i) node.cores front ∧ cpu ∈ cpusOf front) ∧
      Divides topology count reserved isolated := by
  have faulty : ∀ i node, topology.nodes[i]? = some node →
      ¬ Provides count topology.nodes.length i node →
      (∀ j < i, ∀ earlier, topology.nodes[j]? = some earlier →
        Provides count topology.nodes.length j earlier) →
      topology.reserve count true = .error (shareFault count topology.nodes.length i node) :=
    fun _ _ found lacking before => reserve_of_lacking positive less distinct found lacking before
  have providing : ∀ sides, topology.reserve count true = .ok sides →
      ∀ i node, topology.nodes[i]? = some node → Provides count topology.nodes.length i node := by
    intro sides taken
    by_contra lacking
    obtain ⟨i, node, found, fails, before⟩ := first_lacking lacking
    rw [faulty i node found fails before] at taken
    cases taken
  have choose : (∀ i node, topology.nodes[i]? = some node →
      Provides count topology.nodes.length i node) →
      ∃ chosen, Chooses count topology.nodes.length 0 topology.nodes chosen := by
    intro provided
    apply exists_chooses
    intro i node found
    rw [Nat.zero_add]
    exact provided i node found
  refine ⟨⟨fun ⟨sides, taken⟩ => providing sides taken, fun provided => ?_⟩, faulty, ?_⟩
  · obtain ⟨chosen, chooses⟩ := choose provided
    exact ⟨_, reserve_of_chooses positive less distinct chooses⟩
  · intro reserved isolated taken
    obtain ⟨chosen, chooses⟩ := choose (providing _ taken)
    rw [reserve_of_chooses positive less distinct chooses] at taken
    cases taken
    constructor
    · intro cpu
      rw [CpuSet.mem_ofList, chooses.mem_iff]
      simp only [Nat.zero_add]
    · have some : 0 < topology.nodes.length := List.length_pos_iff.2 (nodes_ne_nil less)
      have size : (cpusOf chosen).length = count := chooses.length.trans (sum_nodeShare some)
      exact divides_of_chosen distinct chooses.sublist size less

end Reserve

/-- On a machine that repeats no CPU, a count from one up to all but one CPU is reserved in whole
cores or refused: from the lowest cores on it has to be what some first cores hold, and evenly from
all nodes the first cores of every node have to hold the share of its position. What is reported is
the fault of the first node without its share. -/
theorem reserve_takes_whole_cores {topology : Topology} (distinct : (cpusOf topology.cores).Nodup)
    (count : Int) :
    (¬ (1 ≤ count ∧ count ≤ (topology.cpuCount : Int) - 1) → ∀ split,
      topology.reserve count split =
        .error (.invalidReservedCount count (topology.cpuCount - 1))) ∧
    (1 ≤ count ∧ count ≤ (topology.cpuCount : Int) - 1 →
      let number := count.toNat
      let nodes := topology.nodes
      (((∃ sides, topology.reserve count false = .ok sides) ↔
          ∃ front, Fills number topology.cores front) ∧
        ((¬ ∃ front, Fills number topology.cores front) →
          topology.reserve count false = .error (.splitsThreadSiblings number)) ∧
        ∀ reserved isolated, topology.reserve count false = .ok (reserved, isolated) →
          (∀ front, Fills number topology.cores front →
            ∀ cpu, cpu ∈ reserved ↔ cpu ∈ cpusOf front) ∧
          Divides topology number reserved isolated) ∧
      ((∃ sides, topology.reserve count true = .ok sides) ↔
          ∀ i node, nodes[i]? = some node → Provides number nodes.length i node) ∧
        (∀ i node, nodes[i]? = some node → ¬ Provides number nodes.length i node →
          (∀ j < i, ∀ earlier, nodes[j]? = some earlier → Provides number nodes.length j earlier) →
          topology.reserve count true = .error (shareFault number nodes.length i node)) ∧
        ∀ reserved isolated, topology.reserve count true = .ok (reserved, isolated) →
          (∀ cpu, cpu ∈ reserved ↔ ∃ i node front, nodes[i]? = some node ∧
            Fills (nodeShare number nodes.length i) node.cores front ∧ cpu ∈ cpusOf front) ∧
          Divides topology number reserved isolated) := by
  constructor
  · exact reserve_out_of_range
  · intro within
    obtain ⟨number, rfl, positive, less⟩ := natural_of_in_range within
    exact ⟨reserve_lowest positive less distinct, reserve_evenly positive less distinct⟩

/-- A machine with a core without CPUs, a node without cores, and cores of different sizes. -/
def irregular : Topology where
  nodes := [⟨7, [⟨0, [4]⟩, ⟨1, []⟩, ⟨2, [9, 0]⟩]⟩, ⟨3, []⟩, ⟨5, [⟨3, [2, 6]⟩, ⟨4, [1]⟩]⟩]
  hyperthreading := true

/-- Three CPUs are what the first cores hold. Evenly, one would be the share of every node, and the
second has none. -/
theorem reserve_takes_whole_cores_irregular : (cpusOf irregular.cores).Nodup ∧
    (∃ reserved isolated, irregular.reserve 3 false = .ok (reserved, isolated) ∧
      (∀ cpu, cpu ∈ reserved ↔ cpu = 4 ∨ cpu = 9 ∨ cpu = 0) ∧
      Divides irregular 3 reserved isolated) ∧
    irregular.reserve 3 true = .error (.nodeCapacityExceeded 3 1 0) := by
  have distinct : (cpusOf irregular.cores).Nodup := by decide
  obtain ⟨⟨⟨_, reservable⟩, _, lowest⟩, _, faulty, _⟩ :=
    (reserve_takes_whole_cores distinct 3).2 (by decide)
  have fills : Fills 3 irregular.cores [⟨0, [4]⟩, ⟨1, []⟩, ⟨2, [9, 0]⟩] := ⟨⟨_, rfl⟩, rfl⟩
  refine ⟨distinct, ?_, ?_⟩
  · obtain ⟨⟨reserved, isolated⟩, taken⟩ := reservable ⟨_, fills⟩
    obtain ⟨members, divides⟩ := lowest reserved isolated taken
    refine ⟨reserved, isolated, taken, fun cpu => ?_, divides⟩
    rw [members _ fills]
    simp
  · apply faulty 1 ⟨3, []⟩ rfl
    · rintro ⟨fitting, _⟩
      contradiction
    · intro j before earlier found
      obtain rfl : j = 0 := by omega
      cases found
      exact ⟨by decide, [⟨0, [4]⟩], ⟨_, rfl⟩, rfl⟩

end Topology
end NodeTuning
