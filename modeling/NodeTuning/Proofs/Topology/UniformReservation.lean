import NodeTuning.Proofs.Topology.Uniform

/-!
Reservations on uniform machines. All cores have the same number of CPUs, so a share can be taken
exactly if it is a multiple of that, and no share is ever too large for its node. Main statement:
which counts can be reserved, and which CPUs are reserved then.
-/
namespace NodeTuning.Topology
variable {count nodes total share cpu i : Nat} {hyperthreading : Bool} {numbers : List Nat}
  {front : List Core}

theorem fills_uniform (multiple : threads hyperthreading ∣ share)
    (enough : share ≤ threads hyperthreading * numbers.length) :
    Fills share (numbers.map (uniformCore total hyperthreading))
      ((numbers.take (share / threads hyperthreading)).map (uniformCore total hyperthreading)) where
  first := by
    have lowest := List.take_prefix (share / threads hyperthreading) numbers
    exact lowest.map _
  size := by
    have whole := Nat.mul_div_cancel' multiple
    rw [← whole] at enough
    have fitting := Nat.le_of_mul_le_mul_left enough (threads_pos hyperthreading)
    rw [length_cpusOf_uniform, List.length_take, Nat.min_eq_left fitting, whole]

theorem dvd_of_fills
    (fills : Fills share (numbers.map (uniformCore total hyperthreading)) front) :
    threads hyperthreading ∣ share := by
  obtain ⟨first, _, rfl⟩ := List.prefix_map_iff.1 fills.first
  rw [← fills.size, length_cpusOf_uniform]
  exact Nat.dvd_mul_right _ _

theorem exists_fills_iff (enough : share ≤ threads hyperthreading * numbers.length) :
    (∃ front, Fills share (numbers.map (uniformCore total hyperthreading)) front) ↔
      threads hyperthreading ∣ share :=
  ⟨fun ⟨_, fills⟩ => dvd_of_fills fills, fun multiple => ⟨_, fills_uniform multiple enough⟩⟩

theorem threads_dvd_iff : threads hyperthreading ∣ count ↔ (hyperthreading = true → 2 ∣ count) := by
  cases hyperthreading <;> simp [threads]

section Lowest

/-- The CPUs of the lowest cores that hold the count. -/
def lowestCpus (total count : Nat) (hyperthreading : Bool) : CpuSet :=
  if hyperthreading then
    (CpuSet.range 0 (count / 2 - 1)).union (.range total (total + count / 2 - 1))
  else .range 0 (count - 1)

theorem mem_lowestCpus (positive : 1 ≤ count) (multiple : threads hyperthreading ∣ count) :
    cpu ∈ lowestCpus total count hyperthreading ↔
      ∃ core < count / threads hyperthreading,
        cpu = core ∨ hyperthreading = true ∧ cpu = core + total := by
  cases hyperthreading
  · have single : count / threads false = count := Nat.div_one count
    simp only [lowestCpus, Bool.false_eq_true, if_false, CpuSet.mem_range, single, false_and,
      or_false, exists_eq_right']
    omega
  · have double : threads true = 2 := rfl
    rw [double] at multiple ⊢
    simp only [lowestCpus, if_true, CpuSet.mem_union, CpuSet.mem_range, true_and]
    constructor
    · rintro (first | second)
      · exact ⟨cpu, by omega, .inl rfl⟩
      · exact ⟨cpu - total, by omega, .inr (by omega)⟩
    · rintro ⟨core, inside, rfl | rfl⟩ <;> omega

variable (even : nodes ∣ total) (positive : 1 ≤ count)
  (less : count < (evenLayout total nodes hyperthreading).cpuCount)
include even positive less

theorem uniform_reserve_lowest :
    ((∃ sides, (evenLayout total nodes hyperthreading).reserve count false = .ok sides) ↔
      threads hyperthreading ∣ count) ∧
    (¬ threads hyperthreading ∣ count →
      (evenLayout total nodes hyperthreading).reserve count false =
        .error (.splitsThreadSiblings count)) ∧
    ∀ reserved isolated,
      (evenLayout total nodes hyperthreading).reserve count false = .ok (reserved, isolated) →
        reserved = lowestCpus total count hyperthreading := by
  obtain ⟨reservable, faulty, taken⟩ := reserve_lowest positive less (distinct_evenLayout even)
  rw [cpuCount_evenLayout even] at less
  have enough : count ≤ threads hyperthreading * (List.range total).length := by
    rw [List.length_range]
    exact Nat.le_of_lt less
  rw [cores_evenLayout even, exists_fills_iff enough] at reservable faulty
  refine ⟨reservable, faulty, fun reserved isolated done => ?_⟩
  have multiple := reservable.1 ⟨_, done⟩
  have members := (taken reserved isolated done).1
  rw [cores_evenLayout even] at members
  have few : count / threads hyperthreading ≤ total :=
    Nat.div_le_of_le_mul (Nat.le_of_lt less)
  apply CpuSet.ext_mem
  intro other
  rw [members _ (fills_uniform multiple enough), mem_cpusOf_uniform, List.take_range,
    Nat.min_eq_left few, mem_lowestCpus positive multiple]
  simp only [List.mem_range, mem_uniformCore]

end Lowest

section Shares

/-- A count below what all nodes have makes shares that no node is too small for. -/
theorem nodeShare_le {capacity : Nat} (less : count < nodes * capacity) (i : Nat) :
    nodeShare count nodes i ≤ capacity := by
  have below : count / nodes < capacity := Nat.div_lt_of_lt_mul less
  rw [nodeShare]
  split_ifs <;> omega

/-- Where a remainder is given to some nodes and not to others, a share is odd. -/
theorem two_dvd_shares_iff (some : 0 < nodes) :
    (∀ i < nodes, 2 ∣ nodeShare count nodes i) ↔ 2 * nodes ∣ count := by
  have parts := Nat.div_add_mod count nodes
  have small := Nat.mod_lt count some
  constructor
  · intro shares
    have lowest := shares 0 some
    have highest := shares (nodes - 1) (by omega)
    rw [nodeShare] at lowest highest
    rw [if_neg (by omega)] at highest
    have noRest : count % nodes = 0 := by
      by_contra rest
      rw [if_pos (by omega)] at lowest
      omega
    rw [Nat.mul_comm, ← Nat.div_mul_cancel (Nat.dvd_of_mod_eq_zero noRest), Nat.mul_comm nodes]
    exact Nat.mul_dvd_mul_right highest nodes
  · rintro ⟨half, rfl⟩ i _
    have share : 2 * nodes * half / nodes = 2 * half := by
      rw [Nat.mul_right_comm, Nat.mul_div_cancel _ some]
    have noRest : 2 * nodes * half % nodes = 0 := by
      rw [Nat.mul_right_comm, Nat.mul_mod_left]
    rw [nodeShare, share, noRest, if_neg (Nat.not_lt_zero i)]
    exact Nat.dvd_mul_right 2 half

theorem threads_dvd_shares_iff (some : 0 < nodes) :
    (∀ i < nodes, threads hyperthreading ∣ nodeShare count nodes i) ↔
      (hyperthreading = true → 2 * nodes ∣ count) := by
  cases hyperthreading
  · simp [threads]
  · rw [forall_prop_of_true rfl]
    exact two_dvd_shares_iff some

theorem getElem?_evenLayout {node : NumaNode} :
    (evenLayout total nodes hyperthreading).nodes[i]? = some node ↔
      i < nodes ∧ node = uniformNode total (total / nodes) hyperthreading i := by
  rw [evenLayout, List.getElem?_map, Option.map_eq_some_iff]
  constructor
  · rintro ⟨position, found, rfl⟩
    obtain ⟨inside, same⟩ := List.getElem?_eq_some_iff.1 found
    rw [List.getElem_range] at same
    rw [List.length_range] at inside
    exact ⟨inside, by rw [same]⟩
  · rintro ⟨inside, rfl⟩
    exact ⟨i, List.getElem?_range inside, rfl⟩

theorem node_at (inside : i < nodes) :
    (evenLayout total nodes hyperthreading).nodes[i]? =
      some (uniformNode total (total / nodes) hyperthreading i) :=
  getElem?_evenLayout.2 ⟨inside, rfl⟩

theorem length_evenLayout : (evenLayout total nodes hyperthreading).nodes.length = nodes := by
  rw [evenLayout, List.length_map, List.length_range]

/-- How many cores a node gives for the share of its position. -/
def coreShare (count nodes position : Nat) (hyperthreading : Bool) : Nat :=
  nodeShare count nodes position / threads hyperthreading

/-- Of the CPUs of a node so many are reserved, and they are those of its lowest cores. -/
structure Contributes (reserved : CpuSet) (share cores : Nat) (node : NumaNode) : Prop where
  size : ((cpusOf node.cores).filter reserved.contains).length = share
  lowest : (cpusOf node.cores).filter reserved.contains = cpusOf (node.cores.take cores)

/-- Of every node the first cores are reserved, as many as its share takes, and nothing else is. -/
def TakesLowest (reserved : CpuSet) (count nodes total : Nat) (hyperthreading : Bool) : Prop :=
  ∀ cpu, cpu ∈ reserved ↔ ∃ i < nodes, ∃ core, i * (total / nodes) ≤ core ∧
    core < i * (total / nodes) + coreShare count nodes i hyperthreading ∧
    cpu ∈ (uniformCore total hyperthreading core).cpus

variable (even : nodes ∣ total) (positive : 1 ≤ count)
  (less : count < (evenLayout total nodes hyperthreading).cpuCount)

/-- Blocks of cores do not overlap. -/
theorem eq_of_same_block {core size j : Nat} (lower : i * size ≤ core)
    (upper : core < i * size + size) (lowerToo : j * size ≤ core)
    (upperToo : core < j * size + size) : i = j := by
  rw [← Nat.succ_mul] at upper upperToo
  have here := Nat.div_eq_of_lt_le lower upper
  have there := Nat.div_eq_of_lt_le lowerToo upperToo
  exact here.symm.trans there

include even less

theorem share_le (i : Nat) :
    nodeShare count nodes i ≤ threads hyperthreading * (total / nodes) := by
  apply nodeShare_le
  rwa [cpuCount_evenLayout even, ← Nat.mul_div_cancel' even, Nat.mul_left_comm] at less

theorem coreShare_le (i : Nat) : coreShare count nodes i hyperthreading ≤ total / nodes :=
  Nat.div_le_of_le_mul (share_le even less i)

theorem provides_evenLayout {node : NumaNode}
    (found : (evenLayout total nodes hyperthreading).nodes[i]? = some node) :
    Provides count nodes i node ↔ threads hyperthreading ∣ nodeShare count nodes i := by
  obtain ⟨inside, rfl⟩ := getElem?_evenLayout.1 found
  have enough := share_le even less i
  rw [provides_iff, uniformNode, exists_fills_iff]
  rwa [List.length_range']

theorem shareFault_evenLayout {node : NumaNode}
    (found : (evenLayout total nodes hyperthreading).nodes[i]? = some node) :
    shareFault count nodes i node = .splitsThreadSiblings (nodeShare count nodes i) := by
  obtain ⟨inside, rfl⟩ := getElem?_evenLayout.1 found
  have size := @length_cpusOf_uniform total hyperthreading
    (List.range' (i * (total / nodes)) (total / nodes))
  rw [List.length_range'] at size
  have fitting : ¬ (uniformNode total (total / nodes) hyperthreading i).cpuCount <
      nodeShare count nodes i := by
    rw [NumaNode.cpuCount]
    exact Nat.not_lt.2 ((share_le even less i).trans_eq size.symm)
  rw [shareFault, if_neg fitting]

/-- The cores that the node at a position gives. -/
theorem mem_given {node : NumaNode} {front : List Core}
    (found : (evenLayout total nodes hyperthreading).nodes[i]? = some node)
    (fills : Fills (nodeShare count nodes i) node.cores front) :
    cpu ∈ cpusOf front ↔ ∃ core, i * (total / nodes) ≤ core ∧
      core < i * (total / nodes) + coreShare count nodes i hyperthreading ∧
      cpu ∈ (uniformCore total hyperthreading core).cpus := by
  have multiple := (provides_evenLayout even less found).1 (provides_iff.2 ⟨front, fills⟩)
  obtain ⟨inside, rfl⟩ := getElem?_evenLayout.1 found
  have enough := share_le even less i
  have few := coreShare_le even less i
  rw [fills.cpusOf_eq (fills_uniform multiple (by rwa [List.length_range'])), mem_cpusOf_uniform,
    ← coreShare, List.take_range'_of_length_ge few]
  simp only [List.mem_range'_1, and_assoc]

include positive in
theorem uniform_reserve_evenly :
    ((∃ sides, (evenLayout total nodes hyperthreading).reserve count true = .ok sides) ↔
      ∀ i < nodes, threads hyperthreading ∣ nodeShare count nodes i) ∧
    (∀ fault, (evenLayout total nodes hyperthreading).reserve count true = .error fault →
      ∃ share, fault = .splitsThreadSiblings share) ∧
    ∀ reserved isolated,
      (evenLayout total nodes hyperthreading).reserve count true = .ok (reserved, isolated) →
        TakesLowest reserved count nodes total hyperthreading := by
  obtain ⟨reservable, faulty, taken⟩ := reserve_evenly positive less (distinct_evenLayout even)
  rw [length_evenLayout] at reservable faulty taken
  refine ⟨⟨fun done i inside => ?_, fun multiples => ?_⟩, ?_, ?_⟩
  · exact (provides_evenLayout even less (node_at inside)).1
      (reservable.1 done i _ (node_at inside))
  · apply reservable.2
    intro i node found
    exact (provides_evenLayout even less found).2 (multiples i (getElem?_evenLayout.1 found).1)
  · intro fault failed
    have lacking := mt reservable.2 (fun ⟨sides, done⟩ => by rw [done] at failed; cases failed)
    obtain ⟨i, node, found, fails, before⟩ := first_lacking lacking
    have reported := faulty i node found fails before
    rw [failed, shareFault_evenLayout even less found] at reported
    exact ⟨_, Except.error.inj reported⟩
  · intro reserved isolated done cpu
    have provided := reservable.1 ⟨_, done⟩
    rw [(taken reserved isolated done).1]
    constructor
    · rintro ⟨i, node, front, found, fills, inside⟩
      exact ⟨i, (getElem?_evenLayout.1 found).1, (mem_given even less found fills).1 inside⟩
    · rintro ⟨i, inside, given⟩
      obtain ⟨_, front, fills⟩ := provided i _ (node_at inside)
      exact ⟨i, _, front, node_at inside, fills,
        (mem_given even less (node_at inside) fills).2 given⟩

variable {reserved : CpuSet} (takes : TakesLowest reserved count nodes total hyperthreading)
include takes

omit even less in
theorem TakesLowest.contains (inside : i < nodes) {core : Nat} (lower : i * (total / nodes) ≤ core)
    (upper : core < i * (total / nodes) + coreShare count nodes i hyperthreading) :
    ∀ cpu ∈ (uniformCore total hyperthreading core).cpus, reserved.contains cpu = true :=
  fun cpu own => CpuSet.contains_iff.2 ((takes cpu).2 ⟨i, inside, core, lower, upper, own⟩)

theorem TakesLowest.not_contains (inside : i < nodes) {core : Nat}
    (lower : i * (total / nodes) + coreShare count nodes i hyperthreading ≤ core)
    (upper : core < i * (total / nodes) + total / nodes) :
    ∀ cpu ∈ (uniformCore total hyperthreading core).cpus, ¬ reserved.contains cpu = true := by
  intro cpu own also
  obtain ⟨j, insideToo, other, lowerToo, upperToo, ownToo⟩ :=
    (takes cpu).1 (CpuSet.contains_iff.1 also)
  have fewToo := coreShare_le even less j
  have bound := block_le total inside
  have boundToo := block_le total insideToo
  rw [Nat.succ_mul] at bound boundToo
  -- both cores are below the total, so the CPU is of one core, and that is in one block
  obtain rfl := eq_of_mem_uniformCore (by omega) (by omega) own ownToo
  obtain rfl := @eq_of_same_block i core (total / nodes) j (by omega) upper lowerToo (by omega)
  omega

/-- The reserved CPUs of a node are those of as many of its first cores as its share takes. -/
theorem contributes {node : NumaNode} (multiple : threads hyperthreading ∣ nodeShare count nodes i)
    (found : (evenLayout total nodes hyperthreading).nodes[i]? = some node) :
    Contributes reserved (nodeShare count nodes i) (coreShare count nodes i hyperthreading)
      node := by
  obtain ⟨inside, rfl⟩ := getElem?_evenLayout.1 found
  have few := coreShare_le even less i
  have parts : List.range' (i * (total / nodes)) (total / nodes) =
      List.range' (i * (total / nodes)) (coreShare count nodes i hyperthreading) ++
        List.range' (i * (total / nodes) + coreShare count nodes i hyperthreading)
          (total / nodes - coreShare count nodes i hyperthreading) := by
    rw [List.range'_append_1, Nat.add_sub_cancel' few]
  have kept : (cpusOf (uniformNode total (total / nodes) hyperthreading i).cores).filter
      reserved.contains = cpusOf ((List.range' (i * (total / nodes))
        (coreShare count nodes i hyperthreading)).map (uniformCore total hyperthreading)) := by
    rw [uniformNode, parts, List.map_append, cpusOf_append, List.filter_append,
      List.filter_eq_self.2, List.filter_eq_nil_iff.2, List.append_nil]
    · intro cpu member
      obtain ⟨core, listed, own⟩ := mem_cpusOf_uniform.1 member
      obtain ⟨lower, upper⟩ := List.mem_range'_1.1 listed
      exact takes.not_contains even less inside lower (by omega) cpu own
    · intro cpu member
      obtain ⟨core, listed, own⟩ := mem_cpusOf_uniform.1 member
      obtain ⟨lower, upper⟩ := List.mem_range'_1.1 listed
      exact takes.contains inside lower upper cpu own
  constructor
  · rw [kept, length_cpusOf_uniform, List.length_range', coreShare, Nat.mul_div_cancel' multiple]
  · rw [kept, uniformNode, ← List.map_take, List.take_range'_of_length_ge few]

end Shares

section Counts
variable {requested : Int} {split : Bool} {fault : CpuError} (even : nodes ∣ total)
include even

theorem reserve_lowest_iff :
    (∃ sides, (evenLayout total nodes hyperthreading).reserve requested false = .ok sides) ↔
      (1 ≤ requested ∧ requested ≤ ((evenLayout total nodes hyperthreading).cpuCount : Int) - 1) ∧
        (hyperthreading = true → 2 ∣ requested) := by
  by_cases within : 1 ≤ requested ∧
      requested ≤ ((evenLayout total nodes hyperthreading).cpuCount : Int) - 1
  · obtain ⟨number, rfl, positive, less⟩ := natural_of_in_range within
    rw [(uniform_reserve_lowest even positive less).1, and_iff_right within, threads_dvd_iff]
    norm_cast
  · exact iff_of_false (fun ⟨_, done⟩ => within (in_range_of_reserve done)) fun both =>
      within both.1

theorem reserve_evenly_iff (some : 0 < nodes) :
    (∃ sides, (evenLayout total nodes hyperthreading).reserve requested true = .ok sides) ↔
      (1 ≤ requested ∧ requested ≤ ((evenLayout total nodes hyperthreading).cpuCount : Int) - 1) ∧
        (hyperthreading = true → 2 * (nodes : Int) ∣ requested) := by
  by_cases within : 1 ≤ requested ∧
      requested ≤ ((evenLayout total nodes hyperthreading).cpuCount : Int) - 1
  · obtain ⟨number, rfl, positive, less⟩ := natural_of_in_range within
    rw [(uniform_reserve_evenly even positive less).1, and_iff_right within,
      threads_dvd_shares_iff some]
    norm_cast
  · exact iff_of_false (fun ⟨_, done⟩ => within (in_range_of_reserve done)) fun both =>
      within both.1

/-- A count within the machine is only refused as it would split a core. -/
theorem splits_of_in_range (within : 1 ≤ requested ∧
      requested ≤ ((evenLayout total nodes hyperthreading).cpuCount : Int) - 1)
    (failed : (evenLayout total nodes hyperthreading).reserve requested split = .error fault) :
    ∃ share, fault = .splitsThreadSiblings share := by
  obtain ⟨number, rfl, positive, less⟩ := natural_of_in_range within
  cases split with
  | true => exact (uniform_reserve_evenly even positive less).2.1 fault failed
  | false =>
    obtain ⟨reservable, faulty, _⟩ := uniform_reserve_lowest even positive less
    by_cases multiple : threads hyperthreading ∣ number
    · obtain ⟨sides, done⟩ := reservable.2 multiple
      rw [done] at failed
      cases failed
    · rw [faulty multiple] at failed
      exact ⟨number, (Except.error.inj failed).symm⟩

end Counts

/-- On a uniform machine only counts that would split a core are refused, apart from those that
leave no CPU on one side. From the lowest cores on, every multiple of the CPUs of a core can be
reserved. Evenly from all nodes, it has to be a multiple for every node. -/
theorem uniform_reserve {sockets coresPerSocket nodes : Nat} {topology : Topology}
    (built : uniform sockets coresPerSocket nodes hyperthreading = .ok topology) (count : Int) :
    let total := sockets * coresPerSocket
    let number := count.toNat
    let inRange := 1 ≤ count ∧ count ≤ (topology.cpuCount : Int) - 1
    ((∃ sides, topology.reserve count false = .ok sides) ↔
      inRange ∧ (hyperthreading = true → 2 ∣ count)) ∧
    (∀ reserved isolated, topology.reserve count false = .ok (reserved, isolated) →
      reserved = lowestCpus total number hyperthreading) ∧
    ((∃ sides, topology.reserve count true = .ok sides) ↔
      inRange ∧ (hyperthreading = true → 2 * (nodes : Int) ∣ count)) ∧
    (∀ reserved isolated, topology.reserve count true = .ok (reserved, isolated) →
      (∀ cpu, cpu ∈ reserved ↔ ∃ i < nodes, ∃ core, i * (total / nodes) ≤ core ∧
        core < i * (total / nodes) + coreShare number nodes i hyperthreading ∧
        (cpu = core ∨ hyperthreading = true ∧ cpu = core + total)) ∧
      ∀ i node, topology.nodes[i]? = some node → Contributes reserved (nodeShare number nodes i)
        (coreShare number nodes i hyperthreading) node) ∧
    (∀ split node requested available, topology.reserve count split ≠
      .error (.nodeCapacityExceeded node requested available)) ∧
    (inRange → ∀ split fault, topology.reserve count split = .error fault →
      ∃ share, fault = .splitsThreadSiblings share) ∧
    (hyperthreading = false → inRange → ∀ split,
      ∃ sides, topology.reserve count split = .ok sides) := by
  obtain ⟨⟨_, _, someNodes, _, even, _⟩, rfl⟩ := uniform_eq_ok_iff.1 built
  dsimp only
  have lowestIff := @reserve_lowest_iff nodes (sockets * coresPerSocket) hyperthreading count even
  have evenlyIff :=
    @reserve_evenly_iff nodes (sockets * coresPerSocket) hyperthreading count even someNodes
  refine ⟨lowestIff, fun reserved isolated done => ?_, evenlyIff, fun reserved isolated done => ?_,
    fun split node requested available failed => ?_, fun within split fault failed =>
    splits_of_in_range even within failed, fun single within split => ?_⟩
  · obtain ⟨number, rfl, positive, less⟩ := natural_of_in_range (in_range_of_reserve done)
    exact (uniform_reserve_lowest even positive less).2.2 reserved isolated done
  · obtain ⟨number, rfl, positive, less⟩ := natural_of_in_range (in_range_of_reserve done)
    obtain ⟨multiples, _, members⟩ := uniform_reserve_evenly even positive less
    have takes := members reserved isolated done
    refine ⟨?_, fun i node found => ?_⟩
    · simpa only [TakesLowest, Int.toNat_natCast, mem_uniformCore] using takes
    · exact contributes even less takes
        (multiples.1 ⟨_, done⟩ i (getElem?_evenLayout.1 found).1) found
  · by_cases within : 1 ≤ count ∧ count ≤
        ((evenLayout (sockets * coresPerSocket) nodes hyperthreading).cpuCount : Int) - 1
    · obtain ⟨share, same⟩ := splits_of_in_range even within failed
      cases same
    · rw [reserve_out_of_range within] at failed
      cases failed
  · subst single
    cases split with
    | false => exact lowestIff.2 ⟨within, nofun⟩
    | true => exact evenlyIff.2 ⟨within, nofun⟩

/-- With two nodes and two CPUs for each core, four CPUs are one core of each node, and two are not
reserved evenly. -/
theorem uniform_reserve_pairs : ∃ topology, uniform 2 4 2 true = .ok topology ∧
    (∃ reserved isolated, topology.reserve 4 true = .ok (reserved, isolated) ∧
      ∀ cpu, cpu ∈ reserved ↔ cpu = 0 ∨ cpu = 4 ∨ cpu = 8 ∨ cpu = 12) ∧
    (∀ sides, topology.reserve 2 true ≠ .ok sides) ∧
    ∃ isolated, topology.reserve 2 false =
      .ok ((CpuSet.range 0 0).union (.range 8 8), isolated) := by
  have built : uniform 2 4 2 true = .ok (evenLayout 8 2 true) := rfl
  refine ⟨_, built, ?_, ?_, ?_⟩
  · obtain ⟨_, _, ⟨_, reservable⟩, evenly, _⟩ := uniform_reserve built 4
    obtain ⟨⟨reserved, isolated⟩, done⟩ := reservable (by decide)
    refine ⟨reserved, isolated, done, fun cpu => ?_⟩
    rw [(evenly reserved isolated done).1]
    have single : ∀ i < 2, coreShare (Int.toNat 4) 2 i true = 1 := by decide
    constructor
    · rintro ⟨i, inside, core, lower, upper, numbered⟩
      rw [single i inside] at upper
      omega
    · rintro (rfl | rfl | rfl | rfl)
      · exact ⟨0, by decide, 0, by decide, by decide, .inl rfl⟩
      · exact ⟨1, by decide, 4, by decide, by decide, .inl rfl⟩
      · exact ⟨0, by decide, 0, by decide, by decide, .inr ⟨rfl, rfl⟩⟩
      · exact ⟨1, by decide, 4, by decide, by decide, .inr ⟨rfl, rfl⟩⟩
  · intro sides done
    have multiple := ((uniform_reserve built 2).2.2.1.1 ⟨sides, done⟩).2 rfl
    contradiction
  · obtain ⟨⟨_, reservable⟩, lowest, _⟩ := uniform_reserve built 2
    obtain ⟨⟨reserved, isolated⟩, done⟩ := reservable (by decide)
    obtain rfl := lowest reserved isolated done
    exact ⟨isolated, done⟩

end NodeTuning.Topology
