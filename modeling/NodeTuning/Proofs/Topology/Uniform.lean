import NodeTuning.Proofs.Topology.Reservation

/-!
Uniform machines. Main statement: a machine is laid out exactly if its cores can be spread evenly
and numbered in 32 bits, and then cores and CPUs are numbered through without a gap. All sums and
products on the way fit into 32 bits, so words that wrap around lay out the same machine.
-/
namespace NodeTuning.Topology
variable {sockets coresPerSocket nodes total core cpu : Nat} {hyperthreading : Bool}
  {topology : Topology}

/-- How many CPUs a core has. -/
def threads (hyperthreading : Bool) : Nat := if hyperthreading then 2 else 1

theorem threads_pos (hyperthreading : Bool) : 0 < threads hyperthreading := by
  cases hyperthreading <;> decide

theorem length_uniformCore (total core : Nat) (hyperthreading : Bool) :
    (uniformCore total hyperthreading core).cpus.length = threads hyperthreading := by
  cases hyperthreading <;> rfl

theorem mem_uniformCore : cpu ∈ (uniformCore total hyperthreading core).cpus ↔
    cpu = core ∨ hyperthreading = true ∧ cpu = core + total := by
  cases hyperthreading <;> simp [uniformCore]

/-- A CPU of a uniform machine says which core it is of. -/
theorem eq_of_mem_uniformCore {other : Nat} (small : core < total) (smallToo : other < total)
    (inOne : cpu ∈ (uniformCore total hyperthreading core).cpus)
    (inOther : cpu ∈ (uniformCore total hyperthreading other).cpus) : core = other := by
  rw [mem_uniformCore] at inOne inOther
  omega

/-- The machine that all the cores make, spread over the nodes. -/
def evenLayout (total nodes : Nat) (hyperthreading : Bool) : Topology :=
  ⟨(List.range nodes).map (uniformNode total (total / nodes) hyperthreading), hyperthreading⟩

/-- The numbers for which a machine can be laid out. -/
structure Layable (sockets coresPerSocket nodes : Nat) (hyperthreading : Bool) : Prop where
  someSockets : 0 < sockets
  someCores : 0 < coresPerSocket
  someNodes : 0 < nodes
  small : sockets * coresPerSocket < UInt32.size
  even : nodes ∣ sockets * coresPerSocket
  paired : hyperthreading = true → 2 * (sockets * coresPerSocket) < UInt32.size

theorem uniform_of_layable (layable : Layable sockets coresPerSocket nodes hyperthreading) :
    uniform sockets coresPerSocket nodes hyperthreading =
      .ok (evenLayout (sockets * coresPerSocket) nodes hyperthreading) := by
  obtain ⟨someSockets, someCores, someNodes, small, even, paired⟩ := layable
  have noRest := Nat.mod_eq_zero_of_dvd even
  rw [uniform, if_neg (by omega), if_neg (by omega), if_neg (not_not.2 noRest), if_neg]
  · rfl
  · rintro ⟨both, large⟩
    exact Nat.not_lt.2 large (paired both)

section Faults

theorem uniform_notPositive (zero : ¬ (0 < sockets ∧ 0 < coresPerSocket ∧ 0 < nodes)) :
    uniform sockets coresPerSocket nodes hyperthreading =
      .error (.invalidTopology (.notPositive sockets coresPerSocket nodes)) := by
  rw [uniform, if_pos (by omega)]

variable (positive : 0 < sockets ∧ 0 < coresPerSocket ∧ 0 < nodes)
include positive

theorem uniform_tooManyCores (large : UInt32.size ≤ sockets * coresPerSocket) :
    uniform sockets coresPerSocket nodes hyperthreading =
      .error (.invalidTopology .tooManyCores) := by
  rw [uniform, if_neg (by omega), if_pos large]

variable (small : sockets * coresPerSocket < UInt32.size)
include small

theorem uniform_uneven (uneven : ¬ nodes ∣ sockets * coresPerSocket) :
    uniform sockets coresPerSocket nodes hyperthreading =
      .error (.invalidTopology (.uneven (sockets * coresPerSocket) nodes)) := by
  have rest := mt Nat.dvd_of_mod_eq_zero uneven
  rw [uniform, if_neg (by omega), if_neg (by omega), if_pos rest]

theorem uniform_tooManyCpus (even : nodes ∣ sockets * coresPerSocket)
    (large : hyperthreading = true ∧ UInt32.size ≤ 2 * (sockets * coresPerSocket)) :
    uniform sockets coresPerSocket nodes hyperthreading =
      .error (.invalidTopology .tooManyCpus) := by
  have noRest := Nat.mod_eq_zero_of_dvd even
  rw [uniform, if_neg (by omega), if_neg (by omega), if_neg (not_not.2 noRest), if_pos large]

end Faults

theorem layable_of_uniform
    (built : uniform sockets coresPerSocket nodes hyperthreading = .ok topology) :
    Layable sockets coresPerSocket nodes hyperthreading := by
  by_cases positive : 0 < sockets ∧ 0 < coresPerSocket ∧ 0 < nodes
  · rcases Nat.lt_or_ge (sockets * coresPerSocket) UInt32.size with small | large
    · by_cases even : nodes ∣ sockets * coresPerSocket
      · refine ⟨positive.1, positive.2.1, positive.2.2, small, even, fun both => ?_⟩
        by_contra large
        rw [uniform_tooManyCpus positive small even ⟨both, Nat.not_lt.1 large⟩] at built
        cases built
      · rw [uniform_uneven positive small even] at built
        cases built
    · rw [uniform_tooManyCores positive large] at built
      cases built
  · rw [uniform_notPositive positive] at built
    cases built

theorem uniform_eq_ok_iff : uniform sockets coresPerSocket nodes hyperthreading = .ok topology ↔
    Layable sockets coresPerSocket nodes hyperthreading ∧
      topology = evenLayout (sockets * coresPerSocket) nodes hyperthreading := by
  constructor
  · intro built
    have layable := layable_of_uniform built
    rw [uniform_of_layable layable] at built
    exact ⟨layable, (Except.ok.inj built).symm⟩
  · rintro ⟨layable, rfl⟩
    exact uniform_of_layable layable

theorem block_le {node : Nat} (total : Nat) (inside : node < nodes) :
    (node + 1) * (total / nodes) ≤ total := by
  have within := Nat.mul_le_mul_right (total / nodes) (Nat.succ_le_of_lt inside)
  exact within.trans (Nat.mul_div_le total nodes)

/-- Blocks of one size, one after the other, number through. -/
theorem flatMap_blocks (size count : Nat) :
    ((List.range count).flatMap fun block => List.range' (block * size) size) =
      List.range (count * size) := by
  induction count with
  | zero => simp
  | succ count ih =>
    rw [List.range_succ, List.flatMap_append, ih, List.flatMap_singleton, List.range_eq_range',
      Nat.succ_mul, List.range_eq_range']
    have following := @List.range'_append_1 0 (count * size) size
    rwa [Nat.zero_add] at following

theorem cores_evenLayout (even : nodes ∣ total) :
    (evenLayout total nodes hyperthreading).cores =
      (List.range total).map (uniformCore total hyperthreading) := by
  have blocks := flatMap_blocks (total / nodes) nodes
  rw [Nat.mul_div_cancel' even] at blocks
  rw [← blocks, List.map_flatMap, cores, evenLayout, List.flatMap_map]
  rfl

theorem mem_cpusOf_uniform {numbers : List Nat} :
    cpu ∈ cpusOf (numbers.map (uniformCore total hyperthreading)) ↔
      ∃ core ∈ numbers, cpu ∈ (uniformCore total hyperthreading core).cpus := by
  simp [mem_cpusOf]

theorem length_cpusOf_uniform (numbers : List Nat) :
    (cpusOf (numbers.map (uniformCore total hyperthreading))).length =
      threads hyperthreading * numbers.length := by
  induction numbers with
  | nil => rfl
  | cons core rest ih =>
    rw [List.map_cons, cpusOf_cons, List.length_append, ih, length_uniformCore, List.length_cons,
      Nat.mul_succ, Nat.add_comm]

theorem nodup_cpusOf_uniform (total : Nat) (hyperthreading : Bool) :
    (cpusOf ((List.range total).map (uniformCore total hyperthreading))).Nodup := by
  rw [cpusOf, List.nodup_flatMap, List.forall_mem_map, List.pairwise_map]
  constructor
  · intro core member
    have inside := List.mem_range.1 member
    cases hyperthreading
    · exact List.nodup_singleton core
    · have apart : core ≠ core + total := by omega
      simpa [uniformCore] using apart
  · refine List.pairwise_lt_range.imp_of_mem fun {first second} one two ascending => ?_
    intro cpu inFirst inSecond
    have small := List.mem_range.1 one
    have smallToo := List.mem_range.1 two
    exact Nat.ne_of_lt ascending (eq_of_mem_uniformCore small smallToo inFirst inSecond)

/-- A machine with its nodes, cores and CPUs numbered through: the cores in order over the nodes,
and the second CPU of every core, where there is one, behind all first ones. -/
structure Regular (topology : Topology) (total nodes : Nat) (hyperthreading : Bool) : Prop where
  threading : topology.hyperthreading = hyperthreading
  nodeIds : topology.nodes.map (·.id) = List.range nodes
  nodeSizes : ∀ node ∈ topology.nodes, node.cores.length = total / nodes
  coreIds : topology.cores.map (·.id) = List.range total
  owned : ∀ core ∈ topology.cores,
    core.cpus = if hyperthreading then [core.id, core.id + total] else [core.id]
  distinct : (cpusOf topology.cores).Nodup
  size : topology.cpuCount = if hyperthreading then 2 * total else total
  members : ∀ cpu, cpu ∈ topology.allCpus ↔ cpu < topology.cpuCount

theorem cpuCount_evenLayout (even : nodes ∣ total) :
    (evenLayout total nodes hyperthreading).cpuCount = threads hyperthreading * total := by
  have size := @length_cpusOf_uniform total hyperthreading (List.range total)
  rw [List.length_range, ← cores_evenLayout even] at size
  exact size

theorem distinct_evenLayout (even : nodes ∣ total) :
    (cpusOf (evenLayout total nodes hyperthreading).cores).Nodup := by
  rw [cores_evenLayout even]
  exact nodup_cpusOf_uniform total hyperthreading

theorem mem_allCpus_evenLayout (even : nodes ∣ total) :
    cpu ∈ (evenLayout total nodes hyperthreading).allCpus ↔
      cpu < threads hyperthreading * total := by
  rw [mem_allCpus, cores_evenLayout even, mem_cpusOf_uniform]
  simp only [List.mem_range, mem_uniformCore, threads]
  constructor
  · rintro ⟨core, inside, rfl | ⟨both, rfl⟩⟩
    · split_ifs <;> omega
    · rw [if_pos both]
      omega
  · intro inside
    split_ifs at inside with both
    · rcases Nat.lt_or_ge cpu total with first | second
      · exact ⟨cpu, first, .inl rfl⟩
      · exact ⟨cpu - total, by omega, .inr ⟨both, by omega⟩⟩
    · exact ⟨cpu, by omega, .inl rfl⟩

theorem regular_evenLayout (even : nodes ∣ total) :
    Regular (evenLayout total nodes hyperthreading) total nodes hyperthreading where
  threading := rfl
  nodeIds := by
    rw [evenLayout, List.map_map]
    exact List.map_id _
  nodeSizes := by
    rw [evenLayout, List.forall_mem_map]
    intro node _
    rw [uniformNode, List.length_map, List.length_range']
  coreIds := by
    rw [cores_evenLayout even, List.map_map]
    exact List.map_id _
  owned := by
    rw [cores_evenLayout even, List.forall_mem_map]
    exact fun _ _ => rfl
  distinct := distinct_evenLayout even
  size := by
    rw [cpuCount_evenLayout even]
    cases hyperthreading <;> simp [threads]
  members cpu := by
    rw [mem_allCpus_evenLayout even, cpuCount_evenLayout even]

section Words
variable {total perNode nodes : UInt32}

/-- A core as sums of 32-bit words number its CPUs. -/
def wordCore (total : UInt32) (hyperthreading : Bool) (core : UInt32) : Core :=
  ⟨core.toNat, if hyperthreading then [core.toNat, (core + total).toNat] else [core.toNat]⟩

/-- A node whose first core, and the one behind its last, are worked out in 32-bit words. -/
def wordNode (total perNode : UInt32) (hyperthreading : Bool) (node : UInt32) : NumaNode :=
  let start := (node * perNode).toNat
  let stop := ((node + 1) * perNode).toNat
  ⟨node.toNat, (List.range' start (stop - start)).map fun core =>
    wordCore total hyperthreading (.ofNat core)⟩

/-- No sum or product of the layout is too large for a word. -/
structure WordsSuffice (total nodes : UInt32) (hyperthreading : Bool) : Prop where
  next : ∀ node < nodes, (node + 1).toNat = node.toNat + 1
  start : ∀ node < nodes, (node * (total / nodes)).toNat = node.toNat * (total / nodes).toNat
  stop : ∀ node < nodes,
    ((node + 1) * (total / nodes)).toNat = (node.toNat + 1) * (total / nodes).toNat
  sibling : hyperthreading = true → ∀ core < total, (core + total).toNat = core.toNat + total.toNat

theorem wordBlock_le {node : UInt32} (inside : node < nodes) :
    (node.toNat + 1) * (total / nodes).toNat ≤ total.toNat := by
  rw [UInt32.toNat_div]
  exact block_le total.toNat (UInt32.lt_iff_toNat_lt.1 inside)

theorem wordsSuffice (paired : hyperthreading = true → 2 * total.toNat < UInt32.size) :
    WordsSuffice total nodes hyperthreading := by
  have below : ∀ node < nodes, (node.toNat + 1) * (total / nodes).toNat < 2 ^ 32 :=
    fun node inside => Nat.lt_of_le_of_lt (wordBlock_le inside) total.toNat_lt
  have next : ∀ node < nodes, (node + 1).toNat = node.toNat + 1 := by
    intro node inside
    have less := UInt32.lt_iff_toNat_lt.1 inside
    have limit := nodes.toNat_lt
    rw [UInt32.toNat_add, UInt32.toNat_one]
    omega
  constructor
  · exact next
  · intro node inside
    have product := below node inside
    rw [Nat.succ_mul] at product
    rw [UInt32.toNat_mul]
    exact Nat.mod_eq_of_lt (by omega)
  · intro node inside
    rw [UInt32.toNat_mul, next node inside]
    exact Nat.mod_eq_of_lt (below node inside)
  · intro both core inside
    have less := UInt32.lt_iff_toNat_lt.1 inside
    have double : 2 * total.toNat < 2 ^ 32 := paired both
    rw [UInt32.toNat_add]
    omega

theorem wordCore_eq (suffice : WordsSuffice total nodes hyperthreading) {core : UInt32}
    (inside : core < total) : wordCore total hyperthreading core =
      uniformCore total.toNat hyperthreading core.toNat := by
  cases hyperthreading
  · rfl
  · have sum := suffice.sibling rfl core inside
    rw [wordCore, sum]
    rfl

theorem wordNode_eq (suffice : WordsSuffice total nodes hyperthreading) {node : UInt32}
    (inside : node < nodes) : wordNode total (total / nodes) hyperthreading node =
      uniformNode total.toNat (total.toNat / nodes.toNat) hyperthreading node.toNat := by
  have size : (node.toNat + 1) * (total / nodes).toNat - node.toNat * (total / nodes).toNat =
      (total / nodes).toNat := by
    rw [Nat.succ_mul, Nat.add_sub_cancel_left]
  have last := @wordBlock_le total nodes node inside
  rw [Nat.succ_mul] at last
  rw [wordNode, suffice.start node inside, suffice.stop node inside, uniformNode, size,
    ← UInt32.toNat_div]
  congr 1
  apply List.map_congr_left
  intro core member
  have bounds := List.mem_range'_1.1 member
  have limit := total.toNat_lt
  have value : (UInt32.ofNat core).toNat = core :=
    UInt32.toNat_ofNat_of_lt' (show core < 2 ^ 32 by omega)
  rw [wordCore_eq suffice (UInt32.lt_iff_toNat_lt.2 (by omega)), value]

/-- Words lay out the machine that numbers without a limit do. -/
theorem nodes_evenLayout_words (suffice : WordsSuffice total nodes hyperthreading) :
    (evenLayout total.toNat nodes.toNat hyperthreading).nodes =
      (List.range nodes.toNat).map fun node =>
        wordNode total (total / nodes) hyperthreading (.ofNat node) := by
  apply List.map_congr_left
  intro node member
  have inside := List.mem_range.1 member
  have limit := nodes.toNat_lt
  have value : (UInt32.ofNat node).toNat = node :=
    UInt32.toNat_ofNat_of_lt' (show node < 2 ^ 32 by omega)
  rw [wordNode_eq suffice (UInt32.lt_iff_toNat_lt.2 (by omega)), value]

end Words

/-- Which machines can be laid out, the first fault of the others, and what is laid out. -/
theorem uniform_lays_out (sockets coresPerSocket nodes : UInt32) (hyperthreading : Bool) :
    let built : Except CpuError Topology :=
      uniform sockets.toNat coresPerSocket.toNat nodes.toNat hyperthreading
    let positive := 0 < sockets ∧ 0 < coresPerSocket ∧ 0 < nodes
    let total := sockets.toNat * coresPerSocket.toNat
    ((∃ topology, built = .ok topology) ↔ positive ∧ total < 2 ^ 32 ∧ nodes.toNat ∣ total ∧
      (hyperthreading = true → 2 * total < 2 ^ 32)) ∧
    (¬ positive → built = .error (.invalidTopology
      (.notPositive sockets.toNat coresPerSocket.toNat nodes.toNat))) ∧
    (positive → 2 ^ 32 ≤ total → built = .error (.invalidTopology .tooManyCores)) ∧
    (positive → total < 2 ^ 32 → ¬ nodes.toNat ∣ total →
      built = .error (.invalidTopology (.uneven total nodes.toNat))) ∧
    (positive → total < 2 ^ 32 → nodes.toNat ∣ total →
      hyperthreading = true ∧ 2 ^ 32 ≤ 2 * total →
      built = .error (.invalidTopology .tooManyCpus)) ∧
    ∀ topology, built = .ok topology →
      Regular topology total nodes.toNat hyperthreading ∧
      (sockets * coresPerSocket).toNat = total ∧
      WordsSuffice (sockets * coresPerSocket) nodes hyperthreading ∧
      topology.nodes = (List.range nodes.toNat).map fun node =>
        wordNode (sockets * coresPerSocket) (sockets * coresPerSocket / nodes) hyperthreading
          (.ofNat node) := by
  intro built positive total
  have values : positive ↔ 0 < sockets.toNat ∧ 0 < coresPerSocket.toNat ∧ 0 < nodes.toNat := by
    simp only [positive, UInt32.lt_iff_toNat_lt, UInt32.toNat_zero]
  rw [values]
  refine ⟨⟨?_, ?_⟩, uniform_notPositive, uniform_tooManyCores, uniform_uneven,
    uniform_tooManyCpus, ?_⟩
  · rintro ⟨topology, done⟩
    obtain ⟨someSockets, someCores, someNodes, small, even, paired⟩ := layable_of_uniform done
    exact ⟨⟨someSockets, someCores, someNodes⟩, small, even, paired⟩
  · rintro ⟨⟨someSockets, someCores, someNodes⟩, small, even, paired⟩
    exact ⟨_, uniform_of_layable ⟨someSockets, someCores, someNodes, small, even, paired⟩⟩
  · intro topology done
    obtain ⟨layable, rfl⟩ := uniform_eq_ok_iff.1 done
    have product : (sockets * coresPerSocket).toNat = sockets.toNat * coresPerSocket.toNat := by
      rw [UInt32.toNat_mul]
      exact Nat.mod_eq_of_lt layable.small
    have paired := layable.paired
    rw [← product] at paired
    have suffice := @wordsSuffice hyperthreading (sockets * coresPerSocket) nodes paired
    refine ⟨regular_evenLayout layable.even, product, suffice, ?_⟩
    rw [← nodes_evenLayout_words suffice, product]

/-- As many cores as 32 bits can number, one on every node. -/
theorem uniform_lays_out_largest : ∃ topology,
    uniform 65535 65537 4294967295 false = .ok topology ∧ topology.cpuCount = 4294967295 ∧
      ∀ cpu, cpu ∈ topology.allCpus ↔ cpu < 4294967295 := by
  obtain ⟨accepted, _, _, _, _, laid⟩ := uniform_lays_out 65535 65537 4294967295 false
  obtain ⟨topology, done⟩ := accepted.2 (by decide)
  have regular := (laid topology done).1
  have size : topology.cpuCount = 4294967295 := regular.size
  refine ⟨topology, done, size, fun cpu => ?_⟩
  rw [regular.members, size]

end NodeTuning.Topology
