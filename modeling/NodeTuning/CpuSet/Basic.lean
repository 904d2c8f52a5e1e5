/-!
Finite sets of logical CPU ids, kept as ascending lists. Main statements: what is in a set after
each operation, and that two sets with the same members are equal.
-/
namespace NodeTuning

structure CpuSet where
  ids : List Nat
  sorted : ids.Pairwise (· < ·)
  deriving DecidableEq

namespace CpuSet

def empty : CpuSet := ⟨[], .nil⟩

instance : EmptyCollection CpuSet := ⟨empty⟩

instance : Inhabited CpuSet := ⟨empty⟩

instance : Membership Nat CpuSet := ⟨fun set cpu => cpu ∈ set.ids⟩

theorem mem_def {cpu : Nat} {set : CpuSet} : cpu ∈ set ↔ cpu ∈ set.ids := Iff.rfl

instance (cpu : Nat) (set : CpuSet) : Decidable (cpu ∈ set) :=
  inferInstanceAs (Decidable (cpu ∈ set.ids))

def size (set : CpuSet) : Nat := set.ids.length

def isEmpty (set : CpuSet) : Bool := set.ids.isEmpty

def contains (set : CpuSet) (cpu : Nat) : Bool := set.ids.contains cpu

def max? (set : CpuSet) : Option Nat := set.ids.getLast?

def merge : List Nat → List Nat → List Nat
  | [], second => second
  | first, [] => first
  | x :: xs, y :: ys =>
    if x < y then x :: merge xs (y :: ys)
    else if y < x then y :: merge (x :: xs) ys
    else x :: merge xs ys
termination_by first second => first.length + second.length

theorem mem_merge {cpu : Nat} {first second : List Nat} :
    cpu ∈ merge first second ↔ cpu ∈ first ∨ cpu ∈ second := by
  fun_induction merge first second with
  | case1 second => simp
  | case2 first => simp
  | case3 x xs y ys before ih => simp [ih, or_assoc]
  | case4 x xs y ys _ before ih => simp only [List.mem_cons, ih]; grind
  | case5 x xs y ys notBefore notAfter ih =>
    have same : x = y := by omega
    simp only [List.mem_cons, ih, same]; grind

theorem sorted_merge {first second : List Nat} (sortedFirst : first.Pairwise (· < ·))
    (sortedSecond : second.Pairwise (· < ·)) : (merge first second).Pairwise (· < ·) := by
  fun_induction merge first second with
  | case1 second => exact sortedSecond
  | case2 first => exact sortedFirst
  | case3 x xs y ys before ih =>
    obtain ⟨belowX, sortedX⟩ := List.pairwise_cons.1 sortedFirst
    refine List.pairwise_cons.2 ⟨fun cpu member => ?_, ih sortedX sortedSecond⟩
    rcases mem_merge.1 member with inFirst | inSecond
    · exact belowX cpu inFirst
    · rcases List.mem_cons.1 inSecond with rfl | later
      · exact before
      · exact Nat.lt_trans before ((List.pairwise_cons.1 sortedSecond).1 cpu later)
  | case4 x xs y ys _ before ih =>
    obtain ⟨belowY, sortedY⟩ := List.pairwise_cons.1 sortedSecond
    refine List.pairwise_cons.2 ⟨fun cpu member => ?_, ih sortedFirst sortedY⟩
    rcases mem_merge.1 member with inFirst | inSecond
    · rcases List.mem_cons.1 inFirst with rfl | later
      · exact before
      · exact Nat.lt_trans before ((List.pairwise_cons.1 sortedFirst).1 cpu later)
    · exact belowY cpu inSecond
  | case5 x xs y ys notBefore notAfter ih =>
    have same : x = y := by omega
    obtain ⟨belowX, sortedX⟩ := List.pairwise_cons.1 sortedFirst
    obtain ⟨belowY, sortedY⟩ := List.pairwise_cons.1 sortedSecond
    refine List.pairwise_cons.2 ⟨fun cpu member => ?_, ih sortedX sortedY⟩
    rcases mem_merge.1 member with inFirst | inSecond
    · exact belowX cpu inFirst
    · exact same ▸ belowY cpu inSecond

def union (first second : CpuSet) : CpuSet :=
  ⟨merge first.ids second.ids, sorted_merge first.sorted second.sorted⟩

def inter (first second : CpuSet) : CpuSet :=
  ⟨first.ids.filter second.contains, first.sorted.filter _⟩

/-- The ids of the first set that are not in the second. -/
def diff (first second : CpuSet) : CpuSet :=
  ⟨first.ids.filter (fun cpu => !second.contains cpu), first.sorted.filter _⟩

def disjoint (first second : CpuSet) : Bool := first.ids.all fun cpu => !second.contains cpu

def singleton (cpu : Nat) : CpuSet := ⟨[cpu], List.pairwise_singleton _ _⟩

def insert (set : CpuSet) (cpu : Nat) : CpuSet := set.union (singleton cpu)

def range (start stop : Nat) : CpuSet :=
  ⟨List.range' start (stop + 1 - start), List.pairwise_lt_range'⟩

def insertAll (set : CpuSet) (cpus : List Nat) : CpuSet := cpus.foldl insert set

def ofList (cpus : List Nat) : CpuSet := empty.insertAll cpus

@[simp] theorem mem_empty (cpu : Nat) : ¬ cpu ∈ empty := List.not_mem_nil

@[simp] theorem mem_union {cpu : Nat} {first second : CpuSet} :
    cpu ∈ first.union second ↔ cpu ∈ first ∨ cpu ∈ second := mem_merge

@[simp] theorem contains_iff {cpu : Nat} {set : CpuSet} :
    set.contains cpu = true ↔ cpu ∈ set := by simp [contains, mem_def]

@[simp] theorem mem_inter {cpu : Nat} {first second : CpuSet} :
    cpu ∈ first.inter second ↔ cpu ∈ first ∧ cpu ∈ second := by
  rw [mem_def]
  simp [inter, mem_def, contains]

@[simp] theorem mem_diff {cpu : Nat} {first second : CpuSet} :
    cpu ∈ first.diff second ↔ cpu ∈ first ∧ ¬ cpu ∈ second := by
  rw [mem_def]
  simp [diff, mem_def, contains]

@[simp] theorem mem_singleton {cpu other : Nat} : cpu ∈ singleton other ↔ cpu = other := by
  simp [singleton, mem_def]

@[simp] theorem mem_insert {cpu other : Nat} {set : CpuSet} :
    cpu ∈ set.insert other ↔ cpu ∈ set ∨ cpu = other := by simp [insert]

@[simp] theorem mem_range {cpu start stop : Nat} :
    cpu ∈ range start stop ↔ start ≤ cpu ∧ cpu ≤ stop := by
  simp only [range, mem_def, List.mem_range'_1]
  omega

@[simp] theorem mem_insertAll {cpu : Nat} {set : CpuSet} {cpus : List Nat} :
    cpu ∈ set.insertAll cpus ↔ cpu ∈ set ∨ cpu ∈ cpus := by
  induction cpus generalizing set with
  | nil => simp [insertAll]
  | cons first rest ih =>
    have unfolded : set.insertAll (first :: rest) = (set.insert first).insertAll rest := rfl
    rw [unfolded, ih]
    simp [or_assoc]

@[simp] theorem mem_ofList {cpu : Nat} {cpus : List Nat} : cpu ∈ ofList cpus ↔ cpu ∈ cpus := by
  simp [ofList]

theorem disjoint_iff {first second : CpuSet} :
    first.disjoint second = true ↔ ∀ cpu, cpu ∈ first → ¬ cpu ∈ second := by
  simp [disjoint, mem_def, contains]

/-- Two sets with the same members are equal. -/
theorem ext_mem {first second : CpuSet} (same : ∀ cpu, cpu ∈ first ↔ cpu ∈ second) :
    first = second := by
  obtain ⟨xs, sortedX⟩ := first
  obtain ⟨ys, sortedY⟩ := second
  have lists : xs = ys := by
    simp only [mem_def] at same
    induction xs generalizing ys with
    | nil =>
      cases ys with
      | nil => rfl
      | cons y rest => exact absurd ((same y).2 (by simp)) (by simp)
    | cons x xs ih =>
      cases ys with
      | nil => exact absurd ((same x).1 (by simp)) (by simp)
      | cons y ys =>
        obtain ⟨belowX, restX⟩ := List.pairwise_cons.1 sortedX
        obtain ⟨belowY, restY⟩ := List.pairwise_cons.1 sortedY
        have heads : x = y := by
          rcases List.mem_cons.1 ((same x).1 (by simp)) with equal | later
          · exact equal
          · rcases List.mem_cons.1 ((same y).2 (by simp)) with equal | earlier
            · exact equal.symm
            · have := belowX y earlier
              have := belowY x later
              omega
        subst heads
        refine congrArg _ (ih restX ys restY fun cpu => ?_)
        constructor
        · intro member
          have below := belowX cpu member
          exact (List.mem_cons.1 ((same cpu).1 (List.mem_cons_of_mem _ member))).resolve_left
            (by omega)
        · intro member
          have below := belowY cpu member
          exact (List.mem_cons.1 ((same cpu).2 (List.mem_cons_of_mem _ member))).resolve_left
            (by omega)
  cases lists
  rfl

end CpuSet
end NodeTuning
