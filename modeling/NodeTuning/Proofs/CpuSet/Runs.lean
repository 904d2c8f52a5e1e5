import NodeTuning.Proofs.CpuSet.Grammar

/-!
CPU lists as they are written. Main statement: the list of a set is made of its maximal runs in
ascending order, so that sets with the same list are the same, and it is read back as the set as
long as no id is above the largest that a list may name. Otherwise reading stops at the first run
that reaches above it.
-/
namespace NodeTuning.CpuSet
open NodeTuning.Text

/-- The sets that come of reading lists, adding ids of 32 bits and combining sets. -/
inductive Arises : CpuSet → Prop
  | empty : Arises empty
  | parse {input : String} {set : CpuSet} (read : parse input = .ok set) : Arises set
  | insert {set : CpuSet} {cpu : Nat} (arises : Arises set) (small : cpu < UInt32.size) :
      Arises (set.insert cpu)
  | union {first second : CpuSet} (one : Arises first) (two : Arises second) :
      Arises (first.union second)
  | inter {first second : CpuSet} (one : Arises first) (two : Arises second) :
      Arises (first.inter second)
  | diff {first second : CpuSet} (one : Arises first) (two : Arises second) :
      Arises (first.diff second)

theorem Arises.lt {set : CpuSet} (arises : Arises set) : ∀ cpu ∈ set, cpu < UInt32.size := by
  induction arises with
  | empty => exact fun cpu member => absurd member (mem_empty cpu)
  | parse read =>
    exact fun cpu member => Nat.lt_of_le_of_lt (le_of_parse read cpu member) (by decide)
  | insert _ small ih =>
    intro cpu member
    rcases mem_insert.1 member with before | rfl
    · exact ih cpu before
    · exact small
  | union _ _ first second =>
    intro cpu member
    exact (mem_union.1 member).elim (first cpu) (second cpu)
  | inter _ _ first _ => exact fun cpu member => first cpu (mem_inter.1 member).1
  | diff _ _ first _ => exact fun cpu member => first cpu (mem_diff.1 member).1

/-- Runs of ids, ascending and with a gap between any two of them, that hold the given ids. -/
structure MaximalRuns (ids : List Nat) (runs : List (Nat × Nat)) : Prop where
  ordered : ∀ run ∈ runs, run.1 ≤ run.2
  apart : runs.Pairwise fun first second => first.2 + 2 ≤ second.1
  covers : ∀ cpu, cpu ∈ ids ↔ ∃ run ∈ runs, run.1 ≤ cpu ∧ cpu ≤ run.2

namespace MaximalRuns
variable {ids : List Nat} {runs : List (Nat × Nat)} {cpu start stop : Nat}

theorem start_mem (maximal : MaximalRuns ids runs) {run : Nat × Nat} (member : run ∈ runs) :
    run.1 ∈ ids :=
  (maximal.covers run.1).2 ⟨run, member, Nat.le_refl _, maximal.ordered run member⟩

theorem stop_mem (maximal : MaximalRuns ids runs) {run : Nat × Nat} (member : run ∈ runs) :
    run.2 ∈ ids :=
  (maximal.covers run.2).2 ⟨run, member, maximal.ordered run member, Nat.le_refl _⟩

theorem single (maximal : MaximalRuns ids runs) (gap : ∀ run ∈ runs, cpu + 2 ≤ run.1) :
    MaximalRuns (cpu :: ids) ((cpu, cpu) :: runs) where
  ordered := List.forall_mem_cons.2 ⟨Nat.le_refl cpu, maximal.ordered⟩
  apart := List.pairwise_cons.2 ⟨gap, maximal.apart⟩
  covers other := by
    rw [List.mem_cons, maximal.covers, List.exists_mem_cons_iff]
    exact or_congr_left (by dsimp only; omega)

theorem extend (maximal : MaximalRuns ids ((cpu + 1, stop) :: runs)) :
    MaximalRuns (cpu :: ids) ((cpu, stop) :: runs) where
  ordered := by
    obtain ⟨first, others⟩ := List.forall_mem_cons.1 maximal.ordered
    exact List.forall_mem_cons.2 ⟨by dsimp only at first ⊢; omega, others⟩
  apart := List.pairwise_cons.2 (List.pairwise_cons.1 maximal.apart)
  covers other := by
    have first := maximal.ordered _ List.mem_cons_self
    rw [List.mem_cons, maximal.covers, List.exists_mem_cons_iff, List.exists_mem_cons_iff,
      ← or_assoc]
    exact or_congr_left (by dsimp only at first ⊢; omega)

end MaximalRuns

theorem maximalRuns_runsOf {ids : List Nat} (sorted : ids.Pairwise (· < ·)) :
    MaximalRuns ids (runsOf ids) := by
  induction ids with
  | nil => exact ⟨nofun, .nil, by simp [runsOf]⟩
  | cons cpu rest ih =>
    obtain ⟨below, sortedRest⟩ := List.pairwise_cons.1 sorted
    have later := ih sortedRest
    rw [runsOf]
    cases found : runsOf rest with
    | nil =>
      rw [found] at later
      exact later.single nofun
    | cons run more =>
      obtain ⟨start, stop⟩ := run
      rw [found] at later
      have after : ∀ run ∈ (start, stop) :: more, cpu < run.1 :=
        fun run member => below run.1 (later.start_mem member)
      dsimp only
      split_ifs with adjacent
      · subst adjacent
        exact later.extend
      · -- the run that starts first leaves a gap, and so do all that start after it
        have gap : cpu + 2 ≤ start := by
          have := after _ List.mem_cons_self
          dsimp only at this
          omega
        refine later.single (List.forall_mem_cons.2 ⟨gap, fun run member => ?_⟩)
        have apart := (List.pairwise_cons.1 later.apart).1 run member
        have ordered := later.ordered _ List.mem_cons_self
        dsimp only at apart ordered
        omega

theorem maximalRuns (set : CpuSet) : MaximalRuns set.ids set.runs := maximalRuns_runsOf set.sorted

theorem eq_of_runs_eq {first second : CpuSet} (same : first.runs = second.runs) :
    first = second := by
  refine ext_mem fun cpu => ?_
  rw [mem_def, mem_def, first.maximalRuns.covers, second.maximalRuns.covers, same]

section Text
variable {run : Nat × Nat} {c : Char}

theorem runText_eq (run : Nat × Nat) : runText run =
    if run.1 = run.2 then toString run.1 else toString run.1 ++ "-" ++ toString run.2 := by
  unfold runText
  split <;> rfl

theorem toList_runText (run : Nat × Nat) : (runText run).toList =
    if run.1 = run.2 then decimal run.1 else decimal run.1 ++ '-' :: decimal run.2 := by
  rw [runText_eq]
  split <;> simp [decimal]

theorem mem_runText (member : c ∈ (runText run).toList) : c.isDigit = true ∨ c = '-' := by
  rw [toList_runText] at member
  split at member
  · exact .inl (isDigit_of_mem_decimal member)
  · rcases List.mem_append.1 member with first | rest
    · exact .inl (isDigit_of_mem_decimal first)
    · rcases List.mem_cons.1 rest with dash | last
      · exact .inr dash
      · exact .inl (isDigit_of_mem_decimal last)

theorem not_blank_of_mem_runText (member : c ∈ (runText run).toList) : isBlank c = false := by
  rcases mem_runText member with digit | rfl
  · exact not_blank_of_isDigit digit
  · decide

theorem trims_runText (run : Nat × Nat) : Trims (runText run).toList (runText run).toList :=
  trims_of_not_blank fun _ => not_blank_of_mem_runText

theorem comma_not_mem_runText : ',' ∉ (runText run).toList :=
  fun member => by rcases mem_runText member with digit | dash <;> contradiction

theorem runText_ne_nil : (runText run).toList ≠ [] := by
  rw [toList_runText]
  split
  · exact Nat.toDigits_ne_nil
  · exact List.append_ne_nil_of_right_ne_nil _ (List.cons_ne_nil _ _)

theorem names_runText (ordered : run.1 ≤ run.2) (small : run.2 < UInt32.size) :
    Names (runText run).toList run.1 run.2 := by
  rw [toList_runText]
  split
  · rename_i single
    rw [← single] at small ⊢
    exact .id ⟨numeral_decimal run.1, small⟩
  · have undivided : '-' ∉ decimal run.1 :=
      fun dash => absurd (isDigit_of_mem_decimal dash) (by decide)
    exact .range undivided (trims_decimal _) (trims_decimal _)
      ⟨numeral_decimal run.1, by omega⟩ ⟨numeral_decimal run.2, small⟩

end Text

section List
variable {set other : CpuSet} {run : Nat × Nat}

/-- The texts of the runs, as they stand between the commas of the list. -/
def runTexts (set : CpuSet) : List (List Char) := set.runs.map fun run => (runText run).toList

theorem toList_listText (set : CpuSet) :
    set.listText.toList = List.intercalate [','] set.runTexts := by
  rw [listText, join, String.toList_intercalate, List.map_map]
  rfl

theorem splitOn_listText (filled : set.runs ≠ []) :
    set.listText.toList.splitOn ',' = set.runTexts := by
  rw [toList_listText]
  refine List.splitOn_intercalate ',' (fun text member => ?_) (mt List.map_eq_nil_iff.1 filled)
  obtain ⟨run, _, rfl⟩ := List.mem_map.1 member
  exact comma_not_mem_runText

theorem notMem_listText {c : Char} (other : c.isDigit = false) (dash : c ≠ '-') (comma : c ≠ ',')
    (set : CpuSet) : c ∉ set.listText.toList := by
  rw [toList_listText]
  refine notMem_intercalate comma ?_
  rw [runTexts, List.forall_mem_map]
  intro run _ member
  rcases mem_runText member with digit | same
  · rw [other] at digit
    cases digit
  · exact dash same

theorem newline_notMem_listText (set : CpuSet) : '\n' ∉ set.listText.toList :=
  set.notMem_listText (by decide) (by decide) (by decide)

theorem blank_listText_iff : Trims set.listText.toList [] ↔ set.runs = [] := by
  rw [trims_nil_iff, toList_listText, runTexts]
  cases set.runs with
  | nil => simp [List.intercalate]
  | cons run rest =>
    -- the first digit of the first run is no blank
    obtain ⟨c, member⟩ := List.exists_mem_of_ne_nil _ (@runText_ne_nil run)
    have inside :
        c ∈ List.intercalate [','] ((run :: rest).map fun run => (runText run).toList) := by
      cases rest <;> simp [List.intercalate, member]
    refine iff_of_false (fun blank => ?_) (List.cons_ne_nil _ _)
    have inked := not_blank_of_mem_runText member
    rw [blank c inside] at inked
    cases inked

variable (small : ∀ cpu ∈ set, cpu < UInt32.size)
include small

theorem names_of_mem_runs (member : run ∈ set.runs) :
    Names (runText run).toList run.1 run.2 :=
  names_runText (set.maximalRuns.ordered run member)
    (small run.2 (set.maximalRuns.stop_mem member))

theorem denotes_of_mem_runs {start stop : Nat} (member : run ∈ set.runs) :
    Denotes (runText run).toList start stop ↔ run = (start, stop) ∧ run.2 ≤ 8191 := by
  rw [denotes_iff, trim_of_trims (trims_runText run),
    bounds?_eq_some_iff.2 (names_of_mem_runs small member)]
  constructor
  · rintro ⟨same, _, most⟩
    cases same
    exact ⟨rfl, most⟩
  · rintro ⟨rfl, most⟩
    exact ⟨rfl, set.maximalRuns.ordered _ member, most⟩

/-- The texts say which runs they were written for. -/
theorem runTexts_map_bounds? : set.runTexts.map bounds? = set.runs.map some := by
  rw [runTexts, List.map_map]
  exact List.map_congr_left fun run member =>
    bounds?_eq_some_iff.2 (names_of_mem_runs small member)

theorem eq_of_listText_eq (smallToo : ∀ cpu ∈ other, cpu < UInt32.size)
    (same : set.listText = other.listText) : set = other := by
  apply eq_of_runs_eq
  by_cases none : set.runs = []
  · have blank := blank_listText_iff.2 none
    rw [same] at blank
    rw [none, blank_listText_iff.1 blank]
  · have filled : other.runs ≠ [] := by
      rwa [Ne, ← blank_listText_iff, ← same, blank_listText_iff]
    have texts : set.runTexts = other.runTexts := by
      rw [← splitOn_listText none, ← splitOn_listText filled, same]
    have runs := runTexts_map_bounds? small
    rw [texts, runTexts_map_bounds? smallToo] at runs
    exact (List.map_injective_iff.2 (fun _ _ => Option.some.inj) runs).symm

omit small in
theorem parse_listText (bounded : ∀ cpu ∈ set, cpu ≤ 8191) : parse set.listText = .ok set := by
  have maximal := set.maximalRuns
  by_cases none : set.runs = []
  · rw [parse_of_blank (blank_listText_iff.2 none)]
    refine congrArg Except.ok (eq_of_runs_eq ?_)
    rw [none]
    rfl
  · have small : ∀ cpu ∈ set, cpu < UInt32.size :=
      fun cpu member => Nat.lt_of_le_of_lt (bounded cpu member) (by decide)
    have denoted : ∀ run ∈ set.runs, Denotes (runText run).toList run.1 run.2 :=
      fun run member => (denotes_of_mem_runs small member).2
        ⟨rfl, bounded run.2 (maximal.stop_mem member)⟩
    rw [parse_of_not_blank (mt blank_listText_iff.1 none), splitOn_listText none,
      parsePieces_eq_ok_iff]
    constructor
    · intro text written
      obtain ⟨run, member, rfl⟩ := List.mem_map.1 written
      exact ⟨run.1, run.2, denoted run member⟩
    · intro cpu
      rw [mem_def, maximal.covers, or_iff_right (mem_empty cpu)]
      constructor
      · rintro ⟨run, member, inside⟩
        exact ⟨_, List.mem_map_of_mem member, run.1, run.2, denoted run member, inside⟩
      · rintro ⟨text, written, start, stop, named, inside⟩
        obtain ⟨run, member, rfl⟩ := List.mem_map.1 written
        obtain ⟨rfl, _⟩ := (denotes_of_mem_runs small member).1 named
        exact ⟨_, member, inside⟩

/-- Reading stops at the first run that reaches above the largest id. -/
theorem parse_listText_of_large {cpu : Nat} (inside : cpu ∈ set) (large : 8191 < cpu) :
    ∃ front run back, set.runs = front ++ run :: back ∧
      (∀ earlier ∈ front, earlier.2 ≤ 8191) ∧ 8191 < run.2 ∧
        parse set.listText = .error (.cpuOutOfRange run.2 8191) := by
  have maximal := set.maximalRuns
  obtain ⟨first, listed, _, reaches⟩ := (maximal.covers cpu).1 inside
  have some : ∃ run, set.runs.find? (8191 < ·.2) = some run := by
    rw [← Option.isSome_iff_exists, List.find?_isSome]
    exact ⟨first, listed, decide_eq_true (by omega)⟩
  obtain ⟨run, found⟩ := some
  obtain ⟨exceeds, front, back, whole, within⟩ := List.find?_eq_some_iff_append.1 found
  have exceeds : 8191 < run.2 := of_decide_eq_true exceeds
  have below : ∀ earlier ∈ front, earlier.2 ≤ 8191 := fun earlier member => by
    simpa using within earlier member
  have written : set.runTexts = front.map (fun run => (runText run).toList) ++
      (runText run).toList :: back.map fun run => (runText run).toList := by
    simp [runTexts, whole]
  have own : run ∈ set.runs := by simp [whole]
  refine ⟨front, run, back, whole, below, exceeds, ?_⟩
  have filled : set.runs ≠ [] := List.ne_nil_of_mem own
  rw [parse_of_not_blank (mt blank_listText_iff.1 filled), splitOn_listText filled,
    parsePieces_eq_error_iff]
  refine ⟨_, _, _, written, fun text member => ?_, .outOfRange (trims_runText run)
    (names_of_mem_runs small own) (maximal.ordered run own) exceeds⟩
  obtain ⟨earlier, before, rfl⟩ := List.mem_map.1 member
  have listed : earlier ∈ set.runs := by simp [whole, before]
  exact ⟨earlier.1, earlier.2, (denotes_of_mem_runs small listed).2 ⟨rfl, below earlier before⟩⟩

end List

/-- The list of a set joins the texts of its maximal runs, and no other set has this list. It is
read back as the set as long as no id is above 8191, and otherwise refused with the last id of the
first run that reaches above 8191. So writing what was read gives a text that stays as it is. -/
theorem listText_canonical {set : CpuSet} (arises : Arises set) :
    MaximalRuns set.ids set.runs ∧
    set.listText = ",".intercalate (set.runs.map fun run =>
      if run.1 = run.2 then toString run.1 else toString run.1 ++ "-" ++ toString run.2) ∧
    (∀ other, Arises other → (set = other ↔ set.listText = other.listText)) ∧
    ((∀ cpu ∈ set, cpu ≤ 8191) → parse set.listText = .ok set) ∧
    ((∃ cpu ∈ set, 8191 < cpu) → ∃ front run back, set.runs = front ++ run :: back ∧
      (∀ earlier ∈ front, earlier.2 ≤ 8191) ∧ 8191 < run.2 ∧
        parse set.listText = .error (.cpuOutOfRange run.2 8191)) ∧
    ∀ text known, parse text = .ok known →
      ∃ again, parse known.listText = .ok again ∧ again.listText = known.listText := by
  refine ⟨set.maximalRuns, ?_, fun other arisesToo => ⟨congrArg listText, ?_⟩, parse_listText,
    ?_, ?_⟩
  · exact congrArg (join "," <| set.runs.map ·) (funext runText_eq)
  · exact eq_of_listText_eq arises.lt arisesToo.lt
  · rintro ⟨cpu, inside, large⟩
    exact parse_listText_of_large arises.lt inside large
  · intro text known read
    exact ⟨known, parse_listText (le_of_parse read), rfl⟩

/-- Ids added to a set that was read may be too large to be read back. -/
theorem listText_canonical_grown : ∃ set : CpuSet, Arises set ∧
    set.listText = "0-2,5,9000-9001" ∧
      parse set.listText = .error (.cpuOutOfRange 9001 8191) := by
  have arises : Arises ((((range 0 2).union (singleton 5)).insert 9001).insert 9000) := by
    refine .insert (.insert (@Arises.parse "5,0-2" _ ?_) (by decide)) (by decide)
    decide +kernel
  obtain ⟨_, _, _, _, refused, _⟩ := listText_canonical arises
  obtain ⟨front, run, back, whole, _, large, failed⟩ := refused ⟨9001, by simp, by decide⟩
  refine ⟨_, arises, by decide +kernel, ?_⟩
  have listed : run ∈ [(0, 2), (5, 5), (9000, 9001)] := by
    have runs : [(0, 2), (5, 5), (9000, 9001)] = front ++ run :: back := by
      rw [← whole]
      decide +kernel
    simp [runs]
  have last : run = (9000, 9001) := by
    simp only [List.mem_cons, List.not_mem_nil, or_false] at listed
    rcases listed with rfl | rfl | last
    · contradiction
    · contradiction
    · exact last
  rw [failed, last]

end NodeTuning.CpuSet
