import NodeTuning.CpuSet.ListText
import NodeTuning.Proofs.Text.Reading

/-!
The grammar of CPU lists. A piece names one id, or two with a dash between them. Main statement: a
text that is not blank is read exactly if each of its pieces names ascending ids of which none is
above the largest, the set that is read holds what the pieces name, and otherwise the first piece
that is at fault decides, in which a wrong form counts before a wrong order and that before a large
id.
-/
namespace NodeTuning.CpuSet
open NodeTuning.Text

/-- The text of an id: a number of 32 bits. -/
def IsId (text : List Char) (cpu : Nat) : Prop := Numeral text cpu ∧ cpu < UInt32.size

/-- What a piece without blanks around it names: the ids from the first to the last. Only the first
dash divides it. -/
inductive Names : List Char → Nat → Nat → Prop
  | id {token : List Char} {cpu : Nat} (text : IsId token cpu) : Names token cpu cpu
  | range {front back first last : List Char} {start stop : Nat} (undivided : '-' ∉ front)
      (before : Trims front first) (after : Trims back last) (lower : IsId first start)
      (upper : IsId last stop) : Names (front ++ '-' :: back) start stop

/-- A piece that is as it should be, and the ids that it stands for. -/
def Denotes (piece : List Char) (start stop : Nat) : Prop :=
  ∃ token, Trims piece token ∧ Names token start stop ∧ start ≤ stop ∧ stop ≤ 8191

inductive PieceFault (input : String) (piece : List Char) : CpuError → Prop
  | invalid {token : List Char} (trimmed : Trims piece token)
      (unnamed : ∀ start stop, ¬ Names token start stop) :
      PieceFault input piece (.invalidToken (String.ofList token) input)
  | reversed {token : List Char} {start stop : Nat} (trimmed : Trims piece token)
      (named : Names token start stop) (descending : stop < start) :
      PieceFault input piece (.reversedRange start stop)
  | outOfRange {token : List Char} {start stop : Nat} (trimmed : Trims piece token)
      (named : Names token start stop) (ascending : start ≤ stop) (large : 8191 < stop) :
      PieceFault input piece (.cpuOutOfRange stop 8191)

section Piece
variable {token piece : List Char} {start stop : Nat}

theorem id?_eq_some_iff {cpu : Nat} : id? token = some cpu ↔ IsId token cpu :=
  unsigned?_eq_some_iff

/-- The two ids that a piece without blanks around it names. -/
def bounds? (token : List Char) : Option (Nat × Nat) :=
  match cut '-' token with
  | some (first, last) =>
    (id? (trim first)).bind fun start => (id? (trim last)).map fun stop => (start, stop)
  | none => (id? token).map fun cpu => (cpu, cpu)

theorem not_isId_of_dash {cpu : Nat} (dash : '-' ∈ token) : ¬ IsId token cpu := by
  rintro ⟨⟨digits, plain | signed, _, all, _⟩, _⟩
  · exact absurd (all '-' (plain ▸ dash)) (by decide)
  · rw [signed] at dash
    exact absurd (all '-' ((List.mem_cons.1 dash).resolve_left (by decide))) (by decide)

theorem bounds?_eq_some_iff : bounds? token = some (start, stop) ↔ Names token start stop := by
  unfold bounds?
  constructor
  · intro read
    split at read
    · rename_i first last divided
      obtain ⟨undivided, rfl⟩ := cut_eq_some_iff.1 divided
      obtain ⟨lower, lowest, rest⟩ := Option.bind_eq_some_iff.1 read
      obtain ⟨upper, highest, both⟩ := Option.map_eq_some_iff.1 rest
      cases both
      exact .range undivided (trims_trim first) (trims_trim last) (id?_eq_some_iff.1 lowest)
        (id?_eq_some_iff.1 highest)
    · obtain ⟨cpu, known, both⟩ := Option.map_eq_some_iff.1 read
      cases both
      exact .id (id?_eq_some_iff.1 known)
  · intro named
    cases named with
    | id text =>
      have undivided : cut '-' token = none :=
        cut_eq_none_iff.2 fun dash => not_isId_of_dash dash text
      rw [undivided]
      simp [id?_eq_some_iff.2 text]
    | range undivided before after lower upper =>
      rw [cut_append undivided]
      simp [trim_of_trims before, trim_of_trims after, id?_eq_some_iff.2 lower,
        id?_eq_some_iff.2 upper]

theorem parsePiece_eq (input : String) (piece : List Char) : parsePiece input piece =
    match bounds? (trim piece) with
    | none => .error (.invalidToken (String.ofList (trim piece)) input)
    | some (start, stop) =>
      if stop < start then .error (.reversedRange start stop)
      else if 8191 < stop then .error (.cpuOutOfRange stop 8191)
      else .ok (range start stop) := by
  unfold parsePiece bounds?
  dsimp only
  cases cut '-' (trim piece) with
  | none =>
    cases id? (trim piece) with
    | none => rfl
    | some cpu =>
      dsimp only [Option.map_some]
      rw [if_neg (Nat.lt_irrefl cpu)]
      rfl
  | some halves =>
    dsimp only
    cases id? (trim halves.1) with
    | none => rfl
    | some start => cases id? (trim halves.2) <;> rfl

theorem denotes_iff : Denotes piece start stop ↔
    bounds? (trim piece) = some (start, stop) ∧ start ≤ stop ∧ stop ≤ 8191 := by
  rw [bounds?_eq_some_iff]
  constructor
  · rintro ⟨token, trimmed, named, bounds⟩
    rw [trim_of_trims trimmed]
    exact ⟨named, bounds⟩
  · exact fun ⟨named, bounds⟩ => ⟨_, trims_trim piece, named, bounds⟩

theorem parsePiece_eq_ok_iff {input : String} {set : CpuSet} : parsePiece input piece = .ok set ↔
    ∃ start stop, Denotes piece start stop ∧ set = range start stop := by
  simp only [denotes_iff, parsePiece_eq]
  cases bounds? (trim piece) with
  | none => simp
  | some bounds =>
    obtain ⟨start, stop⟩ := bounds
    dsimp only
    constructor
    · intro read
      split_ifs at read with descending large
      cases read
      exact ⟨start, stop, ⟨rfl, by omega, by omega⟩, rfl⟩
    · rintro ⟨_, _, ⟨same, ascending, small⟩, rfl⟩
      cases same
      rw [if_neg (by omega), if_neg (by omega)]

theorem parsePiece_eq_error_iff {input : String} {fault : CpuError} :
    parsePiece input piece = .error fault ↔ PieceFault input piece fault := by
  rw [parsePiece_eq]
  constructor
  · intro failed
    have trimmed := trims_trim piece
    cases read : bounds? (trim piece) with
    | none =>
      rw [read] at failed
      cases failed
      refine .invalid trimmed fun start stop named => ?_
      rw [bounds?_eq_some_iff.2 named] at read
      cases read
    | some bounds =>
      obtain ⟨start, stop⟩ := bounds
      have named := bounds?_eq_some_iff.1 read
      rw [read] at failed
      dsimp only at failed
      split_ifs at failed with descending large
      · cases failed
        exact .reversed trimmed named descending
      · cases failed
        exact .outOfRange trimmed named (by omega) large
  · intro faulty
    cases faulty with
    | invalid trimmed unnamed =>
      have unread : bounds? (trim piece) = none := by
        refine Option.eq_none_iff_forall_ne_some.2 fun bounds read => ?_
        rw [trim_of_trims trimmed] at read
        exact unnamed _ _ (bounds?_eq_some_iff.1 read)
      rw [unread, trim_of_trims trimmed]
    | reversed trimmed named descending =>
      rw [trim_of_trims trimmed, bounds?_eq_some_iff.2 named]
      exact if_pos descending
    | outOfRange trimmed named ascending large =>
      rw [trim_of_trims trimmed, bounds?_eq_some_iff.2 named]
      dsimp only
      rw [if_neg (by omega), if_pos large]

theorem PieceFault.not_denotes {input : String} {fault : CpuError}
    (faulty : PieceFault input piece fault) : ¬ Denotes piece start stop := by
  intro denoted
  have failed := parsePiece_eq_error_iff.2 faulty
  rw [parsePiece_eq_ok_iff.2 ⟨start, stop, denoted, rfl⟩] at failed
  cases failed

end Piece

section Pieces
variable {input : String} {texts : List (List Char)}

/-- Reading goes through if every piece is as it should be, and adds what the pieces stand for. -/
theorem parsePieces_eq_ok_iff {before set : CpuSet} : parsePieces input texts before = .ok set ↔
    (∀ text ∈ texts, ∃ start stop, Denotes text start stop) ∧
      ∀ cpu, cpu ∈ set ↔ cpu ∈ before ∨ ∃ text ∈ texts, ∃ start stop,
        Denotes text start stop ∧ start ≤ cpu ∧ cpu ≤ stop := by
  -- for every set to begin with, as each piece adds to it
  induction texts generalizing before with
  | nil =>
    constructor
    · intro read
      cases read
      simp
    · rintro ⟨_, members⟩
      exact congrArg Except.ok (ext_mem fun cpu => by simp [members cpu])
  | cons text rest ih =>
    rw [parsePieces]
    cases read : parsePiece input text with
    | error fault =>
      have faulty := parsePiece_eq_error_iff.1 read
      constructor
      · exact nofun
      · rintro ⟨each, _⟩
        obtain ⟨start, stop, denoted⟩ := each text List.mem_cons_self
        exact absurd denoted faulty.not_denotes
    | ok more =>
      obtain ⟨start, stop, denoted, rfl⟩ := parsePiece_eq_ok_iff.1 read
      -- no piece denotes two ranges, so the first one adds these ids and no others
      have only : ∀ cpu, (∃ first last, Denotes text first last ∧ first ≤ cpu ∧ cpu ≤ last) ↔
          start ≤ cpu ∧ cpu ≤ stop := by
        intro cpu
        constructor
        · rintro ⟨first, last, denotedToo, inside⟩
          have same := (denotes_iff.1 denoted).1.symm.trans (denotes_iff.1 denotedToo).1
          cases same
          exact inside
        · exact fun inside => ⟨start, stop, denoted, inside⟩
      dsimp only
      rw [ih, List.forall_mem_cons]
      refine and_congr ⟨fun each => ⟨⟨start, stop, denoted⟩, each⟩, And.right⟩ ?_
      refine forall_congr' fun cpu => ?_
      simp only [mem_union, mem_range, List.exists_mem_cons_iff, only cpu, or_assoc]

/-- The first piece that is at fault ends the reading. -/
theorem parsePieces_eq_error_iff {before : CpuSet} {fault : CpuError} :
    parsePieces input texts before = .error fault ↔ ∃ front text back,
      texts = front ++ text :: back ∧
        (∀ earlier ∈ front, ∃ start stop, Denotes earlier start stop) ∧
        PieceFault input text fault := by
  induction texts generalizing before with
  | nil => simp [parsePieces]
  | cons text rest ih =>
    rw [parsePieces]
    constructor
    · intro failed
      cases read : parsePiece input text with
      | error cause =>
        rw [read] at failed
        cases failed
        exact ⟨[], text, rest, rfl, nofun, parsePiece_eq_error_iff.1 read⟩
      | ok more =>
        obtain ⟨start, stop, denoted, rfl⟩ := parsePiece_eq_ok_iff.1 read
        rw [read] at failed
        obtain ⟨front, later, back, rfl, sound, faulty⟩ := ih.1 failed
        exact ⟨text :: front, later, back, rfl,
          List.forall_mem_cons.2 ⟨⟨start, stop, denoted⟩, sound⟩, faulty⟩
    · rintro ⟨front, later, back, whole, sound, faulty⟩
      cases front with
      | nil =>
        cases whole
        rw [parsePiece_eq_error_iff.2 faulty]
      | cons first more =>
        cases whole
        obtain ⟨⟨start, stop, denoted⟩, others⟩ := List.forall_mem_cons.1 sound
        rw [parsePiece_eq_ok_iff.2 ⟨start, stop, denoted, rfl⟩]
        exact ih.2 ⟨more, later, back, rfl, others, faulty⟩

theorem exists_parsePieces_eq_ok_iff {before : CpuSet} :
    (∃ set, parsePieces input texts before = .ok set) ↔
      ∀ text ∈ texts, ∃ start stop, Denotes text start stop := by
  constructor
  · rintro ⟨set, read⟩
    exact (parsePieces_eq_ok_iff.1 read).1
  · intro each
    cases read : parsePieces input texts before with
    | ok set => exact ⟨set, rfl⟩
    | error fault =>
      obtain ⟨front, text, back, rfl, _, faulty⟩ := parsePieces_eq_error_iff.1 read
      obtain ⟨start, stop, denoted⟩ := each text (by simp)
      exact absurd denoted faulty.not_denotes

end Pieces

theorem parse_of_blank {input : String} (blank : Trims input.toList []) :
    parse input = .ok empty := by
  rw [parse, trim_of_trims blank]
  rfl

theorem parse_of_not_blank {input : String} (filled : ¬ Trims input.toList []) :
    parse input = parsePieces input (input.toList.splitOn ',') empty := by
  rw [parse, if_neg, pieces_eq_splitOn]
  rw [List.isEmpty_iff]
  exact mt trim_eq_iff.1 filled

theorem le_of_parse {input : String} {set : CpuSet} (read : parse input = .ok set) :
    ∀ cpu ∈ set, cpu ≤ 8191 := by
  intro cpu member
  by_cases blank : Trims input.toList []
  · rw [parse_of_blank blank] at read
    cases read
    exact absurd member (mem_empty cpu)
  · rw [parse_of_not_blank blank] at read
    obtain ⟨text, _, start, stop, denoted, _, below⟩ :=
      (((parsePieces_eq_ok_iff.1 read).2 cpu).1 member).resolve_left (mem_empty cpu)
    have largest := (denotes_iff.1 denoted).2.2
    omega

/-- A blank text is the empty set. Any other text is read exactly if every piece between its commas
denotes a range of ids, and then gives their union; otherwise the fault is that of the first piece
that denotes none. No id above 8191 is ever in a set, and each range that is made of a piece ends at
8191 or below. -/
theorem parse_follows_grammar (input : String) :
    (Trims input.toList [] → parse input = .ok empty) ∧
    (¬ Trims input.toList [] →
      let texts := input.toList.splitOn ','
      ((∃ set, parse input = .ok set) ↔ ∀ text ∈ texts, ∃ start stop, Denotes text start stop) ∧
      (∀ set, parse input = .ok set ↔ (∀ text ∈ texts, ∃ start stop, Denotes text start stop) ∧
        ∀ cpu, cpu ∈ set ↔ ∃ text ∈ texts, ∃ start stop,
          Denotes text start stop ∧ start ≤ cpu ∧ cpu ≤ stop) ∧
      ∀ fault, parse input = .error fault ↔ ∃ front text back, texts = front ++ text :: back ∧
        (∀ earlier ∈ front, ∃ start stop, Denotes earlier start stop) ∧
        PieceFault input text fault) ∧
    (∀ set, parse input = .ok set → ∀ cpu ∈ set, cpu ≤ 8191) ∧
    ∀ piece set, parsePiece input piece = .ok set →
      ∃ start stop, Denotes piece start stop ∧ set = range start stop ∧ stop ≤ 8191 := by
  refine ⟨parse_of_blank, fun filled => ?_, fun set => le_of_parse, fun piece set made => ?_⟩
  · intro texts
    rw [parse_of_not_blank filled]
    refine ⟨exists_parsePieces_eq_ok_iff, fun set => ?_, fun fault => parsePieces_eq_error_iff⟩
    rw [parsePieces_eq_ok_iff]
    simp only [mem_empty, false_or]
    rfl
  · obtain ⟨start, stop, denoted, rfl⟩ := parsePiece_eq_ok_iff.1 made
    exact ⟨start, stop, denoted, rfl, (denotes_iff.1 denoted).2.2⟩

theorem parse_follows_grammar_reversed :
    let input := " 4 , +7 - 05,9-8200"
    ¬ Trims input.toList [] ∧ Denotes " 4 ".toList 4 4 ∧
      parse input = .error (.reversedRange 7 5) := by
  intro input
  have filled : ¬ Trims input.toList [] := fun blank => by
    have empty := trim_of_trims blank
    revert empty
    decide +kernel
  have four : Denotes " 4 ".toList 4 4 := denotes_iff.2 (by decide +kernel)
  have named : Names (trim " +7 - 05".toList) 7 5 := bounds?_eq_some_iff.1 (by decide +kernel)
  obtain ⟨_, read, _⟩ := parse_follows_grammar input
  obtain ⟨_, _, faults⟩ := read filled
  refine ⟨filled, four, (faults _).2 ⟨[" 4 ".toList], " +7 - 05".toList, ["9-8200".toList],
    by decide +kernel, ?_, .reversed (trims_trim _) named (by decide)⟩⟩
  exact List.forall_mem_singleton.2 ⟨4, 4, four⟩

end NodeTuning.CpuSet
