import NodeTuning.Proofs.Text.Reading
import NodeTuning.SortedMap

/-!
Texts of settings in sections. A line that begins with a bracket names a section, an empty one
stands between sections, and any other line holds a key and a value around its first equals sign.
Main statements: what is read from a text that is written line by line, whatever follows it.
-/
namespace NodeTuning.Text
variable {line rest : List Char} {more : List (List Char)}

theorem pieces_line (free : '\n' ∉ line) (rest : List Char) :
    pieces '\n' (line ++ '\n' :: rest) = line :: pieces '\n' rest := by
  induction line with
  | nil => simp [pieces]
  | cons c line ih =>
    obtain ⟨different, later⟩ := not_or.1 (mt List.mem_cons.2 free)
    rw [List.cons_append, pieces, if_neg (Ne.symm different), ih later]

theorem pieces_lines {texts : List String} (free : ∀ text ∈ texts, '\n' ∉ text.toList)
    (rest : List Char) :
    pieces '\n' ((lines texts).toList ++ rest) = texts.map String.toList ++ pieces '\n' rest := by
  induction texts with
  | nil => simp [lines]
  | cons text texts ih =>
    obtain ⟨own, others⟩ := List.forall_mem_cons.1 free
    have first : (lines (text :: texts)).toList ++ rest =
        text.toList ++ '\n' :: ((lines texts).toList ++ rest) := by
      simp [lines]
    rw [first, pieces_line own, ih others]
    rfl

theorem notMem_lines {c : Char} {texts : List String} (other : c ≠ '\n')
    (free : ∀ text ∈ texts, c ∉ text.toList) : c ∉ (lines texts).toList := by
  induction texts with
  | nil => simp [lines]
  | cons text texts ih =>
    obtain ⟨own, others⟩ := List.forall_mem_cons.1 free
    have first : (lines (text :: texts)).toList = text.toList ++ '\n' :: (lines texts).toList := by
      simp [lines]
    simp [first, own, other, ih others]

/-- The two sides of the first equals sign of a text, or the text and nothing. -/
def assignment (text : List Char) : String × String :=
  let halves := (cut '=' text).getD (text, [])
  (String.ofList halves.1, String.ofList halves.2)

theorem assignment_written {key : String} (plain : '=' ∉ key.toList) (value : String) :
    assignment (key ++ "=" ++ value).toList = (key, value) := by
  have whole : (key ++ "=" ++ value).toList = key.toList ++ '=' :: value.toList := by simp
  rw [assignment, whole, cut_append plain]
  simp

abbrev Entries := List (String × String)

/-- The entries before the first section, and the sections with theirs. -/
def readSections : List (List Char) → Entries × List (String × Entries)
  | [] => ([], [])
  | line :: rest =>
    let later := readSections rest
    match line with
    | [] => later
    | '[' :: name => ([], (String.ofList name.dropLast, later.1) :: later.2)
    | _ => (assignment line :: later.1, later.2)

def sections (text : String) : List (String × Entries) :=
  (readSections (pieces '\n' text.toList)).2

/-- The value of a key in a section. The first one of a name counts. -/
def setting? (text part key : String) : Option String :=
  (SortedMap.lookup part (sections text)).bind (SortedMap.lookup key)

/-- A key that can be told from the name of a section and from its value. -/
def IsKey (key : String) : Prop :=
  key.toList.head? ≠ some '[' ∧ '=' ∉ key.toList ∧ '\n' ∉ key.toList

instance (key : String) : Decidable (IsKey key) :=
  inferInstanceAs (Decidable (_ ∧ _ ∧ _))

@[simp] theorem readSections_header (name : String) :
    readSections (("[" ++ name ++ "]").toList :: more) =
      ([], (name, (readSections more).1) :: (readSections more).2) := by
  have header : ("[" ++ name ++ "]").toList = '[' :: (name.toList ++ [']']) := by simp
  rw [header, readSections]
  simp

theorem readSections_entry {key : String} (plain : IsKey key) (value : String) :
    readSections ((key ++ "=" ++ value).toList :: more) =
      ((key, value) :: (readSections more).1, (readSections more).2) := by
  have first : (key ++ "=" ++ value).toList.head? ≠ some '[' := by
    have plain := plain.1
    cases chars : key.toList with
    | nil => simp [chars]
    | cons c front => simpa [chars] using plain
  rw [readSections, assignment_written plain.2.1]
  · intro empty
    simp at empty
  · intro name bracket
    rw [bracket] at first
    exact first rfl

theorem readSections_entries {entries : Entries} (plain : ∀ entry ∈ entries, IsKey entry.1)
    (more : List (List Char)) :
    readSections ((entries.map fun entry => (entry.1 ++ "=" ++ entry.2).toList) ++ more) =
      (entries ++ (readSections more).1, (readSections more).2) := by
  induction entries with
  | nil => rfl
  | cons entry entries ih =>
    obtain ⟨own, others⟩ := List.forall_mem_cons.1 plain
    rw [List.map_cons, List.cons_append, readSections_entry own, ih others]
    rfl

def sectionLines (part : String × Entries) : List String :=
  ("[" ++ part.1 ++ "]") :: part.2.map fun entry => entry.1 ++ "=" ++ entry.2

/-- A section whose lines can be told from each other. -/
structure Legible (part : String × Entries) : Prop where
  name : '\n' ∉ part.1.toList
  keys : ∀ entry ∈ part.2, IsKey entry.1
  values : ∀ entry ∈ part.2, '\n' ∉ entry.2.toList

instance (part : String × Entries) : Decidable (Legible part) :=
  decidable_of_iff ('\n' ∉ part.1.toList ∧ (∀ entry ∈ part.2, IsKey entry.1) ∧
      ∀ entry ∈ part.2, '\n' ∉ entry.2.toList)
    ⟨fun ⟨name, keys, values⟩ => ⟨name, keys, values⟩,
      fun legible => ⟨legible.name, legible.keys, legible.values⟩⟩

variable {part : String × Entries}

theorem Legible.free (legible : Legible part) : ∀ line ∈ sectionLines part, '\n' ∉ line.toList := by
  rw [sectionLines, List.forall_mem_cons, List.forall_mem_map]
  constructor
  · simpa using legible.name
  · intro entry member
    have key := (legible.keys entry member).2.2
    have value := legible.values entry member
    simp [key, value]

theorem Legible.append {name : String} {front back : Entries} (first : Legible (name, front))
    (second : Legible (name, back)) : Legible (name, front ++ back) where
  name := first.name
  keys := List.forall_mem_append.2 ⟨first.keys, second.keys⟩
  values := List.forall_mem_append.2 ⟨first.values, second.values⟩

/-- The entries of what follows belong to the section too, up to the next one. -/
theorem readSections_part (legible : Legible part) (rest : List Char) :
    readSections (pieces '\n' ((lines (sectionLines part)).toList ++ rest)) =
      ([], (part.1, part.2 ++ (readSections (pieces '\n' rest)).1) ::
        (readSections (pieces '\n' rest)).2) := by
  have entries : (sectionLines part).map String.toList = ("[" ++ part.1 ++ "]").toList ::
      part.2.map fun entry => (entry.1 ++ "=" ++ entry.2).toList := by
    simp only [sectionLines, List.map_cons, List.map_map]
    rfl
  rw [pieces_lines legible.free, entries, List.cons_append, readSections_header,
    readSections_entries legible.keys]

/-- Sections with an empty line after each of them. -/
def partsText (parts : List (String × Entries)) : List Char :=
  parts.flatMap fun part => (lines (sectionLines part)).toList ++ ['\n']

theorem readSections_partsText {parts : List (String × Entries)}
    (legible : ∀ part ∈ parts, Legible part) {rest : List Char}
    (starts : (readSections (pieces '\n' rest)).1 = []) :
    readSections (pieces '\n' (partsText parts ++ rest)) =
      ([], parts ++ (readSections (pieces '\n' rest)).2) := by
  induction parts with
  | nil => exact Prod.ext starts rfl
  | cons part parts ih =>
    obtain ⟨own, others⟩ := List.forall_mem_cons.1 legible
    have blank : readSections (pieces '\n' ('\n' :: (partsText parts ++ rest))) =
        readSections (pieces '\n' (partsText parts ++ rest)) := rfl
    have first : partsText (part :: parts) ++ rest =
        (lines (sectionLines part)).toList ++ '\n' :: (partsText parts ++ rest) := by
      simp [partsText]
    rw [first, readSections_part own, blank, ih others, List.append_nil]
    rfl

end NodeTuning.Text
