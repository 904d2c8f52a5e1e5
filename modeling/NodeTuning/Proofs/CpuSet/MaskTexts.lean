import NodeTuning.Proofs.CpuSet.MaskBits

/-!
Masks as texts. Main statement: the written masks have eight lowercase digits for every word, and
as numbers they are the sum of the bits of the set, or all ones but those. So a set is known by any
of its masks.
-/
namespace NodeTuning

namespace Text
variable {text : String} {groups : List (List Char)}

/-- The lowercase hexadecimal digits. -/
def hexDigits : List Char :=
  ['0', '1', '2', '3', '4', '5', '6', '7', '8', '9', 'a', 'b', 'c', 'd', 'e', 'f']

theorem mem_hexDigits_of_hexadecimal {c : Char} {width n : Nat} (member : c ∈ hexadecimal width n) :
    c ∈ hexDigits := by
  have listed : ∀ digit < 16, Nat.digitChar digit ∈ hexDigits := by decide
  obtain ⟨digit, small, rfl⟩ := mem_hexadecimal member
  exact listed digit small

/-- A text of groups of eight digits, with commas between them. -/
structure Grouped (text : String) (groups : List (List Char)) : Prop where
  joined : text.toList = List.intercalate [','] groups
  sized : ∀ group ∈ groups, group.length = 8
  digits : ∀ group ∈ groups, ∀ c ∈ group, c ∈ hexDigits

theorem Grouped.free (grouped : Grouped text groups) : ∀ group ∈ groups, ',' ∉ group := by
  intro group member comma
  have digit := grouped.digits group member ',' comma
  contradiction

/-- The groups are what is left without the commas. -/
theorem Grouped.flatten_eq (grouped : Grouped text groups) :
    text.toList.filter (· ≠ ',') = groups.flatten := by
  have kept : ∀ group ∈ groups, group.filter (· ≠ ',') = group := by
    intro group member
    apply List.filter_eq_self.2
    intro c inside
    exact decide_eq_true fun comma => grouped.free group member (comma ▸ inside)
  rw [grouped.joined]
  clear grouped
  induction groups with
  | nil => rfl
  | cons group rest ih =>
    obtain ⟨own, others⟩ := List.forall_mem_cons.1 kept
    cases rest with
    | nil => simpa using own
    | cons next more =>
      rw [List.intercalate_cons_cons, List.filter_append, List.filter_append, own, ih others]
      simp

theorem Grouped.groups_eq {other : List (List Char)} (grouped : Grouped text groups)
    (filled : groups ≠ []) (also : Grouped text other) (filledToo : other ≠ []) :
    groups = other := by
  rw [← pieces_intercalate filled grouped.free, ← grouped.joined, also.joined,
    pieces_intercalate filledToo also.free]

end Text

namespace CpuSet
open Text
variable {set other : CpuSet} {words : List Nat}

theorem length_wordTexts (words : List Nat) : (wordTexts words).length = words.length := by
  rw [wordTexts, List.length_map, List.length_reverse]

theorem grouped_wordTexts (words : List Nat) :
    Grouped (join "," ((wordTexts words).map String.ofList)) (wordTexts words) where
  joined := toList_join_wordTexts words
  sized := by
    rw [wordTexts, List.forall_mem_map]
    exact fun word _ => length_lastDigits 16 8 word
  digits := by
    rw [wordTexts, List.forall_mem_map]
    exact fun _ _ _ => mem_hexDigits_of_hexadecimal

theorem length_flatten_wordTexts (words : List Nat) :
    (wordTexts words).flatten.length = 8 * words.length := by
  induction words with
  | nil => rfl
  | cons word rest ih =>
    rw [wordTexts_cons, List.flatten_append, List.length_append, ih, List.length_cons, Nat.mul_succ]
    rfl

theorem hexNumber?_wordTexts (below : ∀ word ∈ words, word < UInt32.size) :
    hexNumber? (wordTexts words).flatten = some (Nat.ofDigits UInt32.size words) := by
  induction words with
  | nil => rfl
  | cons word rest ih =>
    obtain ⟨small, others⟩ := List.forall_mem_cons.1 below
    have behind := @hexNumber?_append 8 word _ _ (ih others) small
    rw [wordTexts_cons, List.flatten_append, List.flatten_singleton, behind, Nat.ofDigits_cons,
      Nat.add_comm]
    rfl

theorem eq_of_mask_eq (same : set.mask = other.mask) : set = other := by
  apply ext_mem
  intro cpu
  rw [← testBit_mask, same, testBit_mask]

section Plain

theorem toList_hexMask (set : CpuSet) :
    set.hexMask.toList = (wordTexts (set.words set.wordCount)).flatten := by
  rw [hexMask, String.toList_ofList]

theorem hexNumber?_hexMask (set : CpuSet) : hexNumber? set.hexMask.toList = some set.mask := by
  rw [toList_hexMask, hexNumber?_wordTexts (set.words_lt _), ofDigits_words (Nat.le_refl _)]

theorem grouped_maskList (set : CpuSet) :
    Grouped set.maskList (wordTexts (set.words set.wordCount)) :=
  grouped_wordTexts _

/-- Without its commas the list of words is the mask. -/
theorem filter_maskList (set : CpuSet) :
    set.maskList.toList.filter (· ≠ ',') = set.hexMask.toList := by
  rw [(grouped_maskList set).flatten_eq, toList_hexMask]

theorem eq_of_hexMask_eq (same : set.hexMask = other.hexMask) : set = other := by
  apply eq_of_mask_eq
  have read := hexNumber?_hexMask set
  rw [same, hexNumber?_hexMask] at read
  exact (Option.some.inj read).symm

theorem eq_of_maskList_eq (same : set.maskList = other.maskList) : set = other := by
  apply eq_of_hexMask_eq
  rw [← String.toList_inj, ← filter_maskList, same, filter_maskList]

end Plain

section Inverted

/-- The digits of the inverted mask, word by word. -/
def invertedTexts (set : CpuSet) : List (List Char) :=
  wordTexts ((set.words set.invertedWordCount).map (UInt32.size - 1 - ·))

theorem grouped_invertedMaskList (set : CpuSet) :
    Grouped set.invertedMaskList set.invertedTexts :=
  grouped_wordTexts _

theorem length_invertedTexts (set : CpuSet) :
    set.invertedTexts.length = set.invertedWordCount := by
  rw [invertedTexts, length_wordTexts, List.length_map, length_words]

theorem invertedTexts_ne_nil (set : CpuSet) : set.invertedTexts ≠ [] := by
  rw [← List.length_pos_iff, length_invertedTexts]
  exact lt_max_of_lt_right (by decide)

theorem hexNumber?_invertedTexts (set : CpuSet) : hexNumber? set.invertedTexts.flatten =
    some (2 ^ (32 * set.invertedWordCount) - (set.mask + 1)) := by
  rw [invertedTexts, hexNumber?_wordTexts turned_lt, ofDigits_turned]

/-- Masks of different widths have different numbers of words, and of one width each is all ones but
those of its set. -/
theorem eq_of_invertedMaskList_eq (same : set.invertedMaskList = other.invertedMaskList) :
    set = other := by
  have grouped := grouped_invertedMaskList other
  rw [← same] at grouped
  have texts : set.invertedTexts = other.invertedTexts :=
    (grouped_invertedMaskList set).groups_eq set.invertedTexts_ne_nil grouped
      other.invertedTexts_ne_nil
  have widths : set.invertedWordCount = other.invertedWordCount := by
    rw [← length_invertedTexts, texts, length_invertedTexts]
  have read := hexNumber?_invertedTexts set
  rw [texts, hexNumber?_invertedTexts, widths] at read
  have numbers := Option.some.inj read
  have fits := mask_lt set.wordCount_le_inverted
  have fitsToo := mask_lt other.wordCount_le_inverted
  rw [widths] at fits
  apply eq_of_mask_eq
  omega

end Inverted

/-- What the three masks of a set say. Each of them says which set it is of. -/
theorem masks_denote (set : CpuSet) :
    let sum := (set.ids.map (2 ^ ·)).sum
    let width := set.wordCount
    let inverted := max width 2
    (set = .empty → width = 1) ∧
    (∀ highest ∈ set, (∀ cpu ∈ set, cpu ≤ highest) → width = highest / 32 + 1) ∧
    (set.hexMask.toList.length = 8 * width ∧ (∀ c ∈ set.hexMask.toList, c ∈ hexDigits) ∧
      hexNumber? set.hexMask.toList = some sum) ∧
    (∃ groups, Grouped set.maskList groups ∧ groups.length = width ∧
      groups.flatten = set.hexMask.toList) ∧
    (∃ groups number, Grouped set.invertedMaskList groups ∧ groups.length = inverted ∧
      hexNumber? (set.invertedMaskList.toList.filter (· ≠ ',')) = some number ∧
      number + sum = 2 ^ (32 * inverted) - 1 ∧
      ∀ cpu, number.testBit cpu = true ↔ cpu < 32 * inverted ∧ cpu ∉ set) ∧
    ∀ other : CpuSet, (set.hexMask = other.hexMask → set = other) ∧
      (set.maskList = other.maskList → set = other) ∧
      (set.invertedMaskList = other.invertedMaskList → set = other) := by
  intro sum width inverted
  have value : set.mask = sum := bitsOf_eq_sum set.ids
  have grouped := grouped_maskList set
  have size := length_words set set.wordCount
  refine ⟨?_, fun highest => wordCount_of_highest, ⟨?_, ?_, ?_⟩, ⟨_, grouped, ?_, ?_⟩, ?_, ?_⟩
  · rintro rfl
    rfl
  · rw [toList_hexMask, length_flatten_wordTexts, size]
  · intro c member
    rw [toList_hexMask, List.mem_flatten] at member
    obtain ⟨group, listed, inside⟩ := member
    exact grouped.digits group listed c inside
  · rw [hexNumber?_hexMask, value]
  · rw [length_wordTexts, size]
  · rw [toList_hexMask]
  · have turned := grouped_invertedMaskList set
    have fits : set.mask < 2 ^ (32 * inverted) := mask_lt set.wordCount_le_inverted
    refine ⟨_, 2 ^ (32 * inverted) - (set.mask + 1), turned, length_invertedTexts set, ?_, ?_, ?_⟩
    · rw [turned.flatten_eq, hexNumber?_invertedTexts]
      rfl
    · omega
    · intro cpu
      rw [Nat.testBit_two_pow_sub_succ fits, ← testBit_mask]
      simp
  · exact fun other => ⟨eq_of_hexMask_eq, eq_of_maskList_eq, eq_of_invertedMaskList_eq⟩

example : (ofList [64, 0]).invertedMaskList = "fffffffe,ffffffff,fffffffe" := by decide +kernel

end CpuSet
end NodeTuning
