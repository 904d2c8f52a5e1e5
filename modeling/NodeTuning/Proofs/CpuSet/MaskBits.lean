import NodeTuning.CpuSet.Mask
import NodeTuning.Proofs.Text.Digits
import Mathlib.Data.Nat.BitIndices
import Mathlib.Data.Nat.Digits.Defs

/-!
What masks say. A mask that is written in words is read as a number, and the bits of that number are
compared with the ids of the set. Main statements: the bits of `mask`, and the number that the words
of an inverted mask stand for.
-/
namespace NodeTuning

namespace Text
variable {c : Char} {width n : Nat}

def hexDigit? (c : Char) : Option Nat :=
  if '0' ≤ c ∧ c ≤ '9' then some (c.toNat - 48)
  else if 'a' ≤ c ∧ c ≤ 'f' then some (c.toNat - 87)
  else none

/-- Reads hexadecimal digits, the highest first. -/
def hexNumber? (text : List Char) : Option Nat :=
  text.foldlM (fun number c => (hexDigit? c).map (16 * number + ·)) 0

theorem hexDigit?_digitChar : ∀ digit < 16, hexDigit? (Nat.digitChar digit) = some digit := by
  decide

/-- Digits that are written behind others move those up by as many places. -/
theorem hexNumber?_append {front : List Char} {number : Nat} (read : hexNumber? front = some number)
    (fits : n < 16 ^ width) :
    hexNumber? (front ++ hexadecimal width n) = some (16 ^ width * number + n) := by
  induction width generalizing n with
  | zero =>
    obtain rfl := Nat.lt_one_iff.1 fits
    rw [hexadecimal, lastDigits, List.append_nil, read, Nat.pow_zero, Nat.one_mul, Nat.add_zero]
  | succ width ih =>
    have earlier : hexNumber? (front ++ lastDigits 16 width (n / 16)) =
        some (16 ^ width * number + n / 16) :=
      ih (Nat.div_lt_of_lt_mul (by rwa [Nat.pow_succ, Nat.mul_comm] at fits))
    have last := hexDigit?_digitChar (n % 16) (Nat.mod_lt n (by decide))
    have moved : 16 * (16 ^ width * number + n / 16) + n % 16 = 16 ^ (width + 1) * number + n := by
      rw [Nat.pow_succ, Nat.mul_add, Nat.add_assoc, Nat.div_add_mod, Nat.mul_comm _ 16,
        Nat.mul_assoc]
    rw [hexNumber?] at earlier ⊢
    rw [hexadecimal, lastDigits, ← List.append_assoc, List.foldlM_append, earlier]
    simp [last, moved]

theorem hexNumber?_hexadecimal (fits : n < 16 ^ width) :
    hexNumber? (hexadecimal width n) = some n := by
  have alone := @hexNumber?_append width n [] 0 rfl fits
  rwa [List.nil_append, Nat.mul_zero, Nat.zero_add] at alone

theorem mem_hexadecimal (member : c ∈ hexadecimal width n) :
    ∃ digit < 16, c = Nat.digitChar digit := by
  induction width generalizing n with
  | zero => cases member
  | succ width ih =>
    rcases List.mem_append.1 member with earlier | last
    · exact ih earlier
    · exact ⟨n % 16, Nat.mod_lt n (by decide), List.mem_singleton.1 last⟩

def word? (text : List Char) : Option Nat := if text.length = 8 then hexNumber? text else none

/-- Words with commas between them, the highest first, as one number. -/
def wordsNumber? (text : String) : Option Nat :=
  (pieces ',' text.toList).foldlM
    (fun number word => (word? word).map (UInt32.size * number + ·)) 0

theorem word?_hexadecimal (fits : n < UInt32.size) : word? (hexadecimal 8 n) = some n := by
  have eight : (hexadecimal 8 n).length = 8 := length_lastDigits 16 8 n
  rw [word?, if_pos eight, hexNumber?_hexadecimal fits]

theorem notMem_hexadecimal (other : ∀ digit < 16, c ≠ Nat.digitChar digit) :
    c ∉ hexadecimal width n := by
  intro member
  obtain ⟨digit, small, same⟩ := mem_hexadecimal member
  exact other digit small same

end Text

namespace CpuSet
open Text
variable {base count cpu limit : Nat} {ids words : List Nat} {set : CpuSet}

theorem bitsOf_eq_sum (ids : List Nat) : bitsOf ids = (ids.map (2 ^ ·)).sum := by
  induction ids with
  | nil => rfl
  | cons cpu rest ih => rw [bitsOf, ih, List.map_cons, List.sum_cons]; rfl

theorem bitsOf_append (front back : List Nat) :
    bitsOf (front ++ back) = bitsOf front + bitsOf back := by
  simp [bitsOf_eq_sum]

theorem testBit_bitsOf (sorted : ids.Pairwise (· < ·)) :
    (bitsOf ids).testBit cpu = true ↔ cpu ∈ ids := by
  rw [← Nat.mem_bitIndices, bitsOf_eq_sum, Nat.bitIndices_sum_map_two_pow sorted.sortedLT]

theorem testBit_mask (set : CpuSet) (cpu : Nat) : set.mask.testBit cpu = true ↔ cpu ∈ set :=
  testBit_bitsOf set.sorted

theorem bitsOf_lt (sorted : ids.Pairwise (· < ·)) (below : ∀ cpu ∈ ids, cpu < limit) :
    bitsOf ids < 2 ^ limit := by
  refine Nat.lt_pow_two_of_testBit _ fun cpu large => Bool.eq_false_iff.2 fun bit => ?_
  have small := below cpu ((testBit_bitsOf sorted).1 bit)
  omega

theorem sorted_shifted (sorted : ids.Pairwise (· < ·)) (above : ∀ cpu ∈ ids, base ≤ cpu) :
    (ids.map (· - base)).Pairwise (· < ·) := by
  refine List.pairwise_map.2 (sorted.imp_of_mem fun {x y} left right ascending => ?_)
  have lower := above x left
  omega

theorem bitsOf_shifted (above : ∀ cpu ∈ ids, base + 32 ≤ cpu) :
    bitsOf (ids.map (· - base)) = UInt32.size * bitsOf (ids.map (· - (base + 32))) := by
  have power : ∀ cpu ∈ ids, 2 ^ (cpu - base) = UInt32.size * 2 ^ (cpu - (base + 32)) := by
    intro cpu member
    have high := above cpu member
    rw [show cpu - base = 32 + (cpu - (base + 32)) by omega, Nat.pow_add]
  rw [bitsOf_eq_sum, bitsOf_eq_sum, List.map_map, List.map_map, ← List.sum_map_mul_left]
  exact congrArg List.sum (List.map_congr_left power)

theorem le_of_mem_dropWhile (sorted : ids.Pairwise (· < ·))
    (member : cpu ∈ ids.dropWhile (· < limit)) : limit ≤ cpu := by
  induction ids with
  | nil => cases member
  | cons first rest ih =>
    obtain ⟨below, later⟩ := List.pairwise_cons.1 sorted
    by_cases small : first < limit
    · rw [List.dropWhile_cons_of_pos (by simpa using small)] at member
      exact ih later member
    · rw [List.dropWhile_cons_of_neg (by simpa using small)] at member
      rcases List.mem_cons.1 member with rfl | after
      · omega
      · have ascending := below cpu after
        omega

theorem length_wordsFrom (count base : Nat) (ids : List Nat) :
    (wordsFrom count base ids).length = count := by
  induction count generalizing base ids with
  | zero => rfl
  | succ count ih => rw [wordsFrom, List.length_cons, ih]

theorem word_lt (sorted : ids.Pairwise (· < ·)) (above : ∀ cpu ∈ ids, base ≤ cpu) :
    bitsOf ((ids.takeWhile (· < base + 32)).map (· - base)) < UInt32.size := by
  have front : (ids.takeWhile (· < base + 32)).Sublist ids := List.takeWhile_sublist _
  have shifted : ∀ cpu ∈ (ids.takeWhile (· < base + 32)).map (· - base), cpu < 32 := by
    rw [List.forall_mem_map]
    intro cpu member
    have small := List.mem_takeWhile_imp member
    rw [decide_eq_true_eq] at small
    omega
  exact bitsOf_lt (sorted_shifted (sorted.sublist front) fun cpu member =>
    above cpu (front.subset member)) shifted

theorem lt_of_mem_wordsFrom (sorted : ids.Pairwise (· < ·)) (above : ∀ cpu ∈ ids, base ≤ cpu) :
    ∀ word ∈ wordsFrom count base ids, word < UInt32.size := by
  induction count generalizing base ids with
  | zero => exact nofun
  | succ count ih =>
    rw [wordsFrom, List.forall_mem_cons]
    exact ⟨word_lt sorted above, ih (sorted.sublist (List.dropWhile_sublist _))
      fun cpu member => le_of_mem_dropWhile sorted member⟩

/-- Every word takes the ids of its range and leaves the others to the words above it. -/
theorem ofDigits_wordsFrom (sorted : ids.Pairwise (· < ·)) (above : ∀ cpu ∈ ids, base ≤ cpu)
    (below : ∀ cpu ∈ ids, cpu < base + 32 * count) :
    Nat.ofDigits UInt32.size (wordsFrom count base ids) = bitsOf (ids.map (· - base)) := by
  -- over the words, with the base moved up by one word each time
  induction count generalizing base ids with
  | zero =>
    cases ids with
    | nil => rfl
    | cons cpu rest =>
      have low := above cpu List.mem_cons_self
      have high := below cpu List.mem_cons_self
      omega
  | succ count ih =>
    have later : ∀ cpu ∈ ids.dropWhile (· < base + 32), base + 32 ≤ cpu :=
      fun cpu member => le_of_mem_dropWhile sorted member
    have back : (ids.dropWhile (· < base + 32)).Sublist ids := List.dropWhile_sublist _
    have rest := ih (sorted.sublist back) later fun cpu member => by
      have small := below cpu (back.subset member)
      omega
    rw [wordsFrom, Nat.ofDigits_cons, rest, ← bitsOf_shifted later, ← bitsOf_append,
      ← List.map_append, List.takeWhile_append_dropWhile]

theorem notMem_of_max? (none : set.max? = none) : cpu ∉ set := by
  rw [max?, List.getLast?_eq_none_iff] at none
  rw [mem_def, none]
  exact List.not_mem_nil

theorem highest_of_max? {highest : Nat} (found : set.max? = some highest) :
    highest ∈ set ∧ ∀ cpu ∈ set, cpu ≤ highest := by
  obtain ⟨front, whole⟩ := List.getLast?_eq_some_iff.1 found
  have ascending := (List.pairwise_append.1 (whole ▸ set.sorted)).2.2
  simp only [mem_def, whole, List.mem_append, List.mem_singleton, or_true, true_and]
  rintro cpu (earlier | rfl)
  · exact Nat.le_of_lt (ascending cpu earlier highest (List.mem_singleton_self _))
  · exact Nat.le_refl cpu

theorem wordCount_of_highest {highest : Nat} (member : highest ∈ set)
    (above : ∀ cpu ∈ set, cpu ≤ highest) : set.wordCount = highest / 32 + 1 := by
  rw [wordCount]
  cases found : set.max? with
  | none => exact absurd member (notMem_of_max? found)
  | some greatest =>
    obtain ⟨inside, bounding⟩ := highest_of_max? found
    obtain rfl := Nat.le_antisymm (bounding highest member) (above greatest inside)
    rfl

theorem lt_wordCount (member : cpu ∈ set) : cpu < 32 * set.wordCount := by
  cases found : set.max? with
  | none => exact absurd member (notMem_of_max? found)
  | some highest =>
    obtain ⟨inside, bounding⟩ := highest_of_max? found
    have small := bounding cpu member
    rw [wordCount_of_highest inside bounding]
    omega

theorem wordCount_le_inverted (set : CpuSet) : set.wordCount ≤ set.invertedWordCount :=
  le_max_left _ _

theorem ofDigits_words (covers : set.wordCount ≤ count) :
    Nat.ofDigits UInt32.size (set.words count) = set.mask := by
  have below : ∀ cpu ∈ set.ids, cpu < 0 + 32 * count := by
    intro cpu member
    have small := lt_wordCount member
    omega
  rw [words, ofDigits_wordsFrom set.sorted (fun _ _ => Nat.zero_le _) below]
  simp [mask]

/-- Words with all bits turned over add up with the old ones to all ones. -/
theorem ofDigits_complement (below : ∀ word ∈ words, word < limit) :
    Nat.ofDigits limit (words.map (limit - 1 - ·)) + Nat.ofDigits limit words + 1 =
      limit ^ words.length := by
  induction words with
  | nil => rfl
  | cons word words ih =>
    obtain ⟨small, others⟩ := List.forall_mem_cons.1 below
    rw [List.map_cons, Nat.ofDigits_cons, Nat.ofDigits_cons, List.length_cons, Nat.pow_succ,
      ← ih others]
    have turned : limit - 1 - word + word + 1 = limit := by omega
    linarith [turned]

theorem toList_join_wordTexts (words : List Nat) :
    (join "," ((wordTexts words).map String.ofList)).toList =
      List.intercalate [','] (wordTexts words) := by
  simp [join, String.toList_intercalate, Function.comp_def]

theorem wordTexts_cons (word : Nat) (words : List Nat) :
    wordTexts (word :: words) = wordTexts words ++ [hexadecimal 8 word] := by
  simp [wordTexts]

theorem foldlM_wordTexts (below : ∀ word ∈ words, word < UInt32.size) :
    (wordTexts words).foldlM (fun number word => (word? word).map (UInt32.size * number + ·)) 0 =
      some (Nat.ofDigits UInt32.size words) := by
  induction words with
  | nil => rfl
  | cons word words ih =>
    obtain ⟨small, others⟩ := List.forall_mem_cons.1 below
    rw [wordTexts_cons, List.foldlM_append, ih others, Nat.ofDigits_cons]
    simp [word?_hexadecimal small, Nat.add_comm]

theorem wordsNumber?_wordTexts (filled : words ≠ []) (below : ∀ word ∈ words, word < UInt32.size) :
    wordsNumber? (join "," ((wordTexts words).map String.ofList)) =
      some (Nat.ofDigits UInt32.size words) := by
  have some : wordTexts words ≠ [] := by simpa [wordTexts] using filled
  have free : ∀ text ∈ wordTexts words, ',' ∉ text := by
    rw [wordTexts, List.forall_mem_map]
    exact fun _ _ => notMem_hexadecimal (by decide)
  rw [wordsNumber?, toList_join_wordTexts, pieces_intercalate some free, foldlM_wordTexts below]

theorem words_lt (set : CpuSet) (count : Nat) : ∀ word ∈ set.words count, word < UInt32.size :=
  lt_of_mem_wordsFrom set.sorted fun _ _ => Nat.zero_le _

theorem length_words (set : CpuSet) (count : Nat) : (set.words count).length = count :=
  length_wordsFrom _ _ _

theorem turned_lt : ∀ word ∈ words.map (UInt32.size - 1 - ·), word < UInt32.size := by
  rw [List.forall_mem_map]
  intro word _
  exact Nat.lt_of_le_of_lt (Nat.sub_le _ _) (by decide)

/-- The words of an inverted mask are all ones but those of the set. -/
theorem ofDigits_turned (set : CpuSet) :
    Nat.ofDigits UInt32.size ((set.words set.invertedWordCount).map (UInt32.size - 1 - ·)) =
      2 ^ (32 * set.invertedWordCount) - (set.mask + 1) := by
  have whole := ofDigits_complement (set.words_lt set.invertedWordCount)
  rw [ofDigits_words set.wordCount_le_inverted, length_words] at whole
  have power : UInt32.size ^ set.invertedWordCount = 2 ^ (32 * set.invertedWordCount) := by
    rw [Nat.pow_mul]
  omega

theorem wordsNumber?_invertedMaskList (set : CpuSet) : wordsNumber? set.invertedMaskList =
    some (2 ^ (32 * set.invertedWordCount) - (set.mask + 1)) := by
  have filled : (set.words set.invertedWordCount).map (UInt32.size - 1 - ·) ≠ [] := by
    rw [← List.length_pos_iff_ne_nil, List.length_map, length_words]
    exact lt_max_of_lt_right (by decide)
  rw [invertedMaskList, wordsNumber?_wordTexts filled turned_lt, ofDigits_turned]

theorem mask_lt (covers : set.wordCount ≤ count) : set.mask < 2 ^ (32 * count) := by
  refine bitsOf_lt set.sorted fun cpu member => ?_
  have small := lt_wordCount member
  omega

/-- The ones of an inverted mask are the CPUs outside the set that its words can name. -/
theorem testBit_invertedMaskList (set : CpuSet) : ∃ number,
    wordsNumber? set.invertedMaskList = some number ∧
      ∀ cpu, number.testBit cpu = true ↔ cpu ∉ set ∧ cpu < 32 * set.invertedWordCount := by
  refine ⟨_, wordsNumber?_invertedMaskList set, fun cpu => ?_⟩
  rw [Nat.testBit_two_pow_sub_succ (mask_lt set.wordCount_le_inverted), ← testBit_mask]
  simp [and_comm]

theorem newline_notMem_invertedMaskList (set : CpuSet) : '\n' ∉ set.invertedMaskList.toList := by
  rw [invertedMaskList, toList_join_wordTexts]
  refine notMem_intercalate (by decide) ?_
  rw [wordTexts, List.forall_mem_map]
  exact fun _ _ => notMem_hexadecimal (by decide)

end CpuSet
end NodeTuning
