import NodeTuning.CpuSet.Basic
import NodeTuning.Text.Basic

/-!
Bit masks of CPU sets. A set stands for the number in which exactly the bits of its ids are one.
Masks are written as words of 32 bits, eight hexadecimal digits each, with the highest word first.
-/
namespace NodeTuning.CpuSet
open NodeTuning.Text

/-- The sum of the powers of two with the given exponents. -/
def bitsOf : List Nat → Nat
  | [] => 0
  | cpu :: rest => Nat.pow 2 cpu + bitsOf rest

/-- The number whose bits are the ids of the set. -/
def mask (set : CpuSet) : Nat := bitsOf set.ids

/-- The words, lowest first, for the ascending ids from `base` on. -/
def wordsFrom : Nat → Nat → List Nat → List Nat
  | 0, _, _ => []
  | count + 1, base, ids =>
    bitsOf ((ids.takeWhile (· < base + 32)).map (· - base)) ::
      wordsFrom count (base + 32) (ids.dropWhile (· < base + 32))

def words (set : CpuSet) (count : Nat) : List Nat := wordsFrom count 0 set.ids

/-- How many words the mask takes. The empty set takes one. -/
def wordCount (set : CpuSet) : Nat :=
  match set.max? with
  | none => 1
  | some cpu => cpu / 32 + 1

def wordTexts (words : List Nat) : List (List Char) := words.reverse.map (hexadecimal 8)

def hexMask (set : CpuSet) : String :=
  String.ofList (wordTexts (set.words set.wordCount)).flatten

/-- The words of the mask with commas between them. -/
def maskList (set : CpuSet) : String :=
  join "," ((wordTexts (set.words set.wordCount)).map String.ofList)

/-- How many words the mask of the other CPUs takes: at least two. -/
def invertedWordCount (set : CpuSet) : Nat := max set.wordCount 2

/-- The mask of the CPUs outside the set, among as many CPUs as the words can name. -/
def invertedMaskList (set : CpuSet) : String :=
  let outside := (set.words set.invertedWordCount).map (UInt32.size - 1 - ·)
  join "," ((wordTexts outside).map String.ofList)

end NodeTuning.CpuSet
