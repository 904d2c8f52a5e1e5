import Mathlib.Data.List.DropRight
import NodeTuning.Text.Basic

/-!
What the readers of texts read: pieces between separators, the two sides of the first separator,
what is left without the blanks around it, and numbers. Each reader is stated by the texts that it
takes apart.
-/
namespace NodeTuning.Text
variable {separator : Char} {text front back inner : List Char}

theorem pieces_eq_splitOn (separator : Char) (text : List Char) :
    pieces separator text = text.splitOn separator := by
  induction text with
  | nil => rfl
  | cons c rest ih =>
    have step : (c :: rest).splitOn separator = if c = separator then [] :: rest.splitOn separator
        else (rest.splitOn separator).modifyHead (c :: ·) := by
      simp [List.splitOn_eq_splitOnP, List.splitOnP_cons_eq_if_modifyHead]
    rw [pieces, ih, step]
    cases later : rest.splitOn separator with
    | nil => exact absurd later (List.splitOn_ne_nil separator rest)
    | cons piece more => rfl

theorem pieces_intercalate {texts : List (List Char)} (filled : texts ≠ [])
    (free : ∀ text ∈ texts, separator ∉ text) :
    pieces separator (List.intercalate [separator] texts) = texts := by
  rw [pieces_eq_splitOn]
  exact List.splitOn_intercalate separator free filled

theorem notMem_intercalate {c : Char} {texts : List (List Char)} (other : c ≠ separator)
    (free : ∀ text ∈ texts, c ∉ text) : c ∉ List.intercalate [separator] texts := by
  induction texts with
  | nil => simp
  | cons text rest ih =>
    obtain ⟨own, others⟩ := List.forall_mem_cons.1 free
    cases rest with
    | nil => simpa using own
    | cons next more =>
      rw [List.intercalate_cons_cons]
      simp [own, other, ih others]

theorem notMem_join {c : Char} {texts : List String} (other : c ≠ ' ')
    (free : ∀ text ∈ texts, c ∉ text.toList) : c ∉ (join " " texts).toList := by
  have apart : " ".toList = [' '] := rfl
  rw [join, String.toList_intercalate, apart]
  exact notMem_intercalate other (List.forall_mem_map.2 free)

theorem intercalate_nested {α : Type} {separator : List α} {back : List (List α)}
    (filled : back ≠ []) (front : List (List α)) :
    List.intercalate separator (front ++ [List.intercalate separator back]) =
      List.intercalate separator (front ++ back) := by
  induction front with
  | nil => simp
  | cons text front ih =>
    obtain ⟨next, others, same⟩ : ∃ next others, front ++ back = next :: others :=
      List.exists_cons_of_ne_nil (List.append_ne_nil_of_right_ne_nil front filled)
    obtain ⟨last, more, again⟩ : ∃ last more,
        front ++ [List.intercalate separator back] = last :: more :=
      List.exists_cons_of_ne_nil (List.append_ne_nil_of_right_ne_nil front (List.cons_ne_nil _ _))
    rw [same, again] at ih
    rw [List.cons_append, List.cons_append, same, again, List.intercalate_cons_cons,
      List.intercalate_cons_cons, ih]

/-- Texts that are joined already may be joined with others. -/
theorem join_nested {back : List String} (filled : back ≠ [])
    (front : List String) : join " " (front ++ [join " " back]) = join " " (front ++ back) := by
  rw [← String.toList_inj]
  simp only [join, String.toList_intercalate, List.map_append, List.map_cons, List.map_nil]
  exact intercalate_nested (mt List.map_eq_nil_iff.1 filled) _

theorem join_eq_empty_iff_nil {texts : List String} (filled : ∀ text ∈ texts, text ≠ "") :
    join " " texts = "" ↔ texts = [] := by
  constructor
  · intro empty
    cases texts with
    | nil => rfl
    | cons text more =>
      have own := filled text List.mem_cons_self
      have letters := congrArg String.toList empty
      rw [join, String.toList_intercalate] at letters
      cases more with
      | nil => simp [own] at letters
      | cons next more => simp at letters
  · rintro rfl
    rfl

theorem cut_eq_none_iff : cut separator text = none ↔ separator ∉ text := by
  induction text with
  | nil => simp [cut]
  | cons c rest ih =>
    by_cases same : c = separator
    · simp [cut, same]
    · simp [cut, same, ih, Ne.symm same]

theorem cut_append (free : separator ∉ front) (rest : List Char) :
    cut separator (front ++ separator :: rest) = some (front, rest) := by
  induction front with
  | nil => rw [List.nil_append, cut, if_pos rfl]
  | cons c front ih =>
    obtain ⟨different, later⟩ := not_or.1 (mt List.mem_cons.2 free)
    rw [List.cons_append, cut, if_neg (Ne.symm different), ih later]
    rfl

theorem cut_eq_some_iff : cut separator text = some (front, back) ↔
    separator ∉ front ∧ text = front ++ separator :: back := by
  constructor
  · intro found
    induction text generalizing front with
    | nil => cases found
    | cons c rest ih =>
      rw [cut] at found
      split at found
      · rename_i same
        cases found
        simp [same]
      · rename_i different
        obtain ⟨⟨before, after⟩, later, halves⟩ := Option.map_eq_some_iff.1 found
        cases halves
        obtain ⟨free, rfl⟩ := ih later
        simp [Ne.symm different, free]
  · rintro ⟨free, rfl⟩
    exact cut_append free back

/-- `inner` is the text without the blanks at its ends. -/
structure Trims (text inner : List Char) : Prop where
  within : ∃ front back, text = front ++ inner ++ back ∧ (∀ c ∈ front, isBlank c = true) ∧
    ∀ c ∈ back, isBlank c = true
  first : ∀ c rest, inner = c :: rest → isBlank c = false
  last : ∀ rest c, inner = rest ++ [c] → isBlank c = false

theorem trimStart_of_first (first : ∀ c rest, inner = c :: rest → isBlank c = false) :
    trimStart inner = inner := by
  cases inner with
  | nil => rfl
  | cons c rest => simp [trimStart, first c rest rfl]

theorem trimEnd_of_last (last : ∀ rest c, inner = rest ++ [c] → isBlank c = false) :
    trimEnd inner = inner := by
  cases inner using List.reverseRecOn with
  | nil => rfl
  | append_singleton rest c => simp [trimEnd, last rest c rfl]

theorem trim_of_trims (trims : Trims text inner) : trim text = inner := by
  obtain ⟨⟨front, back, rfl, leading, trailing⟩, first, last⟩ := trims
  have start : trimStart (front ++ inner ++ back) = trimStart (inner ++ back) := by
    rw [trimStart, List.append_assoc, List.dropWhile_append_of_pos leading, trimStart]
  cases inner with
  | nil =>
    have empty : back.dropWhile isBlank = [] := List.dropWhile_eq_nil_iff.2 trailing
    rw [trim, start, List.nil_append, trimStart, empty]
    rfl
  | cons c rest =>
    have kept : trimStart (c :: rest ++ back) = c :: rest ++ back := by
      apply trimStart_of_first
      intro other more same
      cases same
      exact first c rest rfl
    have stripped : trimEnd (c :: rest ++ back) = trimEnd (c :: rest) := by
      rw [trimEnd, List.reverse_append, List.dropWhile_append_of_pos, trimEnd]
      simpa using trailing
    rw [trim, start, kept, stripped, trimEnd_of_last last]

theorem trims_trim (text : List Char) : Trims text (trim text) := by
  have leading : text.takeWhile isBlank ++ trimStart text = text :=
    List.takeWhile_append_dropWhile
  have trailing : trim text ++ ((trimStart text).reverse.takeWhile isBlank).reverse =
      trimStart text := by
    rw [trim, trimEnd, ← List.reverse_append, List.takeWhile_append_dropWhile, List.reverse_reverse]
  constructor
  case within =>
    refine ⟨text.takeWhile isBlank, ((trimStart text).reverse.takeWhile isBlank).reverse, ?_,
      fun c member => List.mem_takeWhile_imp member, fun c member => ?_⟩
    · rw [List.append_assoc, trailing, leading]
    · exact List.mem_takeWhile_imp (List.mem_reverse.1 member)
  case first =>
    intro c rest own
    have begins : (text.dropWhile isBlank).head? = some c := by
      change (trimStart text).head? = some c
      rw [← trailing, own]
      rfl
    have stopped := List.head?_dropWhile_not isBlank text
    rwa [begins] at stopped
  case last =>
    intro rest c own
    have ends : ((trimStart text).reverse.dropWhile isBlank).head? = some c := by
      rw [← List.reverse_reverse (List.dropWhile _ _)]
      change (trim text).reverse.head? = some c
      simp [own]
    have stopped := List.head?_dropWhile_not isBlank (trimStart text).reverse
    rwa [ends] at stopped

theorem trim_eq_iff : trim text = inner ↔ Trims text inner :=
  ⟨fun same => same ▸ trims_trim text, trim_of_trims⟩

theorem trims_nil_iff : Trims text [] ↔ ∀ c ∈ text, isBlank c = true := by
  constructor
  · rintro ⟨⟨front, back, rfl, leading, trailing⟩, _, _⟩ c member
    rw [List.append_nil] at member
    exact (List.mem_append.1 member).elim (leading c) (trailing c)
  · intro blank
    exact ⟨⟨text, [], by simp, blank, nofun⟩, nofun, fun rest c same => by simp at same⟩

theorem trims_of_not_blank (inked : ∀ c ∈ text, isBlank c = false) : Trims text text where
  within := ⟨[], [], by simp, nofun, nofun⟩
  first c rest same := inked c (by simp [same])
  last rest c same := inked c (by simp [same])

theorem bounds_of_isDigit {c : Char} (digit : c.isDigit = true) :
    48 ≤ c.toNat ∧ c.toNat ≤ 57 := by
  simpa [Char.isDigit, UInt32.le_iff_toNat_le] using digit

theorem not_blank_of_isDigit {c : Char} (digit : c.isDigit = true) : isBlank c = false := by
  have bounds := bounds_of_isDigit digit
  simp only [isBlank, Bool.or_eq_false_iff, Bool.and_eq_false_imp, decide_eq_true_eq,
    decide_eq_false_iff_not, beq_eq_false_iff_ne]
  omega

/-- ASCII digits, at least one, after an optional plus sign. -/
def Numeral (text : List Char) (value : Nat) : Prop :=
  ∃ digits, (text = digits ∨ text = '+' :: digits) ∧ digits ≠ [] ∧
    (∀ c ∈ digits, c.isDigit = true) ∧ Nat.ofDigitChars 10 digits 0 = value

theorem digits?_eq_some_iff {value : Nat} : digits? text = some value ↔
    text ≠ [] ∧ (∀ c ∈ text, c.isDigit = true) ∧ Nat.ofDigitChars 10 text 0 = value := by
  simp [digits?, and_assoc]

theorem unsigned?_eq_some_iff {limit value : Nat} :
    unsigned? limit text = some value ↔ Numeral text value ∧ value < limit := by
  have plus : ∀ rest, ¬ ∀ c ∈ '+' :: rest, c.isDigit = true := by
    intro rest all
    exact absurd (all '+' List.mem_cons_self) (by decide)
  unfold unsigned?
  dsimp only
  rw [Option.filter_eq_some_iff, decide_eq_true_iff]
  refine and_congr_left fun _ => ?_
  constructor
  · intro read
    split at read
    · exact ⟨_, .inr rfl, digits?_eq_some_iff.1 read⟩
    · exact ⟨_, .inl rfl, digits?_eq_some_iff.1 read⟩
  · rintro ⟨digits, rfl | rfl, filled, all, denoted⟩
    · split
      · exact absurd all (plus _)
      · exact digits?_eq_some_iff.2 ⟨filled, all, denoted⟩
    · exact digits?_eq_some_iff.2 ⟨filled, all, denoted⟩

theorem isDigit_of_mem_decimal {n : Nat} {c : Char} (member : c ∈ decimal n) : c.isDigit = true :=
  Nat.isDigit_of_mem_toDigits (by decide) (by decide) member

theorem notMem_decimal {c : Char} (other : c.isDigit = false) (n : Nat) : c ∉ decimal n := by
  intro member
  rw [isDigit_of_mem_decimal member] at other
  cases other

theorem decimal_inj {first second : Nat} : decimal first = decimal second ↔ first = second := by
  constructor
  · intro same
    have read := congrArg (fun digits => Nat.ofDigitChars 10 digits 0) same
    simpa [decimal] using read
  · rintro rfl
    rfl

theorem trims_decimal (n : Nat) : Trims (decimal n) (decimal n) :=
  trims_of_not_blank fun _ member => not_blank_of_isDigit (isDigit_of_mem_decimal member)

theorem numeral_decimal (n : Nat) : Numeral (decimal n) n :=
  ⟨_, .inl rfl, Nat.toDigits_ne_nil, fun _ => isDigit_of_mem_decimal,
    Nat.ofDigitChars_ten_toDigits⟩

end NodeTuning.Text
