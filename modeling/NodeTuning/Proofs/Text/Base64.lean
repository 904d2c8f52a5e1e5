import NodeTuning.Proofs.Text.Digits
import NodeTuning.Text.Base64

/-!
Texts in Base64. Main statements: the digits spell the bits of the bytes in sixes, each group of
digits gives the bytes that it was written for, and the bytes of a text give the text.
-/
namespace NodeTuning.Text.Base64

/-- The characters for the values from 0 to 63. -/
def alphabet : List Char := "ABCDEFGHIJKLMNOPQRSTUVWXYZabcdefghijklmnopqrstuvwxyz0123456789+/".toList

/-- The digits are a body from the alphabet and padding that fills the last group of four. The body
spells the bits of the bytes, six in each character, and zeros fill the last one. -/
structure Spells (digits : List Char) (bytes : List UInt8) (body : List Char) (padding : Nat) :
    Prop where
  padded : digits = body ++ List.replicate padding '='
  short : padding ≤ 2
  whole : digits.length % 4 = 0
  listed : ∀ c ∈ body, c ∈ alphabet
  bits : body.flatMap (fun c => lastDigits 2 6 (alphabet.idxOf c)) =
    bytes.flatMap (fun byte => lastDigits 2 8 byte.toNat) ++ List.replicate (2 * padding) '0'

theorem digit_mem_alphabet {n : Nat} (small : n < 64) : digit n ∈ alphabet := by
  have all : ∀ n ∈ List.range 64, digit n ∈ alphabet := by decide +kernel
  exact all n (List.mem_range.2 small)

theorem idxOf_digit {n : Nat} (small : n < 64) : alphabet.idxOf (digit n) = n := by
  have all : ∀ n ∈ List.range 64, alphabet.idxOf (digit n) = n := by decide +kernel
  exact all n (List.mem_range.2 small)

/-- The bits of a group of three bytes are those of four values below 64. -/
theorem bits_regrouped (n : Nat) :
    lastDigits 2 6 (n / 262144 % 64) ++ (lastDigits 2 6 (n / 4096 % 64) ++
      (lastDigits 2 6 (n / 64 % 64) ++ lastDigits 2 6 (n % 64))) =
    lastDigits 2 8 (n / 65536 % 256) ++ (lastDigits 2 8 (n / 256 % 256) ++
      lastDigits 2 8 (n % 256)) := by
  have sixes : ∀ m, lastDigits 2 6 (m % 64) = lastDigits 2 6 m :=
    fun m => lastDigits_congr (Nat.mod_mod m 64)
  have eights : ∀ m, lastDigits 2 8 (m % 256) = lastDigits 2 8 m :=
    fun m => lastDigits_congr (Nat.mod_mod m 256)
  simp only [sixes, eights]
  have four : lastDigits 2 24 n = lastDigits 2 6 (n / 262144) ++ (lastDigits 2 6 (n / 4096) ++
      (lastDigits 2 6 (n / 64) ++ lastDigits 2 6 n)) := by
    rw [lastDigits_add 2 6 18, lastDigits_add 2 6 12, lastDigits_add 2 6 6]
    rfl
  have three : lastDigits 2 24 n = lastDigits 2 8 (n / 65536) ++ (lastDigits 2 8 (n / 256) ++
      lastDigits 2 8 n) := by
    rw [lastDigits_add 2 8 16, lastDigits_add 2 8 8]
    rfl
  exact four.symm.trans three

theorem spells_encode (bytes : List UInt8) :
    ∃ body padding, Spells (encode bytes) bytes body padding := by
  fun_induction encode bytes with
  | case1 => exact ⟨[], 0, rfl, by decide, rfl, nofun, rfl⟩
  | case2 a n =>
    have byte := a.toNat_lt
    refine ⟨[digit (n / 4), digit (n % 4 * 16)], 2, rfl, by decide, by simp, ?_, ?_⟩
    · rw [List.forall_mem_cons, List.forall_mem_singleton]
      exact ⟨digit_mem_alphabet (by omega), digit_mem_alphabet (by omega)⟩
    · simp only [List.flatMap_cons, List.flatMap_nil, List.append_nil,
        idxOf_digit (show n / 4 < 64 by omega), idxOf_digit (show n % 4 * 16 < 64 by omega)]
      -- Two zero bytes complete the group.
      have group := bits_regrouped (n * 65536)
      rw [show n * 65536 / 262144 % 64 = n / 4 by omega,
        show n * 65536 / 4096 % 64 = n % 4 * 16 by omega, show n * 65536 / 64 % 64 = 0 by omega,
        show n * 65536 % 64 = 0 by omega, show n * 65536 / 65536 % 256 = a.toNat by omega,
        show n * 65536 / 256 % 256 = 0 by omega, show n * 65536 % 256 = 0 by omega] at group
      refine (List.append_left_inj (List.replicate 12 '0')).1 ?_
      rw [List.append_assoc, List.append_assoc]
      exact group
  | case3 a b n =>
    have bound := a.toNat_lt
    have byte := b.toNat_lt
    refine ⟨[digit (n / 1024), digit (n / 16 % 64), digit (n % 16 * 4)], 1, rfl, by decide,
      by simp, ?_, ?_⟩
    · rw [List.forall_mem_cons, List.forall_mem_cons, List.forall_mem_singleton]
      exact ⟨digit_mem_alphabet (by omega), digit_mem_alphabet (by omega),
        digit_mem_alphabet (by omega)⟩
    · simp only [List.flatMap_cons, List.flatMap_nil, List.append_nil,
        idxOf_digit (show n / 1024 < 64 by omega), idxOf_digit (show n / 16 % 64 < 64 by omega),
        idxOf_digit (show n % 16 * 4 < 64 by omega)]
      have group := bits_regrouped (n * 256)
      rw [show n * 256 / 262144 % 64 = n / 1024 by omega,
        show n * 256 / 4096 % 64 = n / 16 % 64 by omega,
        show n * 256 / 64 % 64 = n % 16 * 4 by omega, show n * 256 % 64 = 0 by omega,
        show n * 256 / 65536 % 256 = a.toNat by omega,
        show n * 256 / 256 % 256 = b.toNat by omega, show n * 256 % 256 = 0 by omega] at group
      refine (List.append_left_inj (List.replicate 6 '0')).1 ?_
      simp only [List.append_assoc]
      exact group
  | case4 a b c rest n ih =>
    have first := a.toNat_lt
    have second := b.toNat_lt
    have third := c.toNat_lt
    obtain ⟨body, padding, spells⟩ := ih
    refine ⟨digit (n / 262144) :: digit (n / 4096 % 64) :: digit (n / 64 % 64) ::
      digit (n % 64) :: body, padding, ?_, spells.short, ?_, ?_, ?_⟩
    · rw [spells.padded]
      rfl
    · have whole := spells.whole
      simp only [List.length_cons]
      omega
    · simp only [List.forall_mem_cons]
      exact ⟨digit_mem_alphabet (by omega), digit_mem_alphabet (by omega),
        digit_mem_alphabet (by omega), digit_mem_alphabet (by omega), spells.listed⟩
    · simp only [List.flatMap_cons, spells.bits, idxOf_digit (show n / 262144 < 64 by omega),
        idxOf_digit (show n / 4096 % 64 < 64 by omega),
        idxOf_digit (show n / 64 % 64 < 64 by omega), idxOf_digit (show n % 64 < 64 by omega)]
      have group := bits_regrouped n
      rw [show n / 262144 % 64 = n / 262144 by omega, show n / 65536 % 256 = a.toNat by omega,
        show n / 256 % 256 = b.toNat by omega, show n % 256 = c.toNat by omega] at group
      simpa only [List.append_assoc] using congrArg
        (· ++ (rest.flatMap (fun byte => lastDigits 2 8 byte.toNat) ++
          List.replicate (2 * padding) '0')) group

theorem value?_digit {n : Nat} (small : n < 64) : value? (digit n) = some n := by
  have all : ∀ n ∈ List.range 64, value? (digit n) = some n := by decide
  exact all n (List.mem_range.2 small)

theorem digit_ne_padding {n : Nat} (small : n < 64) : digit n ≠ '=' := by
  intro same
  have value := value?_digit small
  rw [same] at value
  cases value

theorem decode?_encode (bytes : List UInt8) : decode? (encode bytes) = some bytes := by
  fun_induction encode bytes with
  | case1 => rfl
  | case2 a n =>
    have byte := a.toNat_lt
    simp only [decode?, value?_digit (show n / 4 < 64 by omega),
      value?_digit (show n % 4 * 16 < 64 by omega), Option.bind_eq_bind, Option.bind_some]
    rw [if_pos (by omega), show n / 4 * 4 + n % 4 * 16 / 16 = a.toNat by omega, UInt8.ofNat_toNat]
  | case3 a b n =>
    have first : UInt8.ofNat (n / 256) = a := by
      rw [show n / 256 = a.toNat by have := b.toNat_lt; omega, UInt8.ofNat_toNat]
    have second : UInt8.ofNat (n % 256) = b := by
      rw [show n % 256 = b.toNat by have := b.toNat_lt; omega, UInt8.ofNat_toNat]
    have bound : n < 65536 := by
      have := a.toNat_lt
      have := b.toNat_lt
      omega
    clear_value n
    rw [decode?]
    · simp only [value?_digit (show n / 1024 < 64 by omega),
        value?_digit (show n / 16 % 64 < 64 by omega),
        value?_digit (show n % 16 * 4 < 64 by omega), Option.bind_eq_bind, Option.bind_some]
      have whole : (n / 1024 * 4096 + n / 16 % 64 * 64 + n % 16 * 4) / 4 = n := by omega
      rw [if_pos (by omega), whole, first, second]
    · exact digit_ne_padding (by omega)
  | case4 a b c rest n ih =>
    have first : UInt8.ofNat (n / 65536) = a := by
      rw [show n / 65536 = a.toNat by have := b.toNat_lt; have := c.toNat_lt; omega,
        UInt8.ofNat_toNat]
    have second : UInt8.ofNat (n / 256 % 256) = b := by
      rw [show n / 256 % 256 = b.toNat by have := b.toNat_lt; have := c.toNat_lt; omega,
        UInt8.ofNat_toNat]
    have third : UInt8.ofNat (n % 256) = c := by
      rw [show n % 256 = c.toNat by have := c.toNat_lt; omega, UInt8.ofNat_toNat]
    have bound : n < 16777216 := by
      have := a.toNat_lt
      have := b.toNat_lt
      have := c.toNat_lt
      omega
    clear_value n
    have last : digit (n % 64) ≠ '=' := digit_ne_padding (by omega)
    rw [decode?]
    · simp only [value?_digit (show n / 262144 < 64 by omega),
        value?_digit (show n / 4096 % 64 < 64 by omega),
        value?_digit (show n / 64 % 64 < 64 by omega), value?_digit (show n % 64 < 64 by omega),
        ih, Option.bind_eq_bind, Option.bind_some]
      have whole : n / 262144 * 262144 + n / 4096 % 64 * 4096 + n / 64 % 64 * 64 + n % 64 = n := by
        omega
      rw [whole, first, second, third]
    · exact fun _ padding => absurd padding last
    · exact fun padding => absurd padding last

/-- The bytes of a text are those of its characters in UTF-8, one after the other. -/
theorem bytes_eq_flatMap (text : String) :
    bytes text = text.toList.flatMap String.utf8EncodeChar := by
  change text.toByteArray.data.toList = _
  rw [← String.utf8Encode_toList, List.utf8Encode]
  simp

/-- The text whose bytes some digits hold. -/
def text? (digits : List Char) : Option String :=
  (decode? digits).bind fun bytes => String.fromUTF8? ⟨bytes.toArray⟩

theorem text?_encode (text : String) : text? (encode (bytes text)) = some text := by
  have valid : text.toByteArray.IsValidUTF8 := text.isValidUTF8
  rw [text?, decode?_encode, Option.bind_some, bytes, Array.toArray_toList]
  change String.fromUTF8? text.toByteArray = some text
  rw [String.fromUTF8?, dif_pos valid]
  rfl

end NodeTuning.Text.Base64
