import NodeTuning.Proofs.Text.Reading
import Mathlib.Algebra.Ring.Nat

/-!
Numbers written with a fixed count of digits. Main statements: the last digits of a number are that
many, they are those of its parts one after the other, and the number is read back from them where
it fits.
-/
namespace NodeTuning.Text
variable {width n : Nat}

@[simp] theorem length_lastDigits (base width n : Nat) :
    (lastDigits base width n).length = width := by
  induction width generalizing n with
  | zero => rfl
  | succ width ih => simp [lastDigits, ih]

theorem lastDigits_congr {base first second : Nat}
    (same : first % base ^ width = second % base ^ width) :
    lastDigits base width first = lastDigits base width second := by
  induction width generalizing first second with
  | zero => rfl
  | succ width ih =>
    rw [Nat.pow_succ'] at same
    have front : first / base % base ^ width = second / base % base ^ width := by
      rw [← Nat.mod_mul_right_div_self, same, Nat.mod_mul_right_div_self]
    have last : first % base = second % base := by
      rw [← Nat.mod_mul_right_mod first base (base ^ width), same, Nat.mod_mul_right_mod]
    rw [lastDigits, lastDigits, ih front, last]

theorem lastDigits_add (base front back n : Nat) : lastDigits base (front + back) n =
    lastDigits base front (n / base ^ back) ++ lastDigits base back n := by
  induction back generalizing n with
  | zero => simp [lastDigits]
  | succ back ih =>
    rw [← Nat.add_assoc, lastDigits, ih, lastDigits, List.append_assoc, Nat.div_div_eq_div_mul,
      Nat.pow_succ']

@[simp] theorem length_padded (width n : Nat) : (padded width n).length = width :=
  length_lastDigits 10 width n

theorem isDigit_of_mem_padded {c : Char} (member : c ∈ padded width n) : c.isDigit = true := by
  induction width generalizing n with
  | zero => cases member
  | succ width ih =>
    rcases List.mem_append.1 member with earlier | last
    · exact ih earlier
    · rw [List.mem_singleton.1 last, Nat.isDigit_digitChar]
      exact decide_eq_true (Nat.mod_lt n (by decide))

theorem padded_ne_nil (positive : 0 < width) : padded width n ≠ [] := by
  intro empty
  have size := length_padded width n
  rw [empty] at size
  simp at size
  omega

theorem ofDigitChars_padded (fits : n < 10 ^ width) :
    Nat.ofDigitChars 10 (padded width n) 0 = n := by
  induction width generalizing n with
  | zero => simp [padded, lastDigits, Nat.lt_one_iff.1 fits]
  | succ width ih =>
    have front : Nat.ofDigitChars 10 (padded width (n / 10)) 0 = n / 10 :=
      ih (Nat.div_lt_of_lt_mul (by rwa [Nat.pow_succ, Nat.mul_comm] at fits))
    have last := Nat.mod_lt n (show 0 < 10 by decide)
    change Nat.ofDigitChars 10 (padded width (n / 10) ++ [Nat.digitChar (n % 10)]) 0 = n
    rw [Nat.ofDigitChars_append, front, Nat.ofDigitChars_cons_digitChar_of_lt_ten last,
      Nat.ofDigitChars_nil]
    omega

theorem ofDigitChars_lt {digits : List Char} (numeric : ∀ c ∈ digits, c.isDigit = true) :
    Nat.ofDigitChars 10 digits 0 < 10 ^ digits.length := by
  induction digits using List.reverseRecOn with
  | nil => simp
  | append_singleton front last ih =>
    have before := ih fun c member => numeric c (List.mem_append_left _ member)
    have bounds := bounds_of_isDigit (numeric last (by simp))
    rw [Nat.ofDigitChars_append, Nat.ofDigitChars_cons, Nat.ofDigitChars_nil, List.length_append,
      List.length_singleton, Nat.pow_succ, show '0'.toNat = 48 from rfl]
    omega

end NodeTuning.Text
