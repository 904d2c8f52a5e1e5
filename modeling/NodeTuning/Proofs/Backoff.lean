import Mathlib.Algebra.Ring.Nat
import Mathlib.Data.List.Induction
import NodeTuning.Backoff

/-!
Delays in closed form. Main statement: the next delay is the least one, doubled for each delay that
was given out since the last reset, up to the cap.
-/
namespace NodeTuning

inductive BackoffCall where
  | next
  | reset
  deriving DecidableEq

namespace Backoff

variable {least most : UInt64}

def take (backoff : Backoff) : BackoffCall → Backoff
  | .next => backoff.next.2
  | .reset => backoff.reset

def takeAll (backoff : Backoff) (calls : List BackoffCall) : Backoff := calls.foldl take backoff

/-- How many delays were given out since the last reset. -/
def takenSince (calls : List BackoffCall) : Nat := (calls.reverse.takeWhile (· = .next)).length

/-- What is left of a sequence after the first delays of it. -/
def advanced (backoff : Backoff) : Nat → Backoff
  | 0 => backoff
  | count + 1 => (backoff.advanced count).next.2

theorem toNat_min (first second : UInt64) :
    (min first second).toNat = min first.toNat second.toNat := by
  change (if first ≤ second then first else second).toNat = _
  split
  · rename_i below
    exact (Nat.min_eq_left (UInt64.le_iff_toNat_le.1 below)).symm
  · rename_i above
    rw [UInt64.le_iff_toNat_le] at above
    omega

theorem toNat_max (first second : UInt64) :
    (max first second).toNat = max first.toNat second.toNat := by
  change (if first ≤ second then second else first).toNat = _
  split
  · rename_i below
    exact (Nat.max_eq_right (UInt64.le_iff_toNat_le.1 below)).symm
  · rename_i above
    rw [UInt64.le_iff_toNat_le] at above
    omega

theorem toNat_double (delay : UInt64) :
    (double delay).toNat = min (2 * delay.toNat) (UInt64.size - 1) := by
  rw [double]
  split
  · rename_i fits
    rw [UInt64.toNat_mul, UInt64.toNat_ofNat, Nat.mod_eq_of_lt (by simpa using fits)]
    exact (Nat.min_eq_left (Nat.le_sub_one_of_lt fits)).symm
  · rename_i large
    have largest : (UInt64.ofNat (UInt64.size - 1)).toNat = UInt64.size - 1 := by decide
    rw [largest]
    exact (Nat.min_eq_right (Nat.le_trans (Nat.sub_le _ 1) (Nat.not_lt.1 large))).symm

/-- Doubling stops at the largest word, which no cap exceeds. -/
theorem toNat_min_double (delay most : UInt64) :
    (min (double delay) most).toNat = min (2 * delay.toNat) most.toNat := by
  have capped : most.toNat ≤ UInt64.size - 1 := Nat.le_sub_one_of_lt most.toNat_lt
  rw [toNat_min, toNat_double, Nat.min_assoc, Nat.min_eq_right capped]

theorem advanced_frame (backoff : Backoff) (count : Nat) :
    (backoff.advanced count).least = backoff.least ∧ (backoff.advanced count).most = backoff.most := by
  induction count with
  | zero => exact ⟨rfl, rfl⟩
  | succ count ih => exact ih

theorem reset_advanced_create (count : Nat) :
    ((create least most).advanced count).reset = create least most := by
  obtain ⟨sameLeast, sameMost⟩ := advanced_frame (create least most) count
  simp only [reset, sameLeast, sameMost]
  cases reached : (create least most).advanced count with
  | mk own current cap =>
    rw [reached] at sameLeast sameMost
    cases sameLeast
    cases sameMost
    rfl

theorem toNat_current_advanced (least most : UInt64) (count : Nat) :
    ((create least most).advanced count).current.toNat =
      min ((max least 1).toNat * 2 ^ count) most.toNat := by
  induction count with
  | zero => simp [advanced, create, toNat_min]
  | succ count ih =>
    have cap := (advanced_frame (create least most) count).2
    change (min (double ((create least most).advanced count).current)
      ((create least most).advanced count).most).toNat = _
    rw [cap, toNat_min_double, ih]
    change min (2 * min _ most.toNat) most.toNat = _
    rw [Nat.pow_succ, ← Nat.mul_assoc]
    omega

theorem takenSince_append_replicate (calls : List BackoffCall) (more : Nat) :
    takenSince (calls ++ List.replicate more .next) = takenSince calls + more := by
  simp only [takenSince, List.reverse_append, List.reverse_replicate]
  rw [List.takeWhile_append_of_pos fun call member => by simp [List.eq_of_mem_replicate member],
    List.length_append, List.length_replicate, Nat.add_comm]

theorem takeAll_append (backoff : Backoff) (earlier later : List BackoffCall) :
    backoff.takeAll (earlier ++ later) = (backoff.takeAll earlier).takeAll later :=
  List.foldl_append

theorem takeAll_create (calls : List BackoffCall) :
    (create least most).takeAll calls = (create least most).advanced (takenSince calls) := by
  induction calls using List.reverseRecOn with
  | nil => rfl
  | append_singleton earlier call ih =>
    rw [takeAll_append, ih]
    cases call with
    | next =>
      rw [show [BackoffCall.next] = List.replicate 1 .next from rfl, takenSince_append_replicate]
      rfl
    | reset =>
      have restarted : takenSince (earlier ++ [.reset]) = 0 := by simp [takenSince]
      rw [restarted]
      exact reset_advanced_create (takenSince earlier)

theorem toNat_next_takeAll (least most : UInt64) (calls : List BackoffCall) :
    ((create least most).takeAll calls).next.1.toNat =
      min (max least.toNat 1 * 2 ^ takenSince calls) most.toNat := by
  rw [takeAll_create, next, toNat_current_advanced, toNat_max]
  rfl

/-- Whatever delays were given out and whenever they were reset: the next delay is the least one,
at least a second, doubled for each delay since the last reset, up to the cap, in numbers without
bound. So delays stay below the cap, never fall between resets, are at the cap after 64 of them, and
are doubled without overflow. -/
theorem delays_double_up_to_cap (least most : UInt64) (calls : List BackoffCall) :
    let delay := fun calls => ((create least most).takeAll calls).next.1
    (delay calls).toNat = min (max least.toNat 1 * 2 ^ takenSince calls) most.toNat ∧
    delay calls ≤ most ∧
    (∀ more, delay calls ≤ delay (calls ++ List.replicate more .next)) ∧
    (∀ more, delay (calls ++ List.replicate (64 + more) .next) = most) ∧
    (double (delay calls)).toNat = min (2 * (delay calls).toNat) (2 ^ 64 - 1) := by
  intro delay
  have value : ∀ calls, (delay calls).toNat =
      min (max least.toNat 1 * 2 ^ takenSince calls) most.toNat :=
    toNat_next_takeAll least most
  refine ⟨value calls, ?_, fun more => ?_, fun more => ?_, toNat_double _⟩
  · rw [UInt64.le_iff_toNat_le, value]
    exact Nat.min_le_right _ _
  · rw [UInt64.le_iff_toNat_le, value, value, takenSince_append_replicate, Nat.pow_add,
      ← Nat.mul_assoc]
    have grown := Nat.le_mul_of_pos_right (max least.toNat 1 * 2 ^ takenSince calls)
      (Nat.two_pow_pos more)
    omega
  · rw [← UInt64.toNat_inj, value, takenSince_append_replicate]
    apply Nat.min_eq_right
    calc most.toNat ≤ 2 ^ 64 := Nat.le_of_lt most.toNat_lt
      _ ≤ 2 ^ (takenSince calls + (64 + more)) := Nat.pow_le_pow_right (by decide) (by omega)
      _ ≤ max least.toNat 1 * 2 ^ (takenSince calls + (64 + more)) :=
        Nat.le_mul_of_pos_left _ (by omega)

end Backoff
end NodeTuning
