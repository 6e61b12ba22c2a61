import Mathlib.Algebra.Ring.Nat
import Mathlib.Data.Nat.Bits

namespace ToySystem.Data

/-! Smearing the highest bit of a number downwards.

Shifts by 1, 2, 4 and so on, each or-ed to the number, double the run of ones below
the highest bit, until it reaches down to bit 0.
-/

def smear (k shift : Nat) : Nat := k ||| k >>> shift

/-- `highest` is the highest bit, and so many from there on are set. -/
structure Filled (k highest count : Nat) : Prop where
  above : ∀ bit, highest < bit → k.testBit bit = false
  ones : ∀ bit, bit ≤ highest → highest < bit + count → k.testBit bit = true

theorem filled_log2 {k : Nat} (nonzero : k ≠ 0) : Filled k k.log2 1 where
  above bit higher := by
    have below : k < 2 ^ bit := (Nat.log2_lt nonzero).mp higher
    exact Nat.testBit_lt_two_pow below
  ones bit low high := by
    have same : bit = k.log2 := by omega
    subst bit
    exact Nat.testBit_log2 nonzero

theorem Filled.smear {k highest count : Nat} (filled : Filled k highest count) :
    Filled (Data.smear k count) highest (2 * count) where
  above bit higher := by
    rw [Data.smear, Nat.testBit_or, Nat.testBit_shiftRight, filled.above bit higher,
      filled.above (count + bit) (by omega), Bool.or_false]
  ones bit low high := by
    rw [Data.smear, Nat.testBit_or, Nat.testBit_shiftRight]
    by_cases near : highest < bit + count
    · rw [filled.ones bit low near, Bool.true_or]
    · rw [filled.ones (count + bit) (by omega) (by omega), Bool.or_true]

theorem Filled.eq {k highest count : Nat} (filled : Filled k highest count)
    (enough : highest < count) : k = 2 ^ (highest + 1) - 1 := by
  refine Nat.eq_of_testBit_eq ?_
  intro bit
  rw [Nat.testBit_two_pow_sub_one]
  by_cases low : bit ≤ highest
  · rw [filled.ones bit low (by omega), decide_eq_true (by omega)]
  · rw [filled.above bit (by omega), decide_eq_false (by omega)]

/-- So many doublings, from a shift by 1 on. -/
def smears (k : Nat) : Nat → Nat
  | 0 => k
  | count + 1 => smear (smears k count) (2 ^ count)

theorem filled_smears {k : Nat} (nonzero : k ≠ 0) (count : Nat) :
    Filled (smears k count) k.log2 (2 ^ count) := by
  induction count with
  | zero => exact filled_log2 nonzero
  | succ count ih =>
      rw [Nat.pow_succ, Nat.mul_comm]
      exact ih.smear

/-- Behind the number smeared there is the next power of two. -/
theorem smears_pred {k count : Nat} (positive : 0 < k) (fits : k ≤ 2 ^ 2 ^ count) :
    ∃ exponent, smears (k - 1) count + 1 = 2 ^ exponent ∧ k ≤ 2 ^ exponent ∧
      2 ^ exponent < 2 * k := by
  by_cases one : k - 1 = 0
  · refine ⟨0, ?_, by omega, by omega⟩
    have zeros : ∀ count, smears 0 count = 0 := by
      intro count
      induction count with
      | zero => rfl
      | succ count ih => rw [smears, ih, smear, Nat.zero_shiftRight, Nat.zero_or]
    rw [one, zeros]
    rfl
  · have low : 2 ^ (k - 1).log2 ≤ k - 1 := Nat.log2_self_le one
    have high : k - 1 < 2 ^ ((k - 1).log2 + 1) := Nat.lt_log2_self
    have short : (k - 1).log2 < 2 ^ count := (Nat.log2_lt one).mpr (by omega)
    have whole := (filled_smears one count).eq short
    refine ⟨(k - 1).log2 + 1, ?_, by omega, ?_⟩
    · have two : 0 < 2 ^ ((k - 1).log2 + 1) := Nat.two_pow_pos _
      omega
    · rw [Nat.pow_succ]
      omega

end ToySystem.Data
