import Mathlib.Tactic.IntervalCases
import ToySystem.Data.Smear

namespace ToySystem.Heap

open ToySystem.Data

/-! # The size classes of the xallocator

`nexthigher` and the first half of `xallocator_get_allocator` of
`engine/xallocator.cpp`, with a `size_t` of 64 bits.
-/

/-- `sizeof(Allocator*)` -/
def sizeofPointer : UInt64 := 8

/-- The values of `i` are those below `sizeof(size_t) * CHAR_BIT`. -/
def nexthigher (k : UInt64) : UInt64 :=
  ([1, 2, 4, 8, 16, 32] : List UInt64).foldl (fun k i => k ||| k >>> i) (k - 1) + 1

/-- The block size that serves a request: its allocator's. -/
def blockSizeFor (size : UInt64) : UInt64 :=
  let blockSize := size + sizeofPointer
  if blockSize > 256 ∧ blockSize ≤ 396 then 396
  else if blockSize > 512 ∧ blockSize ≤ 768 then 768
  else nexthigher blockSize

/-- The block sizes for requests of at most 32760 bytes. -/
def commonSizes : List UInt64 :=
  [8, 16, 32, 64, 128, 256, 396, 512, 768, 1024, 2048, 4096, 8192, 16384, 32768]

theorem nexthigher_toNat (k : UInt64) :
    (nexthigher k).toNat = (smears (k - 1).toNat 6 + 1) % 2 ^ 64 := by
  have shifted (k i : UInt64) (small : i.toNat < 64) :
      (k ||| k >>> i).toNat = smear k.toNat i.toNat := by
    rw [UInt64.toNat_or, UInt64.toNat_shiftRight, Nat.mod_eq_of_lt small, smear]
  simp only [nexthigher, List.foldl_cons, List.foldl_nil, UInt64.toNat_add]
  rw [shifted _ 32 (by decide), shifted _ 16 (by decide), shifted _ 8 (by decide),
    shifted _ 4 (by decide), shifted _ 2 (by decide), shifted _ 1 (by decide)]
  rfl

/-- Up to 2^63 it is the next power of two, for zero and above 2^63 zero. -/
theorem nexthigher_spec {k : UInt64} (positive : 0 < k.toNat) (fits : k.toNat ≤ 2 ^ 63) :
    ∃ exponent, (nexthigher k).toNat = 2 ^ exponent ∧ k.toNat ≤ 2 ^ exponent ∧
      2 ^ exponent < 2 * k.toNat := by
  have pred : (k - 1).toNat = k.toNat - 1 := by
    have one : (1 : UInt64) ≤ k := UInt64.le_iff_toNat_le.mpr positive
    rw [UInt64.toNat_sub_of_le _ _ one]
    rfl
  obtain ⟨exponent, whole, room, waste⟩ :=
    @smears_pred k.toNat 6 positive (Nat.le_trans fits (by decide))
  refine ⟨exponent, ?_, room, waste⟩
  rw [nexthigher_toNat, pred, whole]
  exact Nat.mod_eq_of_lt (by omega)

theorem nexthigher_high {k : UInt64} (high : 2 ^ 63 < k.toNat) : nexthigher k = 0 := by
  have below := k.toNat_lt
  have pred : (k - 1).toNat = k.toNat - 1 := by
    have one : (1 : UInt64) ≤ k := UInt64.le_iff_toNat_le.mpr (show 1 ≤ k.toNat by omega)
    rw [UInt64.toNat_sub_of_le _ _ one]
    rfl
  have nonzero : k.toNat - 1 ≠ 0 := by omega
  have short : (k.toNat - 1).log2 < 64 := (Nat.log2_lt nonzero).mpr (by omega)
  have long : 63 ≤ (k.toNat - 1).log2 := (Nat.le_log2 nonzero).mpr (by omega)
  have highest : (k.toNat - 1).log2 = 63 := by omega
  have whole := (filled_smears nonzero 6).eq (Nat.lt_of_lt_of_le short (by decide))
  rw [highest] at whole
  refine UInt64.toNat_inj.mp ?_
  rw [nexthigher_toNat, pred, whole]
  rfl

theorem add_header {size : UInt64} (small : size.toNat + 8 < 2 ^ 64) :
    (size + sizeofPointer).toNat = size.toNat + 8 := by
  rw [UInt64.toNat_add]
  exact Nat.mod_eq_of_lt small

/-- The block of a request has room for it and the pointer before it, and not twice that. -/
theorem blockSizeFor_room {size : UInt64} (small : size.toNat + 8 ≤ 2 ^ 63) :
    size.toNat + 8 ≤ (blockSizeFor size).toNat ∧
      (blockSizeFor size).toNat < 2 * (size.toNat + 8) := by
  have whole := add_header (Nat.lt_of_le_of_lt small (by decide))
  unfold blockSizeFor
  simp only
  split
  · rename_i class396
    obtain ⟨low, high⟩ := class396
    have lower := UInt64.lt_iff_toNat_lt.mp low
    have upper := UInt64.le_iff_toNat_le.mp high
    rw [whole] at lower upper
    simp only [UInt64.reduceToNat] at *
    omega
  · split
    · rename_i class768
      obtain ⟨low, high⟩ := class768
      have lower := UInt64.lt_iff_toNat_lt.mp low
      have upper := UInt64.le_iff_toNat_le.mp high
      rw [whole] at lower upper
      simp only [UInt64.reduceToNat] at *
      omega
    · have positive : 0 < (size + sizeofPointer).toNat := by omega
      obtain ⟨exponent, power, room, waste⟩ := nexthigher_spec positive (by omega)
      rw [power]
      omega

theorem blockSizeFor_common {size : UInt64} (few : size ≤ 32760) :
    blockSizeFor size ∈ commonSizes := by
  have bound : size.toNat ≤ 32760 := UInt64.le_iff_toNat_le.mp few
  have whole := @add_header size (by omega)
  unfold blockSizeFor
  simp only
  split
  · decide
  · split
    · decide
    · obtain ⟨exponent, power, room, waste⟩ :=
        @nexthigher_spec (size + sizeofPointer) (by omega) (by omega)
      have low : 2 < exponent := (Nat.pow_lt_pow_iff_right (show 1 < 2 by decide)).mp (by omega)
      have high : exponent < 16 := (Nat.pow_lt_pow_iff_right (show 1 < 2 by decide)).mp (by omega)
      have value : nexthigher (size + sizeofPointer) = UInt64.ofNat (2 ^ exponent) := by
        rw [← power, UInt64.ofNat_toNat]
      rw [value]
      interval_cases exponent <;> decide

/-- Above that, the sum still fits a `size_t`, but no power of two above it does. -/
theorem blockSizeFor_large {size : UInt64} (large : 2 ^ 63 < size.toNat + 8)
    (small : size.toNat + 8 < 2 ^ 64) : blockSizeFor size = 0 := by
  have whole := add_header small
  have above : ∀ limit : UInt64, limit.toNat ≤ 2 ^ 63 → ¬ size + sizeofPointer ≤ limit := by
    intro limit low within
    have upper := UInt64.le_iff_toNat_le.mp within
    omega
  rw [blockSizeFor, if_neg fun between => above 396 (by decide) between.2,
    if_neg fun between => above 768 (by decide) between.2]
  exact nexthigher_high (by omega)

/-- Where the sum wraps around, the block size is one for the little that is left of it. -/
theorem blockSizeFor_wrapped {size : UInt64} (wrapped : 2 ^ 64 ≤ size.toNat + 8) :
    blockSizeFor size ≤ 8 := by
  have below := size.toNat_lt
  have few : (size + sizeofPointer).toNat < 8 := by
    rw [UInt64.toNat_add]
    have header : sizeofPointer.toNat = 8 := rfl
    omega
  unfold blockSizeFor
  generalize size + sizeofPointer = sum at few
  obtain ⟨left, rfl⟩ : ∃ left, sum = UInt64.ofNat left := ⟨sum.toNat, UInt64.ofNat_toNat.symm⟩
  have little : left % 2 ^ 64 < 8 := by
    rw [UInt64.toNat_ofNat'] at few
    exact few
  have same : UInt64.ofNat left = UInt64.ofNat (left % 2 ^ 64) := by
    refine UInt64.toNat_inj.mp ?_
    rw [UInt64.toNat_ofNat', UInt64.toNat_ofNat', Nat.mod_mod]
  rw [same]
  generalize left % 2 ^ 64 = rest at little
  interval_cases rest <;> decide

end ToySystem.Heap
