import Mathlib.Data.List.Basic
import ToySystem.Data.Regions

namespace ToySystem.Data

/-! The objects of a program on a heap, as the C standard describes them.

An object is where it lies and what the program knows of its bytes: `none` is a byte
that was never written.
-/

structure Object where
  pointer : Nat
  bytes : List (Option UInt8)
deriving DecidableEq, Repr

namespace Object

variable {object : Object} {before after : Memory}

def region (object : Object) : Region := ⟨object.pointer, object.bytes.length⟩

/-- The memory has all bytes that the program knows. -/
def Holds (memory : Memory) (object : Object) : Prop :=
  ∀ index byte, object.bytes[index]? = some (some byte) → memory (object.pointer + index) = byte

/-- `malloc`: no byte of it is known. -/
def fresh (pointer size : Nat) : Object := ⟨pointer, List.replicate size none⟩

/-- `realloc`: the bytes up to the lesser of the two sizes are those of the old object. -/
def resized (pointer size : Nat) (object : Object) : Object :=
  ⟨pointer, object.bytes.take size ++ List.replicate (size - object.bytes.length) none⟩

def written (offset : Nat) (bytes : List UInt8) (object : Object) : Object :=
  { object with bytes := object.bytes.mapIdx fun index known =>
      if offset ≤ index then bytes[index - offset]?.or known else known }

@[simp] theorem fresh_region (pointer size : Nat) : (fresh pointer size).region = ⟨pointer, size⟩ := by
  rw [region, fresh, List.length_replicate]

@[simp] theorem resized_region (pointer size : Nat) (object : Object) :
    (resized pointer size object).region = ⟨pointer, size⟩ := by
  have length : (resized pointer size object).bytes.length = size := by
    simp only [resized, List.length_append, List.length_take, List.length_replicate]
    omega
  rw [region, length]
  rfl

@[simp] theorem written_region (offset : Nat) (bytes : List UInt8) (object : Object) :
    (object.written offset bytes).region = object.region := by
  rw [region, written, List.length_mapIdx, region]

theorem fresh_holds (memory : Memory) (pointer size : Nat) : (fresh pointer size).Holds memory := by
  intro index byte known
  have unknown := (List.mem_replicate.mp (List.mem_of_getElem? known)).2
  cases unknown

/-- Writes elsewhere leave an object alone. -/
theorem Holds.frame {region : Region} (holds : object.Holds before)
    (same : before.SameOutside region after) (apart : object.region.Apart region) :
    object.Holds after := by
  intro index byte known
  obtain ⟨below, -⟩ := List.getElem?_eq_some_iff.mp known
  have inside : object.region.Contains (object.pointer + index) :=
    ⟨Nat.le_add_right _ _, Nat.add_lt_add_left below _⟩
  rw [same _ (apart.not_contains inside)]
  exact holds index byte known

theorem Holds.write (holds : object.Holds before) (offset : Nat) (bytes : List UInt8) :
    (object.written offset bytes).Holds (before.store (object.pointer + offset) bytes) := by
  intro index byte known
  change before.store (object.pointer + offset) bytes (object.pointer + index) = byte
  rw [written, List.getElem?_mapIdx] at known
  obtain ⟨old, stored, value⟩ := Option.map_eq_some_iff.mp known
  by_cases reached : offset ≤ index
  · have place : object.pointer + index - (object.pointer + offset) = index - offset := by omega
    rw [if_pos reached] at value
    rw [Memory.store, if_pos (by omega), place, List.getD_eq_getElem?_getD]
    cases fresh : bytes[index - offset]? with
    | none =>
        rw [fresh, Option.none_or] at value
        subst value
        exact holds index byte stored
    | some written =>
        rw [fresh, Option.some_or] at value
        exact Option.some.inj value
  · rw [if_neg reached] at value
    subst value
    rw [Memory.store, if_neg (by omega)]
    exact holds index byte stored

/-- A copy of the bytes that both objects have room for holds the resized object. -/
theorem Holds.copy {pointer size count : Nat} (holds : object.Holds before)
    (known : min object.bytes.length size ≤ count) :
    (resized pointer size object).Holds (before.store pointer (before.load object.pointer count)) := by
  intro index byte value
  change before.store pointer (before.load object.pointer count) (pointer + index) = byte
  have kept : object.bytes[index]? = some (some byte) ∧ index < size := by
    by_cases early : index < (object.bytes.take size).length
    · rw [resized, List.getElem?_append_left early] at value
      rw [List.length_take] at early
      have small : index < size := by omega
      rw [List.getElem?_take_of_lt small] at value
      exact ⟨value, small⟩
    · rw [resized, List.getElem?_append_right (Nat.le_of_not_lt early)] at value
      have unknown := (List.mem_replicate.mp (List.mem_of_getElem? value)).2
      cases unknown
  obtain ⟨old, small⟩ := kept
  obtain ⟨below, -⟩ := List.getElem?_eq_some_iff.mp old
  have copied : index < count := by omega
  have place : pointer + index - pointer = index := by omega
  rw [Memory.store, if_pos (Nat.le_add_right _ _), place, List.getD_eq_getElem?_getD]
  have loaded : (before.load object.pointer count)[index]? = some byte := by
    rw [Memory.load, List.getElem?_map, List.getElem?_range copied, Option.map_some,
      holds index byte old]
  rw [loaded]
  rfl

end Object

end ToySystem.Data
