import Mathlib.Data.List.Basic
import Mathlib.Tactic.Ring

namespace ToySystem.Data

/-! Bytes in lists and in memory, and numbers as little-endian bytes.

A memory is a function from offsets to bytes, so an object whose bytes are not
all known is any memory at all.
-/

/-- A byte array of a fixed size. -/
abbrev Block (size : Nat) := { bytes : List UInt8 // bytes.length = size }

def littleEndian : Nat → Nat → List UInt8
  | 0, _ => []
  | width + 1, value => UInt8.ofNat value :: littleEndian width (value / 256)

def fromLittleEndian : List UInt8 → Nat
  | [] => 0
  | byte :: bytes => byte.toNat + 256 * fromLittleEndian bytes

@[simp] theorem littleEndian_length (width value : Nat) :
    (littleEndian width value).length = width := by
  induction width generalizing value with
  | zero => rfl
  | succ width ih => simp [littleEndian, ih]

theorem fromLittleEndian_littleEndian (width value : Nat) :
    fromLittleEndian (littleEndian width value) = value % 256 ^ width := by
  induction width generalizing value with
  | zero => simp [littleEndian, fromLittleEndian, Nat.mod_one]
  | succ width ih =>
      have byte : (UInt8.ofNat value).toNat = value % 256 := UInt8.toNat_ofNat'
      rw [littleEndian, fromLittleEndian, ih, byte, pow_succ, Nat.mul_comm (256 ^ width),
        Nat.mod_mul]

def uint32Bytes (value : UInt32) : List UInt8 := littleEndian 4 value.toNat

def uint32FromBytes (bytes : List UInt8) : UInt32 := UInt32.ofNat (fromLittleEndian bytes)

@[simp] theorem uint32Bytes_length (value : UInt32) : (uint32Bytes value).length = 4 :=
  littleEndian_length 4 value.toNat

@[simp] theorem uint32FromBytes_uint32Bytes (value : UInt32) :
    uint32FromBytes (uint32Bytes value) = value := by
  have below : value.toNat < 256 ^ 4 := value.toNat_lt
  rw [uint32FromBytes, uint32Bytes, fromLittleEndian_littleEndian, Nat.mod_eq_of_lt below,
    UInt32.ofNat_toNat]

abbrev Memory := Nat → UInt8

namespace Memory

def load (memory : Memory) (offset size : Nat) : List UInt8 :=
  (List.range size).map fun index => memory (offset + index)

def store (offset : Nat) (bytes : List UInt8) (memory : Memory) : Memory := fun address =>
  if offset ≤ address then bytes.getD (address - offset) (memory address) else memory address

@[simp] theorem load_length (memory : Memory) (offset size : Nat) :
    (memory.load offset size).length = size := by
  simp [load]

theorem load_store_same (offset : Nat) (bytes : List UInt8) (memory : Memory) :
    (memory.store offset bytes).load offset bytes.length = bytes := by
  apply List.ext_getElem
  · simp
  · intro index inLoad inBytes
    simp [load, store, inBytes]

theorem load_store_inside (memory : Memory) (offset : Nat) {start size : Nat} {bytes : List UInt8}
    (inside : start + size ≤ bytes.length) :
    (memory.store offset bytes).load (offset + start) size = (bytes.drop start).take size := by
  apply List.ext_getElem
  · simp
    omega
  · intro index inLoad inBytes
    have here : index < size := by simpa using inLoad
    have place : offset + start + index - offset = start + index := by omega
    have bound : start + index < bytes.length := by omega
    have reached : offset ≤ offset + start + index := by omega
    simp [load, store, reached, place, bound]

theorem load_store_other {offset start size : Nat} {bytes : List UInt8} (memory : Memory)
    (apart : start + size ≤ offset ∨ offset + bytes.length ≤ start) :
    (memory.store offset bytes).load start size = memory.load start size := by
  apply List.ext_getElem
  · simp
  · intro index inLoad inOld
    have here : index < size := by simpa using inLoad
    by_cases before : offset ≤ start + index
    · have beyond : bytes.length ≤ start + index - offset := by omega
      simp [load, store, before, beyond]
    · simp [load, store, before]

theorem load_part (memory : Memory) (offset : Nat) {start size whole : Nat}
    (inside : start + size ≤ whole) :
    ((memory.load offset whole).drop start).take size = memory.load (offset + start) size := by
  apply List.ext_getElem
  · simp
    omega
  · intro index inPart inLoad
    simp [load, Nat.add_assoc]

def loadUInt32 (memory : Memory) (offset : Nat) : UInt32 :=
  uint32FromBytes (memory.load offset 4)

def storeUInt32 (offset : Nat) (value : UInt32) (memory : Memory) : Memory :=
  memory.store offset (uint32Bytes value)

@[simp] theorem loadUInt32_storeUInt32 (memory : Memory) (offset : Nat) (value : UInt32) :
    (memory.storeUInt32 offset value).loadUInt32 offset = value := by
  have stored := load_store_same offset (uint32Bytes value) memory
  rw [uint32Bytes_length] at stored
  rw [loadUInt32, storeUInt32, stored, uint32FromBytes_uint32Bytes]

theorem loadUInt32_storeUInt32_other (memory : Memory) {offset start : Nat} (value : UInt32)
    (apart : start + 4 ≤ offset ∨ offset + 4 ≤ start) :
    (memory.storeUInt32 offset value).loadUInt32 start = memory.loadUInt32 start := by
  have length := uint32Bytes_length value
  rw [loadUInt32, storeUInt32, load_store_other memory (by omega), loadUInt32]

end Memory

end ToySystem.Data
