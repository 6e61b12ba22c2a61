import Mathlib.Data.List.Pairwise
import ToySystem.Data.Bytes

namespace ToySystem.Data

/-! Regions of a memory, and the words of eight bytes in it. -/

structure Region where
  base : Nat
  size : Nat
deriving DecidableEq, Repr

namespace Region

variable {first second : Region} {address : Nat}

def Contains (region : Region) (address : Nat) : Prop :=
  region.base ≤ address ∧ address < region.base + region.size

def Apart (first second : Region) : Prop :=
  first.base + first.size ≤ second.base ∨ second.base + second.size ≤ first.base

def Inside (inner outer : Region) : Prop :=
  outer.base ≤ inner.base ∧ inner.base + inner.size ≤ outer.base + outer.size

instance : Decidable (Apart first second) := inferInstanceAs (Decidable (_ ∨ _))

instance : Decidable (Inside first second) := inferInstanceAs (Decidable (_ ∧ _))

theorem Apart.symm (apart : first.Apart second) : second.Apart first := Or.symm apart

theorem Apart.inside {inner : Region} (apart : first.Apart second) (within : inner.Inside first) :
    inner.Apart second := by
  obtain ⟨low, high⟩ := within
  rcases apart with before | behind
  · exact .inl (by omega)
  · exact .inr (by omega)

theorem Apart.not_contains (apart : first.Apart second) (inside : first.Contains address) :
    ¬ second.Contains address := by
  rintro ⟨low, high⟩
  obtain ⟨lowFirst, highFirst⟩ := inside
  rcases apart with before | behind
  · omega
  · omega

theorem Apart.base_ne (apart : first.Apart second) (room : 0 < first.size) (other : 0 < second.size) :
    first.base ≠ second.base := by
  rcases apart with before | behind
  · omega
  · omega

end Region

def wordSize : Nat := 8

namespace Memory

variable {before after : Memory} {region : Region}

/-- The two memories differ in the region alone. -/
def SameOutside (region : Region) (before after : Memory) : Prop :=
  ∀ address, ¬ region.Contains address → after address = before address

theorem SameOutside.refl (region : Region) (memory : Memory) : SameOutside region memory memory :=
  fun _ _ => rfl

theorem SameOutside.trans {last : Memory} (first : SameOutside region before after)
    (second : SameOutside region after last) : SameOutside region before last :=
  fun address outside => (second address outside).trans (first address outside)

theorem SameOutside.widen {inner : Region} (same : SameOutside inner before after)
    (within : inner.Inside region) : SameOutside region before after := by
  intro address outside
  refine same address ?_
  rintro ⟨low, high⟩
  obtain ⟨lower, upper⟩ := within
  exact outside ⟨by omega, by omega⟩

theorem store_sameOutside (memory : Memory) (offset : Nat) (bytes : List UInt8) :
    SameOutside ⟨offset, bytes.length⟩ memory (memory.store offset bytes) := by
  intro address outside
  unfold store
  split
  · rename_i reached
    have beyond : bytes.length ≤ address - offset := by
      by_contra within
      exact outside ⟨reached, by simp only; omega⟩
    simp [beyond]
  · rfl

def loadWord (memory : Memory) (offset : Nat) : Nat := fromLittleEndian (memory.load offset wordSize)

def storeWord (offset value : Nat) (memory : Memory) : Memory :=
  memory.store offset (littleEndian wordSize value)

theorem loadWord_storeWord (memory : Memory) (offset : Nat) {value : Nat} (fits : value < 2 ^ 64) :
    (memory.storeWord offset value).loadWord offset = value := by
  have stored := load_store_same offset (littleEndian wordSize value) memory
  rw [littleEndian_length] at stored
  rw [loadWord, storeWord, stored, fromLittleEndian_littleEndian]
  exact Nat.mod_eq_of_lt fits

theorem storeWord_sameOutside (memory : Memory) (offset value : Nat) :
    SameOutside ⟨offset, wordSize⟩ memory (memory.storeWord offset value) := by
  have same := store_sameOutside memory offset (littleEndian wordSize value)
  rw [littleEndian_length] at same
  exact same

theorem SameOutside.loadWord {word : Nat} (same : SameOutside region before after)
    (apart : region.Apart ⟨word, wordSize⟩) : after.loadWord word = before.loadWord word := by
  have loads : after.load word wordSize = before.load word wordSize := by
    refine List.map_congr_left ?_
    intro index below
    have inside : Region.Contains ⟨word, wordSize⟩ (word + index) :=
      ⟨Nat.le_add_right _ _, Nat.add_lt_add_left (List.mem_range.mp below) _⟩
    exact same _ (apart.symm.not_contains inside)
  rw [Memory.loadWord, Memory.loadWord, loads]

attribute [irreducible] Memory.loadWord Memory.storeWord

end Memory

end ToySystem.Data
