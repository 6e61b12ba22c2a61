import Mathlib.Data.List.Basic

namespace ToySystem.Data

/-! Sizes, alignments and offsets of C types under natural alignment. -/

structure CLayout where
  size : Nat
  align : Nat
deriving DecidableEq, Repr

namespace CLayout

def scalar (size : Nat) : CLayout := { size, align := size }

def unsignedInt : CLayout := scalar 4
def char : CLayout := scalar 1

def array (count : Nat) (element : CLayout) : CLayout :=
  { size := count * element.size, align := element.align }

def padTo (align offset : Nat) : Nat := (offset + align - 1) / align * align

/-- The offsets of the fields that follow a given offset, and where they end. -/
def placeFields : Nat → List CLayout → List Nat × Nat
  | offset, [] => ([], offset)
  | offset, field :: fields =>
      let start := padTo field.align offset
      let (starts, last) := placeFields (start + field.size) fields
      (start :: starts, last)

def maxAlign (members : List CLayout) : Nat := members.foldl (fun most member => max most member.align) 1

def struct (fields : List CLayout) : CLayout where
  size := padTo (maxAlign fields) (placeFields 0 fields).2
  align := maxAlign fields

def union (members : List CLayout) : CLayout where
  size := padTo (maxAlign members) (members.foldl (fun most member => max most member.size) 0)
  align := maxAlign members

/-- `offsetof`, by the number of the field. -/
def offsetOf (fields : List CLayout) (field : Nat) : Nat := (placeFields 0 fields).1.getD field 0

end CLayout

end ToySystem.Data
