import Mathlib.Algebra.Ring.Int.Defs

namespace ToySystem.Libc

/-! The range of `int`, which has 32 bits.

Signed arithmetic that leaves it has no result.
-/

def InInt (value : Int) : Prop := -2 ^ 31 ≤ value ∧ value < 2 ^ 31

instance (value : Int) : Decidable (InInt value) := inferInstanceAs (Decidable (_ ∧ _))

/-- The result of an operation on `int`; none if it overflows. -/
def int (value : Int) : Option Int := if InInt value then some value else none

theorem int_of_inInt {value : Int} (fits : InInt value) : int value = some value := if_pos fits

theorem int_eq_some {value result : Int} (some : int value = some result) :
    InInt value ∧ result = value := by
  unfold int at some
  split at some
  · next fits =>
      cases some
      exact ⟨fits, rfl⟩
  · cases some

end ToySystem.Libc
