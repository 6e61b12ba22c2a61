import Mathlib.Data.Int.Basic

namespace ToySystem.Kernel

/-! What a kernel function returns for a pointer: an error number may be encoded
in it, and such a pointer is not null. -/

inductive ErrPtr where
  | null
  | valid
  | error
deriving DecidableEq, Repr

end ToySystem.Kernel
