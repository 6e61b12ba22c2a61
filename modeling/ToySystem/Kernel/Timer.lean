import Mathlib.Data.Nat.Notation

namespace ToySystem.Kernel

/-! The kernel's timer wheel as the drivers use it.  Time is counted in
milliseconds. -/

structure TimerList where
  pending : Bool
  expires : Nat
deriving DecidableEq, Repr

def timerSetup : TimerList where
  pending := false
  expires := 0

def modTimer (expires : Nat) : TimerList where
  pending := true
  expires := expires

def delTimer (timer : TimerList) : TimerList := { timer with pending := false }

end ToySystem.Kernel
