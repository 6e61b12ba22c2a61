import Mathlib.Data.Nat.Notation

namespace ToySystem.Kernel

/-! Request codes of `ioctl`, as `asm-generic/ioctl.h` builds them. -/

def iocWrite : UInt32 := 1

def ioc (direction : UInt32) (type number : Char) (size : UInt32) : UInt32 :=
  direction <<< 30 ||| size <<< 16 ||| type.val <<< 8 ||| number.val

/-- `_IOW(type, nr, int32_t *)`: the size is that of a pointer on the 64-bit target. -/
def iowInt32Pointer (type number : Char) : UInt32 := ioc iocWrite type number 8

def efault : Int := 14
def einval : Int := 22

end ToySystem.Kernel
