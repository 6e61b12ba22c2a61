import Mathlib.Data.Int.Basic

namespace ToySystem.Kernel

/-! A device node as a program uses it: `open`, one `ioctl`, `close`. -/

structure DeviceFile (W : Type) where
  openDevice : W → W × Int
  ioctl : UInt32 → Int32 → W → W × Int
  closeDevice : W → W

/-- The calls every user of a device makes.  A failed `open` and a negative
result of `ioctl` are only reported. -/
def DeviceFile.call {W : Type} (device : DeviceFile W) (request : UInt32) (argument : Int32)
    (world : W) : W :=
  let (world, dev) := device.openDevice world
  if dev < 0 then world
  else device.closeDevice (device.ioctl request argument world).1

end ToySystem.Kernel
