import ToySystem.Libc.Decimal

namespace ToySystem.Drivers.Sensor

open ToySystem.Libc

/-! # The sensor driver's attributes

The part of `drivers/sensor/sensor.c` that hands a measured temperature, in
hundredths of a degree, to user space.
-/

/-- The values of the two attributes. -/
structure TempAttrs where
  notify : Int32
  trigger : Int32

/-- `workqueue_fn` after `read_temperature` returned. -/
def workqueueFn (temperature : Int32) (attrs : TempAttrs) : TempAttrs :=
  { attrs with notify := temperature }

/-- `scnprintf(buf, PAGE_SIZE, "%d\\n", da->value)`; the text is never cut. -/
def showAttr (value : Int32) : List Char := decimal value.toInt ++ ['\n']

theorem showAttr_length (value : Int32) : (showAttr value).length ≤ 12 := by
  have short := decimal_length value
  rw [showAttr, List.length_append, List.length_singleton]
  omega

theorem stopsDigits_newline : StopsDigits ['\n'] := by
  intro c isHead
  cases Option.mem_some_iff.mp isHead
  rfl

theorem showAttr_injective {first second : Int32} (same : showAttr first = showAttr second) :
    first = second := by
  have readFirst := atoi_decimal first stopsDigits_newline
  have readSecond := atoi_decimal second stopsDigits_newline
  rw [showAttr, showAttr] at same
  rw [same] at readFirst
  exact readFirst.symm.trans readSecond

end ToySystem.Drivers.Sensor
