import ToySystem.Drivers.Sensor

namespace ToySystem.Ui

open ToySystem.Drivers.Sensor ToySystem.Libc

/-! # The sensor thread

`sensor_thread` of `ui/input.c`, one read of the attribute at a time.
-/

abbrev SensorBuffer := { text : List Char // text.length = 100 }

structure ShmSensor where
  temp : Int32
  press : Int32
  humidity : Int32

/-- `read(notify_fd, buff, 100)`: what the buffer held behind the text stays. -/
def readNotify (text : List Char) (buff : SensorBuffer) : SensorBuffer :=
  ⟨text.take 100 ++ buff.val.drop text.length, by
    have size := buff.property
    rw [List.length_append, List.length_take, List.length_drop]
    omega⟩

def sensorThread (text : List Char) (buff : SensorBuffer) : SensorBuffer × ShmSensor :=
  let buff := readNotify text buff
  (buff, { temp := atoi buff.val, press := 11, humidity := 80 })

theorem sensorThread_temp (value : Int32) (buff : SensorBuffer) :
    (sensorThread (showAttr value) buff).2.temp = value := by
  have short : (showAttr value).length ≤ 100 := by
    have length := showAttr_length value
    omega
  have stops : StopsDigits ('\n' :: buff.val.drop (showAttr value).length) := by
    intro c isHead
    cases Option.mem_some_iff.mp isHead
    rfl
  simp only [sensorThread, readNotify, List.take_of_length_le short]
  rw [showAttr, List.append_assoc]
  exact atoi_decimal value stops

/-- The attribute as it was opened, and the buffer that every read goes to. -/
structure NotifyFile where
  offset : Nat
  buff : SensorBuffer

/-- How a `read` ends: with an error, or with the text of the value shown then. -/
inductive NotifyRead where
  | failed
  | shown (value : Int32)

def NotifyRead.value : NotifyRead → Option Int32
  | .failed => none
  | .shown value => some value

/-- The rounds of `sensor_thread` after a successful read; a failed one is followed
by the next `poll`.  A read goes on where the last one ended, `lseek` goes back. -/
def sensorLoop (file : NotifyFile) : List NotifyRead → List (SensorBuffer × ShmSensor)
  | [] => []
  | .failed :: reads => sensorLoop file reads
  | .shown value :: reads =>
      let round := sensorThread ((showAttr value).drop file.offset) file.buff
      round :: sensorLoop { offset := 0, buff := round.1 } reads

/-- The number read is the one shown, whatever earlier texts left behind it. -/
theorem sensorLoop_atoi (reads : List NotifyRead) (buff : SensorBuffer) :
    (sensorLoop { offset := 0, buff } reads).map (fun round => atoi round.1.val) =
      reads.filterMap NotifyRead.value := by
  induction reads generalizing buff with
  | nil => rfl
  | cons read reads ih =>
      cases read with
      | failed => exact ih buff
      | shown value =>
          have first : atoi (sensorThread (showAttr value) buff).1.val = value :=
            sensorThread_temp value buff
          rw [sensorLoop, List.map_cons, List.drop_zero, ih, first]
          rfl

end ToySystem.Ui
