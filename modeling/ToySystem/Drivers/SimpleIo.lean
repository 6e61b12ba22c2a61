import ToySystem.Data.Run
import ToySystem.Data.Thread
import ToySystem.Kernel.Gpio

namespace ToySystem.Drivers.SimpleIo

open ToySystem.Data ToySystem.Kernel

/-! # The simple_io driver

`drivers/simple_io/simple_io.c`: a kernel thread walks through six examples and
takes its commands from one shared flag, which `toy_driver_write` sets.  Thread
and writers are sequences of statements that interleave; every access to the
flag, to the write buffer and to a pin is a statement of its own.
-/

def bufSize : Nat := 1024

inductive WaitQueueFlag where
  | wait
  | key
  | next
  | exit
deriving DecidableEq, Repr

/-- The function `toy_simple_io_example_n` that the thread is in. -/
inductive Example where
  | one
  | two
  | three
  | four
  | five
  | six
deriving DecidableEq, Repr

/-- The order of the calls in `simple_io_kthread`. -/
def Example.following : Example → Example
  | .one => .two
  | .two => .three
  | .three => .four
  | .four => .five
  | .five => .six
  | .six => .one

/-- The examples that sleep in `wait_event_interruptible`. -/
def Example.waits : Example → Bool
  | .one | .two | .three => true
  | .four | .five | .six => false

def leftPins : List Nat := [17, 27, 22, 5]
def rightPins : List Nat := [6, 26, 23, 24]

def ledLeftOn : List (Nat × Bool) := leftPins.map (·, true)
def ledLeftOff : List (Nat × Bool) := leftPins.map (·, false)
def ledRightOn : List (Nat × Bool) := rightPins.map (·, true)
def ledRightOff : List (Nat × Bool) := rightPins.map (·, false)

/-- A statement carries the values of the local variables that it reads; `led`
is the variable of the loop in the examples other than the fifth.  In `loop`,
`woken` is a history variable: whether the iteration follows another one. -/
inductive Statement where
  | call (number : Example)
  | loop (number : Example) (led woken : Bool)
  | gpioSetValue (pin : Nat) (value : Bool)
  | setFlag (flag : WaitQueueFlag)
  | waitEvent
  | usleepRange
  | testExit (number : Example) (led : Bool)
  | testNext (number : Example) (led : Bool)
  | followSwitch
  | pollSwitch (led : Bool)
  | waitRelease (led : Bool)
  | returnFlag (number : Example)
  | doExit
deriving DecidableEq, Repr

def writeCode (writes : List (Nat × Bool)) : List Statement :=
  writes.map fun write => .gpioSetValue write.1 write.2

/-- One iteration of an example that toggles LEDs and sleeps until it is woken. -/
def waitExample (number : Example) (on off : List (Nat × Bool)) (led : Bool) : List Statement :=
  writeCode (if led then off else on) ++ [.setFlag .wait, .waitEvent, .testExit number !led]

def toySimpleIoExample1 : Bool → List Statement := waitExample .one ledLeftOn ledLeftOff
def toySimpleIoExample2 : Bool → List Statement := waitExample .two ledRightOn ledRightOff
def toySimpleIoExample3 : Bool → List Statement :=
  waitExample .three (ledRightOn ++ ledLeftOff) (ledRightOff ++ ledLeftOn)

def toySimpleIoExample4 (led : Bool) : List Statement :=
  writeCode (if led then ledRightOff ++ ledLeftOn else ledRightOn ++ ledLeftOff) ++
    [.usleepRange, .testExit .four !led]

def toySimpleIoExample5 : List Statement := [.followSwitch]
def toySimpleIoExample6 (led : Bool) : List Statement := [.testExit .six led]

def loopBody (led : Bool) : Example → List Statement
  | .one => toySimpleIoExample1 led
  | .two => toySimpleIoExample2 led
  | .three => toySimpleIoExample3 led
  | .four => toySimpleIoExample4 led
  | .five => toySimpleIoExample5
  | .six => toySimpleIoExample6 led

/-- What comes before the loop: the last three examples reset the flag there. -/
def prologue (number : Example) : List Statement :=
  if number.waits then [] else [.setFlag .wait]

/-- The rest of an iteration of the fifth example, once the switch was read. -/
def followCode (level : Bool) : List Statement :=
  writeCode (if level then ledLeftOn ++ ledRightOff else ledRightOn ++ ledLeftOff) ++
    [.usleepRange, .testExit .five false]

/-- The rest of an iteration of the sixth, once it found the switch pressed. -/
def pressCode (led : Bool) : List Statement :=
  writeCode (if led then ledLeftOn ++ ledRightOff else ledLeftOff ++ ledRightOn) ++
    [.waitRelease !led]

/-- The driver's variables and the LEDs.  The other fields are history variables:
the moves to a next example, the toggles on a wake-up in the first three, the
commands written (`keys` only while the thread was in these), and the LEDs as
they were when the thread entered the current example. -/
structure Io where
  waitQueueFlag : WaitQueueFlag
  kernelWriteBuffer : List UInt8
  gpio : Gpio
  moves : Nat
  toggles : Nat
  nexts : Nat
  keys : Nat
  entered : Gpio

/-- `level` is what `gpio_get_value(TOY_GPIO_INPUT)` reads. -/
def exec (level : Bool) : Statement → Io → Io × List Statement
  | .call number, io => ({ io with entered := io.gpio }, prologue number ++ [.loop number false false])
  | .loop number led woken, io =>
      (if number.waits && woken then { io with toggles := io.toggles + 1 } else io,
        loopBody led number)
  | .gpioSetValue pin value, io => ({ io with gpio := Kernel.gpioSetValue pin value io.gpio }, [])
  | .setFlag flag, io => ({ io with waitQueueFlag := flag }, [])
  | .waitEvent, io => (io, [])
  | .usleepRange, io => (io, [])
  | .testExit number led, io =>
      (io, if io.waitQueueFlag = .exit then [.returnFlag number] else [.testNext number led])
  | .testNext number led, io =>
      (io, if io.waitQueueFlag = .next then [.returnFlag number]
        else if number = .six then [.pollSwitch led] else [.loop number led true])
  | .followSwitch, io => (io, followCode level)
  | .pollSwitch led, io =>
      (io, if level then [.usleepRange, .loop .six led true] else pressCode led)
  | .waitRelease led, io =>
      (io, if level then [.loop .six led true] else [.usleepRange, .waitRelease led])
  | .returnFlag number, io =>
      if io.waitQueueFlag = .exit then (io, [.doExit])
      else ({ io with moves := io.moves + 1 }, [.call number.following])
  | .doExit, io => (io, [])

/-- The condition of `wait_event_interruptible` does not hold. -/
def blocked (io : Io) : List Statement → Bool
  | .waitEvent :: _ => io.waitQueueFlag = .wait
  | _ => false

def threadStep (level : Bool) (io : Io) (thread : List Statement) : Option (Io × List Statement) :=
  if blocked io thread then none else advance (exec level) io thread

inductive WriteStatement where
  | copyFromUser
  | switchByte
  | setFlag (flag : WaitQueueFlag)
  | wakeUp
deriving DecidableEq, Repr

def toyDriverWrite : List WriteStatement := [.copyFromUser, .switchByte]

/-- The cases of the `switch`; the default only prints. -/
def switchCode (byte : UInt8) : List WriteStatement :=
  match byte.toNat with
  | 0 => [.setFlag .wait]
  | 1 => [.setFlag .key, .wakeUp]
  | 2 => [.setFlag .next, .wakeUp]
  | _ => []

/-- A call of `toy_driver_write` in progress. -/
structure Writer where
  buf : List UInt8
  code : List WriteStatement
deriving DecidableEq, Repr

def Writer.byte (writer : Writer) : UInt8 := writer.buf.headD 0

/-- `listening` tells whether the thread is in one of the first three examples. -/
def writerExec (writer : Writer) (listening : Bool) :
    WriteStatement → Io → Io × List WriteStatement
  | .copyFromUser, io => ({ io with
      kernelWriteBuffer := writer.buf ++ io.kernelWriteBuffer.drop writer.buf.length }, [])
  | .switchByte, io => (io, switchCode (io.kernelWriteBuffer.headD 0))
  | .setFlag flag, io => ({ io with
      waitQueueFlag := flag
      nexts := io.nexts + if writer.byte = 2 then 1 else 0
      keys := io.keys + if writer.byte = 1 && listening then 1 else 0 }, [])
  | .wakeUp, io => (io, [])

structure System where
  io : Io
  thread : List Statement
  writers : List Writer

inductive Event where
  | thread (level : Bool)
  | write (buf : List UInt8)
  | writer (index : Nat)
deriving DecidableEq, Repr

/-- The example of the statements that a thread has left. -/
def exampleOf : List Statement → Example
  | .call number :: _ | .loop number _ _ :: _ | .testExit number _ :: _ | .testNext number _ :: _
  | .returnFlag number :: _ => number
  | .followSwitch :: _ => .five
  | .pollSwitch _ :: _ | .waitRelease _ :: _ => .six
  | .gpioSetValue _ _ :: rest | .setFlag _ :: rest | .waitEvent :: rest | .usleepRange :: rest =>
      exampleOf rest
  | .doExit :: _ | [] => .one

/-- A writer that returns is taken off the list. -/
def replaceWriter (index : Nat) (writer : Writer) (writers : List Writer) : List Writer :=
  if writer.code = [] then writers.eraseIdx index else writers.set index writer

/-- Longer buffers would overrun `kernel_write_buffer` and are left out, as are
empty ones. -/
def step (system : System) : Event → Option System
  | .thread level =>
      (threadStep level system.io system.thread).map fun (io, thread) => { system with io, thread }
  | .write buf =>
      if buf ≠ [] ∧ buf.length ≤ bufSize then
        some { system with writers := system.writers ++ [⟨buf, toyDriverWrite⟩] }
      else none
  | .writer index =>
      system.writers[index]?.bind fun writer =>
        (advance (writerExec writer (exampleOf system.thread).waits) system.io writer.code).map
          fun (io, code) =>
            { system with io, writers := replaceWriter index { writer with code } system.writers }

/-- After `toy_module_init`, which starts the thread and leaves all LEDs dark. -/
def toyModuleInit : System where
  io := {
    waitQueueFlag := .wait
    kernelWriteBuffer := List.replicate bufSize 0
    gpio := fun _ => false
    moves := 0
    toggles := 0
    nexts := 0
    keys := 0
    entered := fun _ => false }
  thread := [.call .one]
  writers := []

theorem threadStep_eq_some {level : Bool} {io after : Io} {code rest : List Statement}
    (stepped : threadStep level io code = some (after, rest)) :
    blocked io code = false ∧ ∃ statement others, code = statement :: others ∧
      after = (exec level statement io).1 ∧ rest = (exec level statement io).2 ++ others := by
  unfold threadStep at stepped
  split at stepped
  · contradiction
  · rename_i notBlocked
    exact ⟨by simpa using notBlocked, advance_eq_some stepped⟩

section

variable {system after : System}

theorem step_thread {level : Bool} (stepped : step system (.thread level) = some after) :
    threadStep level system.io system.thread = some (after.io, after.thread) ∧
      after.writers = system.writers := by
  obtain ⟨result, threadStepped, rfl⟩ := Option.map_eq_some_iff.mp stepped
  exact ⟨threadStepped, rfl⟩

theorem step_write {buf : List UInt8} (stepped : step system (.write buf) = some after) :
    (buf ≠ [] ∧ buf.length ≤ bufSize) ∧
      after = { system with writers := system.writers ++ [⟨buf, toyDriverWrite⟩] } := by
  simp only [step] at stepped
  split at stepped
  · rename_i fits
    exact ⟨fits, (Option.some.inj stepped).symm⟩
  · contradiction

theorem step_writer {index : Nat} (stepped : step system (.writer index) = some after) :
    ∃ writer statement left, system.writers[index]? = some writer ∧
      writer.code = statement :: left ∧
      let result := writerExec writer (exampleOf system.thread).waits statement system.io
      after = { system with
        io := result.1
        writers := replaceWriter index { writer with code := result.2 ++ left }
          system.writers } := by
  obtain ⟨writer, found, mapped⟩ := Option.bind_eq_some_iff.mp stepped
  obtain ⟨⟨io, rest⟩, advanced, rfl⟩ := Option.map_eq_some_iff.mp mapped
  obtain ⟨statement, left, code, rfl, rfl⟩ := advance_eq_some advanced
  exact ⟨writer, statement, left, found, code, rfl⟩

end

end ToySystem.Drivers.SimpleIo
