import ToySystem.Kernel.Device
import ToySystem.Kernel.Gpio
import ToySystem.Kernel.Hrtimer
import ToySystem.Kernel.Ioctl

namespace ToySystem.Drivers

open ToySystem.Kernel

/-! # The engine driver

`drivers/engine/engine.c`: two virtual motors, each a self-rearming timer that
swaps two pairs of LEDs.  Here every entry point of the driver runs without
interruption; `Drivers.EngineStop` takes the emergency stop and the callbacks
apart into their statements.
-/

inductive Motor where
  | motor1
  | motor2
deriving DecidableEq, Repr

namespace Engine

/- left leds -/
def toyGpioOutputLeft1 : Nat := 17
def toyGpioOutputLeft2 : Nat := 27
def toyGpioOutputLeft3 : Nat := 22
def toyGpioOutputLeft4 : Nat := 5

/- right leds -/
def toyGpioOutputRight1 : Nat := 6
def toyGpioOutputRight2 : Nat := 26
def toyGpioOutputRight3 : Nat := 23
def toyGpioOutputRight4 : Nat := 24

def maxTimeoutMsec : Int32 := 2000

def motor1StartSpeed : UInt32 := iowInt32Pointer 'w' '1'
def motor2StartSpeed : UInt32 := iowInt32Pointer 'w' '2'
def motor1SetSpeed : UInt32 := iowInt32Pointer 'w' '3'
def motor2SetSpeed : UInt32 := iowInt32Pointer 'w' '4'
def motor1Halt : UInt32 := iowInt32Pointer 'w' '5'
def motor2Halt : UInt32 := iowInt32Pointer 'w' '6'

def ledLeftPins : Motor → List Nat
  | .motor1 => [toyGpioOutputLeft1, toyGpioOutputLeft2]
  | .motor2 => [toyGpioOutputRight1, toyGpioOutputRight2]

def ledRightPins : Motor → List Nat
  | .motor1 => [toyGpioOutputLeft3, toyGpioOutputLeft4]
  | .motor2 => [toyGpioOutputRight3, toyGpioOutputRight4]

def ledPins (motor : Motor) : List Nat := ledLeftPins motor ++ ledRightPins motor

def motorLedLeft (motor : Motor) (value : Bool) : List (Nat × Bool) :=
  (ledLeftPins motor).map fun pin => (pin, value)

def motorLedRight (motor : Motor) (value : Bool) : List (Nat × Bool) :=
  (ledRightPins motor).map fun pin => (pin, value)

def motorLedsOff (motor : Motor) : List (Nat × Bool) :=
  motorLedLeft motor false ++ motorLedRight motor false

/-- The two branches of `if(motor_k_toggle)` in the timer callbacks. -/
def toggleWrites (motor : Motor) (toggle : Bool) : List (Nat × Bool) :=
  if toggle then motorLedLeft motor true ++ motorLedRight motor false
  else motorLedLeft motor false ++ motorLedRight motor true

/-- `int timeout = MAX_TIMEOUT_MSEC * (100 - motor_k_speed) / 100`, in wrapping
32-bit arithmetic. -/
def motorTimeout (speed : Int32) : Int32 := maxTimeoutMsec * (100 - speed) / 100

structure MotorVars where
  speed : Int32
  toggle : Bool
  hrtimer : Hrtimer
deriving DecidableEq, Repr

end Engine

open Engine

structure EngineDriver where
  vars : Motor → MotorVars
  gpio : Gpio

namespace EngineDriver

def setVars (motor : Motor) (vars : MotorVars) (driver : EngineDriver) : EngineDriver :=
  { driver with vars := fun other => if other = motor then vars else driver.vars other }

def setSpeed (motor : Motor) (speed : Int32) (driver : EngineDriver) : EngineDriver :=
  driver.setVars motor { driver.vars motor with speed }

def setToggle (motor : Motor) (toggle : Bool) (driver : EngineDriver) : EngineDriver :=
  driver.setVars motor { driver.vars motor with toggle }

def setHrtimer (motor : Motor) (hrtimer : Hrtimer) (driver : EngineDriver) : EngineDriver :=
  driver.setVars motor { driver.vars motor with hrtimer }

def write (writes : List (Nat × Bool)) (driver : EngineDriver) : EngineDriver :=
  { driver with gpio := gpioWrite writes driver.gpio }

def speed (driver : EngineDriver) (motor : Motor) : Int32 := (driver.vars motor).speed

def hrtimer (driver : EngineDriver) (motor : Motor) : Hrtimer := (driver.vars motor).hrtimer

section

variable (driver : EngineDriver) (motor other : Motor) (value : Int32) (toggle : Bool)
  (timer : Hrtimer) (writes : List (Nat × Bool))

/-- An update of other variables of a motor keeps this one, for every motor. -/
theorem setVars_field {β : Type} (field : MotorVars → β) {vars : MotorVars}
    (same : field vars = field (driver.vars motor)) :
    field ((driver.setVars motor vars).vars other) = field (driver.vars other) := by
  by_cases here : other = motor
  · subst other
    simpa [setVars] using same
  · simp [setVars, here]

@[simp] theorem setSpeed_speed : (driver.setSpeed motor value).speed motor = value := by
  simp [setSpeed, setVars, speed]

@[simp] theorem setSpeed_hrtimer :
    (driver.setSpeed motor value).hrtimer other = driver.hrtimer other :=
  driver.setVars_field motor other MotorVars.hrtimer rfl

@[simp] theorem setToggle_speed :
    (driver.setToggle motor toggle).speed other = driver.speed other :=
  driver.setVars_field motor other MotorVars.speed rfl

@[simp] theorem setToggle_hrtimer :
    (driver.setToggle motor toggle).hrtimer other = driver.hrtimer other :=
  driver.setVars_field motor other MotorVars.hrtimer rfl

@[simp] theorem setHrtimer_hrtimer : (driver.setHrtimer motor timer).hrtimer motor = timer := by
  simp [setHrtimer, setVars, hrtimer]

@[simp] theorem setHrtimer_speed :
    (driver.setHrtimer motor timer).speed other = driver.speed other :=
  driver.setVars_field motor other MotorVars.speed rfl

theorem setHrtimer_toggle :
    ((driver.setHrtimer motor timer).vars other).toggle = (driver.vars other).toggle :=
  driver.setVars_field motor other MotorVars.toggle rfl

@[simp] theorem write_vars : (driver.write writes).vars = driver.vars := rfl
@[simp] theorem write_speed : (driver.write writes).speed other = driver.speed other := rfl
@[simp] theorem write_hrtimer : (driver.write writes).hrtimer other = driver.hrtimer other := rfl
@[simp] theorem write_gpio : (driver.write writes).gpio = gpioWrite writes driver.gpio := rfl

variable {motor other}

theorem setVars_other (different : other ≠ motor) (vars : MotorVars) :
    (driver.setVars motor vars).vars other = driver.vars other := by
  simp [setVars, different]

theorem setSpeed_other (different : other ≠ motor) :
    (driver.setSpeed motor value).vars other = driver.vars other :=
  driver.setVars_other different _

theorem setToggle_other (different : other ≠ motor) :
    (driver.setToggle motor toggle).vars other = driver.vars other :=
  driver.setVars_other different _

theorem setHrtimer_other (different : other ≠ motor) :
    (driver.setHrtimer motor timer).vars other = driver.vars other :=
  driver.setVars_other different _

theorem setHrtimer_hrtimer_other (different : other ≠ motor) :
    (driver.setHrtimer motor timer).hrtimer other = driver.hrtimer other :=
  congrArg MotorVars.hrtimer (driver.setHrtimer_other timer different)

end

end EngineDriver

namespace Engine

def motorTimerCallback (motor : Motor) (now : Ktime) (driver : EngineDriver) :
    EngineDriver × HrtimerRestart :=
  let toggle := !(driver.vars motor).toggle
  let driver := driver.setToggle motor toggle
  let driver := driver.write (toggleWrites motor toggle)
  let timeout := motorTimeout (driver.speed motor)
  let driver := driver.setHrtimer motor
    (hrtimerForwardNow now (msToKtime timeout.toInt) (driver.hrtimer motor))
  (driver, .restart)

def motor1TimerCallback := motorTimerCallback .motor1
def motor2TimerCallback := motorTimerCallback .motor2

def timerCallback : Motor → Ktime → EngineDriver → EngineDriver × HrtimerRestart
  | .motor1 => motor1TimerCallback
  | .motor2 => motor2TimerCallback

/-- The timer interrupt for a queued timer: the whole callback, and then what
the kernel does with its result. -/
def hrtimerExpiry (motor : Motor) (now : Ktime) (driver : EngineDriver) : Option EngineDriver :=
  if (driver.hrtimer motor).enqueued && !(driver.hrtimer motor).running then
    let entered := driver.setHrtimer motor (hrtimerEnterCallback (driver.hrtimer motor))
    let left := timerCallback motor now entered
    some (left.1.setHrtimer motor (hrtimerLeaveCallback left.2 (left.1.hrtimer motor)))
  else none

def kGpioIrqSignalHandler (driver : EngineDriver) : EngineDriver :=
  let driver := driver.setHrtimer .motor1 (hrtimerTryToCancel (driver.hrtimer .motor1)).1
  let driver := driver.setHrtimer .motor2 (hrtimerTryToCancel (driver.hrtimer .motor2)).1
  let driver := driver.write (motorLedsOff .motor1)
  driver.write (motorLedsOff .motor2)

def motorStartSpeed (motor : Motor) (now : Ktime) (userSpeed : Int32) (driver : EngineDriver) :
    EngineDriver :=
  let driver := driver.setSpeed motor userSpeed
  let driver :=
    if !hrtimerActive (driver.hrtimer motor) then
      driver.setHrtimer motor (hrtimerInit (driver.hrtimer motor))
    else driver
  driver.setHrtimer motor
    (hrtimerStart now (msToKtime maxTimeoutMsec.toInt) (driver.hrtimer motor))

def motorSetSpeed (motor : Motor) (userSpeed : Int32) (driver : EngineDriver) : EngineDriver :=
  driver.setSpeed motor userSpeed

def motorHalt (motor : Motor) (driver : EngineDriver) : EngineDriver :=
  (driver.setHrtimer motor (hrtimerTryToCancel (driver.hrtimer motor)).1).write
    (motorLedsOff motor)

/-- `arg` is what `copy_from_user` delivers; `none` is a failed copy. -/
def toyIoctl (now : Ktime) (cmd : UInt32) (arg : Option Int32) (driver : EngineDriver) :
    EngineDriver × Int :=
  match arg with
  | none => (driver, -efault)
  | some userSpeed =>
      let driver :=
        if cmd = motor1StartSpeed then motorStartSpeed .motor1 now userSpeed driver
        else if cmd = motor2StartSpeed then motorStartSpeed .motor2 now userSpeed driver
        else if cmd = motor1SetSpeed then motorSetSpeed .motor1 userSpeed driver
        else if cmd = motor2SetSpeed then motorSetSpeed .motor2 userSpeed driver
        else if cmd = motor1Halt then motorHalt .motor1 driver
        else if cmd = motor2Halt then motorHalt .motor2 driver
        else driver
      (driver, einval)

/- `/dev/toy_engine_driver` while it can be opened; the memory a program passes
   to `ioctl` can be read. -/
def engineDevice (now : Ktime) : DeviceFile EngineDriver where
  openDevice driver := (driver, 0)
  ioctl request argument driver := toyIoctl now request (some argument) driver
  closeDevice driver := driver

/-- The driver as a successful `toy_module_init` leaves it: the initialisers of
the static variables, outputs low, and the two timers started at `started`. -/
def toyModuleInit (started : Motor → Ktime) : EngineDriver where
  vars motor := {
    speed := 1
    toggle := false
    hrtimer := hrtimerStart (started motor) (msToKtime maxTimeoutMsec.toInt)
      (hrtimerInit Hrtimer.unset) }
  gpio _ := false

def startSpeedCode : Motor → UInt32
  | .motor1 => motor1StartSpeed
  | .motor2 => motor2StartSpeed

def setSpeedCode : Motor → UInt32
  | .motor1 => motor1SetSpeed
  | .motor2 => motor2SetSpeed

def haltCode : Motor → UInt32
  | .motor1 => motor1Halt
  | .motor2 => motor2Halt

section

variable (now : Ktime) (motor other : Motor) (value : Int32) (driver : EngineDriver)

@[simp] theorem toyIoctl_startSpeed :
    toyIoctl now (startSpeedCode motor) (some value) driver =
      (motorStartSpeed motor now value driver, einval) := by
  cases motor <;> rfl

@[simp] theorem toyIoctl_setSpeed :
    toyIoctl now (setSpeedCode motor) (some value) driver =
      (motorSetSpeed motor value driver, einval) := by
  cases motor <;> rfl

@[simp] theorem toyIoctl_halt :
    toyIoctl now (haltCode motor) (some value) driver = (motorHalt motor driver, einval) := by
  cases motor <;> rfl

end

def LedsOff (motor : Motor) (driver : EngineDriver) : Prop :=
  ∀ pin ∈ ledPins motor, driver.gpio pin = false

/-- The motor does not run: its timer is inactive and its LEDs are dark. -/
def Stopped (motor : Motor) (driver : EngineDriver) : Prop :=
  hrtimerActive (driver.hrtimer motor) = false ∧ LedsOff motor driver

def Quiet (driver : EngineDriver) : Prop :=
  ∀ motor, (driver.hrtimer motor).running = false

instance (motor : Motor) (driver : EngineDriver) : Decidable (LedsOff motor driver) :=
  inferInstanceAs (Decidable (∀ pin ∈ ledPins motor, driver.gpio pin = false))

instance (motor : Motor) (driver : EngineDriver) : Decidable (Stopped motor driver) :=
  inferInstanceAs (Decidable (_ ∧ _))

theorem ledPins_disjoint {motor other : Motor} (different : other ≠ motor) :
    ∀ pin ∈ ledPins other, pin ∉ ledPins motor := by
  cases motor <;> cases other <;> first | contradiction | decide

theorem motorLedsOff_pins (motor : Motor) : (motorLedsOff motor).map Prod.fst = ledPins motor := by
  cases motor <;> rfl

theorem toggleWrites_pins (motor : Motor) (toggle : Bool) :
    (toggleWrites motor toggle).map Prod.fst = ledPins motor := by
  cases motor <;> cases toggle <;> rfl

theorem gpioWrite_other_motor {motor other : Motor} (different : other ≠ motor)
    {writes : List (Nat × Bool)} (pins : writes.map Prod.fst = ledPins motor) (gpio : Gpio)
    {pin : Nat} (member : pin ∈ ledPins other) : gpioWrite writes gpio pin = gpio pin :=
  gpioWrite_frame (by rw [pins]; exact ledPins_disjoint different pin member) gpio

theorem motorLedsOff_dark (motor : Motor) (gpio : Gpio) :
    ∀ pin ∈ ledPins motor, gpioWrite (motorLedsOff motor) gpio pin = false := by
  intro pin member
  apply gpioWrite_mem
  · revert pin; cases motor <;> decide
  · revert pin; cases motor <;> decide

section

variable {motor other : Motor} (now : Ktime) (value : Int32) (driver : EngineDriver)

theorem Quiet.toyModuleInit (started : Motor → Ktime) : Quiet (toyModuleInit started) :=
  fun _ => rfl

@[simp] theorem motorStartSpeed_speed :
    (motorStartSpeed motor now value driver).speed motor = value := by
  simp only [motorStartSpeed, EngineDriver.setHrtimer_speed]
  split <;> simp

theorem motorStartSpeed_hrtimer :
    (motorStartSpeed motor now value driver).hrtimer motor =
      { driver.hrtimer motor with
        enqueued := true
        expires := now + msToKtime maxTimeoutMsec.toInt
        starts := (driver.hrtimer motor).starts + 1 } := by
  simp only [motorStartSpeed, EngineDriver.setHrtimer_hrtimer, EngineDriver.setSpeed_hrtimer]
  cases active : hrtimerActive (driver.hrtimer motor) with
  | true => simp [hrtimerStart]
  | false =>
      simp only [hrtimerActive, Bool.or_eq_false_iff] at active
      simp [hrtimerStart, hrtimerInit, active.2]

theorem motorStartSpeed_other (different : other ≠ motor) :
    (motorStartSpeed motor now value driver).vars other = driver.vars other := by
  rw [motorStartSpeed, EngineDriver.setHrtimer_other _ _ different]
  split
  · rw [EngineDriver.setHrtimer_other _ _ different, EngineDriver.setSpeed_other _ _ different]
  · exact EngineDriver.setSpeed_other _ _ different

@[simp] theorem motorStartSpeed_gpio :
    (motorStartSpeed motor now value driver).gpio = driver.gpio := by
  simp only [motorStartSpeed]
  split <;> rfl

@[simp] theorem motorHalt_speed : (motorHalt motor driver).speed other = driver.speed other := by
  simp [motorHalt]

theorem motorHalt_other (different : other ≠ motor) :
    (motorHalt motor driver).vars other = driver.vars other := by
  rw [motorHalt, EngineDriver.write_vars, EngineDriver.setHrtimer_other _ _ different]

theorem motorHalt_running :
    ((motorHalt motor driver).hrtimer other).running = (driver.hrtimer other).running := by
  by_cases same : other = motor
  · subst other
    simp [motorHalt]
  · rw [EngineDriver.hrtimer, motorHalt_other driver same]
    rfl

theorem motorHalt_ledsOff : LedsOff motor (motorHalt motor driver) :=
  motorLedsOff_dark motor _

theorem motorHalt_stopped (idle : (driver.hrtimer motor).running = false) :
    Stopped motor (motorHalt motor driver) := by
  refine ⟨?_, motorHalt_ledsOff driver⟩
  simp only [hrtimerActive, motorHalt_running, idle, Bool.or_false]
  simp only [motorHalt, EngineDriver.write_hrtimer, EngineDriver.setHrtimer_hrtimer]
  exact hrtimerTryToCancel_idle _ idle

theorem toyIoctl_cases (cmd : UInt32) (arg : Option Int32) :
    (toyIoctl now cmd arg driver).1 = driver ∨ ∃ target value, arg = some value ∧
      (cmd = startSpeedCode target ∧
          (toyIoctl now cmd arg driver).1 = motorStartSpeed target now value driver ∨
        (toyIoctl now cmd arg driver).1 = Engine.motorSetSpeed target value driver ∨
        (toyIoctl now cmd arg driver).1 = motorHalt target driver) := by
  cases arg with
  | none => exact .inl rfl
  | some value =>
      by_cases known : ∃ target, cmd = startSpeedCode target ∨ cmd = setSpeedCode target ∨
          cmd = haltCode target
      · obtain ⟨target, start | set | halt⟩ := known
        · subst cmd
          exact .inr ⟨target, value, rfl, .inl ⟨rfl, by rw [toyIoctl_startSpeed]⟩⟩
        · subst cmd
          exact .inr ⟨target, value, rfl, .inr (.inl (by rw [toyIoctl_setSpeed]))⟩
        · subst cmd
          exact .inr ⟨target, value, rfl, .inr (.inr (by rw [toyIoctl_halt]))⟩
      · left
        simp only [not_exists, not_or] at known
        have first := known .motor1
        have second := known .motor2
        simp only [startSpeedCode, setSpeedCode, haltCode] at first second
        simp [toyIoctl, first, second]

theorem motorStartSpeed_running :
    ((motorStartSpeed motor now value driver).hrtimer other).running =
      (driver.hrtimer other).running := by
  by_cases same : other = motor
  · subst other
    rw [motorStartSpeed_hrtimer]
  · rw [EngineDriver.hrtimer, motorStartSpeed_other now value driver same]
    rfl

theorem toyIoctl_running (cmd : UInt32) (arg : Option Int32) :
    ((toyIoctl now cmd arg driver).1.hrtimer other).running = (driver.hrtimer other).running := by
  obtain same | ⟨target, value, _, ⟨_, started⟩ | set | halted⟩ := toyIoctl_cases now driver cmd arg
  · rw [same]
  · rw [started, motorStartSpeed_running]
  · rw [set, Engine.motorSetSpeed, EngineDriver.setSpeed_hrtimer]
  · rw [halted, motorHalt_running]

theorem kGpioIrqSignalHandler_hrtimer :
    (kGpioIrqSignalHandler driver).hrtimer motor =
      (hrtimerTryToCancel (driver.hrtimer motor)).1 := by
  have first : Motor.motor1 ≠ .motor2 := by decide
  have second : Motor.motor2 ≠ .motor1 := by decide
  simp only [kGpioIrqSignalHandler, EngineDriver.write_hrtimer]
  cases motor with
  | motor1 =>
      rw [EngineDriver.setHrtimer_hrtimer_other _ _ first, EngineDriver.setHrtimer_hrtimer]
  | motor2 =>
      rw [EngineDriver.setHrtimer_hrtimer, EngineDriver.setHrtimer_hrtimer_other _ _ second]

@[simp] theorem kGpioIrqSignalHandler_speed :
    (kGpioIrqSignalHandler driver).speed motor = driver.speed motor := by
  simp [kGpioIrqSignalHandler]

theorem timerCallback_eq (motor : Motor) : timerCallback motor = motorTimerCallback motor := by
  cases motor <;> rfl

theorem motorTimerCallback_other (different : other ≠ motor) :
    (motorTimerCallback motor now driver).1.vars other = driver.vars other := by
  simp only [motorTimerCallback, EngineDriver.setHrtimer_other _ _ different,
    EngineDriver.write_vars, EngineDriver.setToggle_other _ _ different]

/-- The inversion of a timer expiry: what the interrupt needs, and what it
leaves of the timers and the speeds. -/
theorem hrtimerExpiry_cases {after : EngineDriver}
    (expired : hrtimerExpiry motor now driver = some after) :
    (driver.hrtimer motor).enqueued = true ∧
      (after.hrtimer motor).enqueued = true ∧ (after.hrtimer motor).running = false ∧
      (∀ other, other ≠ motor → after.vars other = driver.vars other) ∧
      ∀ other, after.speed other = driver.speed other := by
  simp only [hrtimerExpiry, timerCallback_eq] at expired
  split at expired
  · rename_i due
    simp only [Bool.and_eq_true] at due
    cases Option.some.inj expired
    refine ⟨due.1, ?_, ?_, ?_, ?_⟩
    · simp [motorTimerCallback, hrtimerLeaveCallback]
    · simp [hrtimerLeaveCallback]
    · intro other different
      rw [EngineDriver.setHrtimer_other _ _ different, motorTimerCallback_other _ _ different,
        EngineDriver.setHrtimer_other _ _ different]
    · intro other
      simp [motorTimerCallback]
  · contradiction

theorem Quiet.congr {after : EngineDriver} (quiet : Quiet driver)
    (same : ∀ other, (after.hrtimer other).running = (driver.hrtimer other).running) :
    Quiet after :=
  fun other => (same other).trans (quiet other)

theorem Quiet.motorStartSpeed (quiet : Quiet driver) :
    Quiet (motorStartSpeed motor now value driver) :=
  quiet.congr driver fun _ => motorStartSpeed_running now value driver

theorem Quiet.motorSetSpeed (quiet : Quiet driver) : Quiet (motorSetSpeed motor value driver) :=
  quiet.congr driver fun other =>
    congrArg Hrtimer.running (driver.setSpeed_hrtimer motor other value)

theorem Quiet.motorHalt (quiet : Quiet driver) : Quiet (motorHalt motor driver) :=
  quiet.congr driver fun _ => motorHalt_running driver

theorem Quiet.kGpioIrqSignalHandler (quiet : Quiet driver) :
    Quiet (kGpioIrqSignalHandler driver) := by
  apply quiet.congr
  intro other
  rw [kGpioIrqSignalHandler_hrtimer, hrtimerTryToCancel_running]

theorem Quiet.hrtimerExpiry {after : EngineDriver} (quiet : Quiet driver)
    (expired : hrtimerExpiry motor now driver = some after) : Quiet after := by
  obtain ⟨_, _, idle, others, _⟩ := hrtimerExpiry_cases now driver expired
  intro other
  by_cases same : other = motor
  · subst other
    exact idle
  · rw [EngineDriver.hrtimer, others other same]
    exact quiet other

end

end Engine

end ToySystem.Drivers
