import ToySystem.Kernel.Gpio
import ToySystem.Kernel.Timer

namespace ToySystem.Drivers.Click

open ToySystem.Kernel

/-! # The click driver

`drivers/state_machine/state_machine.c`: single and double clicks of a button
drive a table of seven states, whose actions set eight LEDs at once or start
timers that set them one by one.  Every function here runs without
interruption; `Drivers.ClickPreemption` takes the timer's callback apart.
-/

def doubleClickInterval : Nat := 500

inductive Input where
  | swOn
  | swOff
  | tOut
deriving DecidableEq, Repr

inductive Action where
  | nop
  | leftOn
  | leftOff
  | allOn
  | allOff
  | left4On
  | left6On
  | resetTimer
deriving DecidableEq, Repr

abbrev State := Fin 7

def initialState : State := 0

structure StateMachineElement where
  nextState : State
  action : Action
deriving DecidableEq, Repr

def stateMachineTable : State → Input → StateMachineElement
  | 0, .swOn => ⟨1, .leftOn⟩
  | 0, .swOff => ⟨0, .nop⟩
  | 0, .tOut => ⟨0, .nop⟩
  | 1, .swOn => ⟨1, .leftOn⟩
  | 1, .swOff => ⟨2, .leftOff⟩
  | 1, .tOut => ⟨3, .left6On⟩
  | 2, .swOn => ⟨2, .leftOff⟩
  | 2, .swOff => ⟨0, .nop⟩
  | 2, .tOut => ⟨4, .allOn⟩
  | 3, .swOn => ⟨3, .left6On⟩
  | 3, .swOff => ⟨4, .allOn⟩
  | 3, .tOut => ⟨4, .allOn⟩
  | 4, .swOn => ⟨4, .allOn⟩
  | 4, .swOff => ⟨5, .left4On⟩
  | 4, .tOut => ⟨6, .allOff⟩
  | 5, .swOn => ⟨5, .left4On⟩
  | 5, .swOff => ⟨6, .allOff⟩
  | 5, .tOut => ⟨0, .resetTimer⟩
  | 6, .swOn => ⟨0, .allOff⟩
  | 6, .swOff => ⟨0, .resetTimer⟩
  | 6, .tOut => ⟨0, .resetTimer⟩

def ledArrayMap : List Nat := [17, 27, 22, 5, 6, 26, 23, 24]

def ledPin (led : Nat) : Nat := ledArrayMap.getD led 0

inductive LedTimer where
  | on (led : Fin 4)
  | off (led : Fin 4)
deriving DecidableEq, Repr

/-- What `state_machine` works on: its static variable, the LED timers and the
outputs. -/
structure Leds where
  state : State
  timers : LedTimer → TimerList
  gpio : Gpio

namespace Leds

def setTimer (timer : LedTimer) (value : TimerList) (leds : Leds) : Leds :=
  { leds with timers := fun other => if other = timer then value else leds.timers other }

def write (writes : List (Nat × Bool)) (leds : Leds) : Leds :=
  { leds with gpio := gpioWrite writes leds.gpio }

end Leds

def startLedTimer (now : Nat) (timer : LedTimer) (delay : Nat) (leds : Leds) : Leds :=
  (leds.setTimer timer timerSetup).setTimer timer (modTimer (now + delay))

/-- The timers of a sequence, in the order of the loop, with their delays. -/
def ledOnSequence : List (LedTimer × Nat) :=
  [(.on 0, 0), (.on 1, 200), (.on 2, 400), (.on 3, 600)]

def ledOffSequence : List (LedTimer × Nat) :=
  [(.off 3, 0), (.off 2, 200), (.off 1, 400), (.off 0, 600)]

def ledOnTimer (led : Nat) : LedTimer := .on (Fin.ofNat 4 led)

def startSequence (now : Nat) (sequence : List (LedTimer × Nat)) (leds : Leds) : Leds :=
  sequence.foldl (fun leds entry => startLedTimer now entry.1 entry.2 leds) leds

def startLedOnSequence (now : Nat) : Leds → Leds := startSequence now ledOnSequence
def startLedOffSequence (now : Nat) : Leds → Leds := startSequence now ledOffSequence

def setBitLed (led : UInt8) : List (Nat × Bool) :=
  (List.range 8).map fun i => (ledPin i, led.toNat.testBit i)

/-- The loops of `ACTION_LEFT_4_ON` and `ACTION_LEFT_6_ON`. -/
def leftOn (count : Nat) : List (Nat × Bool) := (List.range count).map fun i => (ledPin i, true)

def performAction (now : Nat) (action : Action) (leds : Leds) : Leds :=
  match action with
  | .nop => leds
  | .leftOn => startLedOnSequence now leds
  | .leftOff => startLedOffSequence now leds
  | .allOn => leds.write (setBitLed 0xFF)
  | .allOff => leds.write (setBitLed 0x00)
  | .left4On => leds.write (leftOn 4)
  | .left6On => leds.write (leftOn 6)
  | .resetTimer => { leds.write (setBitLed 0x00) with state := initialState }

def stateMachine (now : Nat) (input : Input) (leds : Leds) : Leds :=
  let sm := stateMachineTable leds.state input
  performAction now sm.action { leds with state := sm.nextState }

/-- `led_on_timer_callback` and `led_off_timer_callback`, when the timer is due. -/
def ledTimerCallback (timer : LedTimer) (leds : Leds) : Leds :=
  let expired := leds.setTimer timer (delTimer (leds.timers timer))
  match timer with
  | .on led => expired.write [(ledPin led, true)]
  | .off led => expired.write [(ledPin led, false)]

/-- The driver's variables; `presses`, `swOns` and `tOuts` are history variables
that count the interrupts and the inputs dispatched to the state machine. -/
structure ClickDriver where
  clickCount : Nat
  clickTimer : TimerList
  leds : Leds
  presses : Nat
  swOns : Nat
  tOuts : Nat

namespace ClickDriver

def dispatch (input : Input) (driver : ClickDriver) : ClickDriver :=
  match input with
  | .swOn => { driver with swOns := driver.swOns + 1 }
  | .swOff => driver
  | .tOut => { driver with tOuts := driver.tOuts + 1 }

def onLeds (change : Leds → Leds) (driver : ClickDriver) : ClickDriver :=
  { driver with leds := change driver.leds }

end ClickDriver

def callStateMachine (now : Nat) (input : Input) (driver : ClickDriver) : ClickDriver :=
  (driver.dispatch input).onLeds (stateMachine now input)

def clickTimerCallback (now : Nat) (driver : ClickDriver) : ClickDriver :=
  let driver :=
    if driver.clickCount = 1 then callStateMachine now .swOn driver
    else if driver.clickCount = 2 then callStateMachine now .tOut driver
    else driver
  { driver with clickCount := 0 }

def buttonIsr (now : Nat) (driver : ClickDriver) : ClickDriver :=
  let driver :=
    { driver with clickCount := driver.clickCount + 1, presses := driver.presses + 1 }
  if driver.clickCount = 1 then
    { driver with clickTimer := modTimer (now + doubleClickInterval) }
  else if driver.clickCount = 2 then
    clickTimerCallback now { driver with clickTimer := delTimer driver.clickTimer }
  else driver

/-- After a successful `toy_driver_init`, which ends with all LEDs dark. -/
def toyDriverInit : ClickDriver where
  clickCount := 0
  clickTimer := timerSetup
  leds := {
    state := initialState
    timers := fun _ => { pending := false, expires := 0 }
    gpio := fun _ => false }
  presses := 0
  swOns := 0
  tOuts := 0

section

variable (now : Nat) {driver : ClickDriver}

theorem buttonIsr_first (resting : driver.clickCount = 0) :
    buttonIsr now driver = { driver with
      clickCount := 1
      clickTimer := modTimer (now + doubleClickInterval)
      presses := driver.presses + 1 } := by
  simp [buttonIsr, resting]

/-- The second click cancels the timer and is dispatched at once. -/
theorem buttonIsr_second (clicked : driver.clickCount = 1) :
    buttonIsr now driver = { driver with
      clickCount := 0
      clickTimer := delTimer driver.clickTimer
      leds := stateMachine now .tOut driver.leds
      presses := driver.presses + 1
      tOuts := driver.tOuts + 1 } := by
  simp [buttonIsr, clicked, clickTimerCallback, callStateMachine, ClickDriver.dispatch,
    ClickDriver.onLeds]

/-- A press moves the count between 0 and 1, is counted once, and leaves the
timer running exactly for a first click. -/
theorem buttonIsr_spec (few : driver.clickCount ≤ 1) :
    let after := buttonIsr now driver
    after.clickCount = 1 - driver.clickCount ∧ after.presses = driver.presses + 1 ∧
      after.swOns + 2 * after.tOuts + after.clickCount =
        driver.swOns + 2 * driver.tOuts + driver.clickCount + 1 ∧
      (after.clickTimer.pending = true ↔ after.clickCount = 1) := by
  by_cases clicked : driver.clickCount = 1
  · rw [buttonIsr_second now clicked]
    refine ⟨by simp [clicked], rfl, ?_, by simp [delTimer]⟩
    simp only [clicked]
    omega
  · have none : driver.clickCount = 0 := by omega
    rw [buttonIsr_first now none]
    refine ⟨by simp [none], rfl, ?_, by simp [modTimer]⟩
    simp only [none]

end

end ToySystem.Drivers.Click
