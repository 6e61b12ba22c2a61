import ToySystem.Server.MotorIndependence

namespace ToySystem.Server.MotorTwins

open ToySystem.Data ToySystem.Drivers ToySystem.Drivers.Engine ToySystem.Kernel ToySystem.Machine
  ToySystem.Server.MotorControl

/-! # The two motors behave alike

`LeftMotor` and `RightMotor` are given the same calls, and their timers expire
together.  The classes differ in `Idle`, where the left one halts the device once
more.
-/

/-- Between two calls, or two calls of the other kind: the calls of the class, and
the timer interrupt of the driver. -/
inductive Move where
  | setSpeed (speed : Int32)
  | halt
  | expiry
deriving DecidableEq, Repr

def motorStep (rounds : Nat) (motor : Motor) (now : Ktime) (motors : Motors EngineDriver) :
    Move → Option (Motors EngineDriver)
  | .setSpeed speed => (setObjectSpeed (engineDevice now) rounds motor speed motors).toOption
  | .halt => (haltObject (engineDevice now) rounds motor motors).toOption
  | .expiry =>
      (hrtimerExpiry motor now motors.world).map fun driver => { motors with world := driver }

/-- The same happens to both motors, to each in its own moment. -/
structure Event where
  move : Move
  leftNow : Ktime
  rightNow : Ktime

def step (rounds : Nat) (motors : Motors EngineDriver) (event : Event) :
    Option (Motors EngineDriver) :=
  (motorStep rounds .motor1 event.leftNow motors event.move).bind fun motors =>
    motorStep rounds .motor2 event.rightNow motors event.move

/-! ## The states on the way

A call may lead through several states.
-/

section

variable {Self Data : Type}

/-- The states that the rounds of `stateEngineLoop` enter. -/
def enteredInLoop (round : Bool → Config Self Data → Except Halt (Config Self Data)) :
    Nat → Bool → Config Self Data → List UInt8
  | 0, _, _ => []
  | fuel + 1, externalEvent, config =>
      if config.machine.eventGenerated then
        match round externalEvent config with
        | .error _ => []
        | .ok config => config.machine.currentState :: enteredInLoop round fuel false config
      else []

def enteredByEvent (derived : Derived Self Data) (fuel : Nat) (newState : UInt8)
    (pData : Option (EventData Data)) (config : Config Self Data) : List UInt8 :=
  if newState = eventIgnored then []
  else
    match derived.getStateMap with
    | none => []
    | some stateMap =>
        enteredInLoop (stateEngineRound derived .heapData stateMap) fuel true
          ((handOver pData config).update (.internalEvent derived.noEventData newState pData))

end

/-- The states that a transition map leads through. -/
def entered {W : Type} (derived : Derived (MotorSelf W) MotorEvent) (fuel : Nat)
    (transitions : List UInt8) (pData : Option (EventData MotorEvent))
    (config : Config (MotorSelf W) MotorEvent) : List UInt8 :=
  match transitions[config.machine.currentState.toNat]? with
  | none => []
  | some newState => enteredByEvent derived fuel newState pData config

def enteredBy (rounds : Nat) (motor : Motor) (now : Ktime) (motors : Motors EngineDriver)
    (move : Move) : List UInt8 :=
  let motorClass := motorClass (engineDevice now) motor
  match move with
  | .setSpeed speed =>
      entered motorClass.derived rounds motorClass.setSpeed
        (some ⟨.client motors.allocated, .motorData speed⟩) (motors.config motor)
  | .halt => entered motorClass.derived rounds motorClass.halt none (motors.config motor)
  | .expiry => []

/-- The motor's part of the driver, without the moment at which its timer expires. -/
structure Appearance where
  speed : Int32
  toggle : Bool
  enqueued : Bool
  running : Bool
  leds : List Bool
deriving DecidableEq, Repr

def appearance (motor : Motor) (driver : EngineDriver) : Appearance where
  speed := driver.speed motor
  toggle := (driver.vars motor).toggle
  enqueued := (driver.hrtimer motor).enqueued
  running := (driver.hrtimer motor).running
  leds := (ledPins motor).map driver.gpio

structure Image where
  currentState : UInt8
  currentSpeed : Int32
  appearance : Appearance
deriving DecidableEq, Repr

def image (motor : Motor) (motors : Motors EngineDriver) : Image where
  currentState := (motors.object motor).machine.currentState
  currentSpeed := (motors.object motor).currentSpeed
  appearance := MotorTwins.appearance motor motors.world

/-! ## What the moves do to it

Neither the motor's number nor the moment of a call is read.
-/

namespace Appearance

variable (appearance : Appearance)

def started (speed : Int32) : Appearance := { appearance with speed, enqueued := true }

def withSpeed (speed : Int32) : Appearance := { appearance with speed }

/-- A timer whose callback runs stays queued. -/
def halted : Appearance :=
  { appearance with
    enqueued := appearance.running && appearance.enqueued
    leds := appearance.leds.map fun _ => false }

def expired : Appearance :=
  let toggle := !appearance.toggle
  { appearance with
    toggle := toggle
    enqueued := true
    running := false
    leds := [toggle, toggle, !toggle, !toggle] }

def due : Bool := appearance.enqueued && !appearance.running

/-- So the halt that `LeftMotor` adds is not seen. -/
@[simp] theorem halted_halted : appearance.halted.halted = appearance.halted := by
  simp [halted]

end Appearance

section

variable {motor : Motor} (now : Ktime) (value : Int32) (driver : EngineDriver)

theorem appearance_of_driverPart {other : EngineDriver}
    (same : driverPart motor other = driverPart motor driver) :
    appearance motor other = appearance motor driver := by
  have vars := congrArg Prod.fst same
  have leds := congrArg Prod.snd same
  simp only [driverPart] at vars leds
  simp only [appearance, EngineDriver.speed, EngineDriver.hrtimer, vars, leds]

theorem appearance_motorSetSpeed :
    appearance motor (motorSetSpeed motor value driver) =
      (appearance motor driver).withSpeed value := by
  have toggle : ((motorSetSpeed motor value driver).vars motor).toggle =
      (driver.vars motor).toggle := driver.setVars_field motor motor MotorVars.toggle rfl
  have speed : (motorSetSpeed motor value driver).speed motor = value :=
    driver.setSpeed_speed motor value
  have timer : (motorSetSpeed motor value driver).hrtimer motor = driver.hrtimer motor :=
    driver.setSpeed_hrtimer motor motor value
  simp only [appearance, Appearance.withSpeed, toggle, speed, timer]
  rfl

theorem motorStartSpeed_toggle :
    ((motorStartSpeed motor now value driver).vars motor).toggle = (driver.vars motor).toggle := by
  have speedKept : ((driver.setSpeed motor value).vars motor).toggle =
      (driver.vars motor).toggle := driver.setVars_field motor motor MotorVars.toggle rfl
  rw [motorStartSpeed, EngineDriver.setHrtimer_toggle]
  split
  · rw [EngineDriver.setHrtimer_toggle, speedKept]
  · exact speedKept

theorem appearance_motorStartSpeed :
    appearance motor (motorStartSpeed motor now value driver) =
      (appearance motor driver).started value := by
  simp only [appearance, Appearance.started, motorStartSpeed_toggle, motorStartSpeed_speed,
    motorStartSpeed_hrtimer, motorStartSpeed_gpio]

theorem appearance_motorHalt :
    appearance motor (motorHalt motor driver) = (appearance motor driver).halted := by
  have toggle : ((motorHalt motor driver).vars motor).toggle = (driver.vars motor).toggle :=
    driver.setVars_field motor motor MotorVars.toggle rfl
  have timer : (motorHalt motor driver).hrtimer motor =
      (hrtimerTryToCancel (driver.hrtimer motor)).1 :=
    driver.setHrtimer_hrtimer motor _
  have dark : (ledPins motor).map (motorHalt motor driver).gpio =
      ((ledPins motor).map driver.gpio).map fun _ => false := by
    rw [List.map_map]
    exact List.map_congr_left (motorHalt_ledsOff driver)
  simp only [appearance, Appearance.halted, toggle, motorHalt_speed, timer, dark,
    hrtimerTryToCancel_enqueued, hrtimerTryToCancel_running]

theorem leds_toggleWrites (toggle : Bool) (gpio : Gpio) :
    (ledPins motor).map (gpioWrite (toggleWrites motor toggle) gpio) =
      [toggle, toggle, !toggle, !toggle] := by
  cases motor with
  | motor1 => cases toggle <;> rfl
  | motor2 => cases toggle <;> rfl

theorem expired_toggle :
    ((expired motor now driver).vars motor).toggle = !(driver.vars motor).toggle := by
  simp only [expired, timerCallback_eq, motorTimerCallback, EngineDriver.setHrtimer_toggle,
    EngineDriver.write_vars, EngineDriver.setToggle, EngineDriver.setVars, if_pos]

theorem appearance_hrtimerExpiry {after : EngineDriver}
    (isExpiry : hrtimerExpiry motor now driver = some after) :
    appearance motor after = (appearance motor driver).expired := by
  obtain ⟨_, queued, idle, _, speed⟩ := hrtimerExpiry_cases now driver isExpiry
  obtain ⟨_, rfl⟩ := (hrtimerExpiry_eq_some now).mp isExpiry
  have leds : (ledPins motor).map (expired motor now driver).gpio =
      [!(driver.vars motor).toggle, !(driver.vars motor).toggle, !!(driver.vars motor).toggle,
        !!(driver.vars motor).toggle] := by
    have entered := driver.setHrtimer_toggle motor motor
      (hrtimerEnterCallback (driver.hrtimer motor))
    rw [expired, timerCallback_eq, ← entered]
    exact leds_toggleWrites _ _
  simp only [appearance, Appearance.expired, expired_toggle, leds, speed, queued, idle]

end

namespace Image

/-- `none` where the timer is not due. -/
def after : Move → Image → Option Image
  | .setSpeed speed, image =>
      if image.currentState = stIdle then
        some ⟨stStart, speed, image.appearance.started speed⟩
      else some ⟨stChangeSpeed, speed, image.appearance.withSpeed speed⟩
  | .halt, image =>
      if image.currentState = stIdle then some image
      else some ⟨stIdle, 0, image.appearance.halted⟩
  | .expiry, image =>
      if image.appearance.due then some { image with appearance := image.appearance.expired }
      else none

def entered : Move → Image → List UInt8
  | .setSpeed _, image => if image.currentState = stIdle then [stStart] else [stChangeSpeed]
  | .halt, image => if image.currentState = stIdle then [] else [stStop, stIdle]
  | .expiry, _ => []

end Image

section

variable {motor : Motor} {motors next : Motors EngineDriver} (now : Ktime) (fuel : Nat)

theorem appearance_haltEffect (driver : EngineDriver) :
    appearance motor (haltEffect (engineDevice now) motor driver) =
      (appearance motor driver).halted := by
  obtain ⟨before, effect, same | halted⟩ := haltEffect_engineDevice driver
  · rw [effect, same, appearance_motorHalt]
  · rw [effect, halted, appearance_motorHalt, appearance_motorHalt, Appearance.halted_halted]

/-- The move was made, and nothing of the other motor changed. -/
structure Moved (motor : Motor) (move : Move) (before next : Motors EngineDriver) : Prop where
  stands : ∃ given, StandsFor given (next.object motor)
  seen : (image motor before).after move = some (image motor next)
  objects : ∀ other, other ≠ motor → next.object other = before.object other
  driver : ∀ other, other ≠ motor → driverPart other next.world = driverPart other before.world

theorem setSpeed_moved (speed : Int32) {given : Option Int32}
    (stands : StandsFor given (motors.object motor)) :
    ∃ next, motorStep (fuel + 2) motor now motors (.setSpeed speed) = some next ∧
      Moved motor (.setSpeed speed) motors next := by
  obtain ⟨next, ran, stand, same, world⟩ :=
    setObjectSpeed_spec (engineDevice now) fuel speed stands
  have responded := world.trans (speedRequest_engineDevice given speed motors.world)
  have rest := setObjectSpeed_rest (engineDevice now) fuel stands ran
  have idle := idle_iff stands
  refine ⟨next, congrArg Except.toOption ran, ⟨some speed, stand⟩, ?_, same, ?_⟩
  · cases given with
    | none =>
        have seen : image motor next =
            ⟨stStart, speed, (appearance motor motors.world).started speed⟩ := by
          rw [image, responded, speedResponse, appearance_motorStartSpeed, standsFor_speed stand,
            rest.current, speedState]
        rw [seen]
        exact if_pos (idle.mpr rfl)
    | some before =>
        have seen : image motor next =
            ⟨stChangeSpeed, speed, (appearance motor motors.world).withSpeed speed⟩ := by
          rw [image, responded, speedResponse, appearance_motorSetSpeed, standsFor_speed stand,
            rest.current, speedState]
        rw [seen]
        exact if_neg fun isIdle => Option.some_ne_none before (idle.mp isIdle)
  · intro other different
    rw [responded]
    exact (local_speedResponse now speed given).others other different motors.world

theorem halt_moved {given : Option Int32} (stands : StandsFor given (motors.object motor)) :
    ∃ next, motorStep (fuel + 2) motor now motors .halt = some next ∧
      Moved motor .halt motors next := by
  obtain ⟨next, ran, stand, same, world⟩ := haltObject_spec (engineDevice now) fuel stands
  have idle := idle_iff stands
  refine ⟨next, congrArg Except.toOption ran, ⟨none, stand⟩, ?_, same, ?_⟩
  · obtain ⟨rest, noSpeed⟩ := stand
    cases given with
    | none =>
        cases stands with
        | idle restBefore noSpeedBefore =>
            have seen : image motor next = image motor motors := by
              rw [image, image, world, rest.current, restBefore.current, noSpeed, noSpeedBefore]
              rfl
            rw [seen]
            exact if_pos (idle.mpr rfl)
    | some before =>
        have seen : image motor next = ⟨stIdle, 0, (appearance motor motors.world).halted⟩ := by
          rw [image, world, haltResponse, appearance_haltEffect, noSpeed, rest.current]
        rw [seen]
        exact if_neg fun isIdle => Option.some_ne_none before (idle.mp isIdle)
  · intro other different
    rw [world]
    exact (local_haltResponse now given).others other different motors.world

theorem expiry_moved (stands : ∃ given, StandsFor given (motors.object motor))
    (stepped : motorStep (fuel + 2) motor now motors .expiry = some next) :
    Moved motor .expiry motors next := by
  obtain ⟨driver, isExpiry, rfl⟩ := Option.map_eq_some_iff.mp stepped
  have after := appearance_hrtimerExpiry now motors.world isExpiry
  obtain ⟨due, rfl⟩ := (hrtimerExpiry_eq_some now).mp isExpiry
  refine ⟨stands, ?_, fun _ _ => rfl, ?_⟩
  · have seen : image motor { motors with world := expired motor now motors.world } =
        { image motor motors with appearance := (appearance motor motors.world).expired } := by
      rw [image, after]
      rfl
    rw [seen]
    exact if_pos due
  · exact fun other different => (local_expired now).others other different motors.world

/-- A move is possible exactly if the image says so, and then does what it says. -/
theorem motorStep_spec (move : Move) (stands : ∃ given, StandsFor given (motors.object motor)) :
    (motorStep (fuel + 2) motor now motors move = none ∧ (image motor motors).after move = none) ∨
      ∃ next, motorStep (fuel + 2) motor now motors move = some next ∧
        Moved motor move motors next := by
  cases move with
  | setSpeed speed =>
      obtain ⟨given, stand⟩ := stands
      exact .inr (setSpeed_moved now fuel speed stand)
  | halt =>
      obtain ⟨given, stand⟩ := stands
      exact .inr (halt_moved now fuel stand)
  | expiry =>
      cases stepped : motorStep (fuel + 2) motor now motors .expiry with
      | some next => exact .inr ⟨next, rfl, expiry_moved now fuel stands stepped⟩
      | none =>
          have notExpired := Option.map_eq_none_iff.mp stepped
          refine .inl ⟨rfl, if_neg fun due => ?_⟩
          have isExpiry := (hrtimerExpiry_eq_some now).mpr ⟨due, rfl⟩
          exact Option.some_ne_none _ (isExpiry.symm.trans notExpired)

theorem Moved.image_other {move : Move} (moved : Moved motor move motors next) {other : Motor}
    (different : other ≠ motor) : image other next = image other motors := by
  have object := moved.objects other different
  have seen := appearance_of_driverPart motors.world (moved.driver other different)
  simp only [image, object, seen]

/-! The states on the way are as the image says. -/

section

variable {W : Type} (device : DeviceFile W) (motor : Motor) (fuel pData : Nat) (speed : Int32)
  {config : Config (MotorSelf W) MotorEvent} {state : UInt8}

theorem entered_setSpeed_idle (rest : AtRest stIdle config.machine) :
    entered (motorClass device motor).derived (fuel + 2) (motorClass device motor).setSpeed
      (some ⟨.client pData, .motorData speed⟩) config = [stStart] := by
  obtain ⟨⟨currentState, newState, eventGenerated, pEventData, nextAddress, history⟩, self⟩ := config
  obtain ⟨rfl, rfl, rfl⟩ := rest
  cases motor with
  | motor1 => rfl
  | motor2 => rfl

theorem entered_setSpeed_moving (moving : state = stStart ∨ state = stChangeSpeed)
    (rest : AtRest state config.machine) :
    entered (motorClass device motor).derived (fuel + 2) (motorClass device motor).setSpeed
      (some ⟨.client pData, .motorData speed⟩) config = [stChangeSpeed] := by
  obtain ⟨⟨currentState, newState, eventGenerated, pEventData, nextAddress, history⟩, self⟩ := config
  obtain ⟨rfl, rfl, rfl⟩ := rest
  rcases moving with rfl | rfl
  · cases motor with
    | motor1 => rfl
    | motor2 => rfl
  · cases motor with
    | motor1 => rfl
    | motor2 => rfl

theorem entered_halt_idle (rest : AtRest stIdle config.machine) :
    entered (motorClass device motor).derived (fuel + 2) (motorClass device motor).halt none config =
      [] := by
  obtain ⟨⟨currentState, newState, eventGenerated, pEventData, nextAddress, history⟩, self⟩ := config
  obtain ⟨rfl, rfl, rfl⟩ := rest
  cases motor with
  | motor1 => rfl
  | motor2 => rfl

theorem entered_halt_moving (moving : state = stStart ∨ state = stChangeSpeed)
    (rest : AtRest state config.machine) :
    entered (motorClass device motor).derived (fuel + 2) (motorClass device motor).halt none config =
      [stStop, stIdle] := by
  obtain ⟨⟨currentState, newState, eventGenerated, pEventData, nextAddress, history⟩, self⟩ := config
  obtain ⟨rfl, rfl, rfl⟩ := rest
  rcases moving with rfl | rfl
  · cases motor <;> cases fuel <;> rfl
  · cases motor <;> cases fuel <;> rfl

end

theorem enteredBy_eq (move : Move) (stands : ∃ given, StandsFor given (motors.object motor)) :
    enteredBy (fuel + 2) motor now motors move = (image motor motors).entered move := by
  obtain ⟨given, stand⟩ := stands
  have idle := idle_iff stand
  cases stand with
  | idle rest noSpeed =>
      have isIdle : (image motor motors).currentState = stIdle := rest.current
      cases move with
      | setSpeed speed =>
          rw [Image.entered, if_pos isIdle]
          exact entered_setSpeed_idle (engineDevice now) motor fuel motors.allocated speed rest
      | halt =>
          rw [Image.entered, if_pos isIdle]
          exact entered_halt_idle (engineDevice now) motor fuel rest
      | expiry => rfl
  | moving moving rest speed =>
      have away : (image motor motors).currentState ≠ stIdle :=
        fun isIdle => Option.some_ne_none _ (idle.mp isIdle)
      cases move with
      | setSpeed speed =>
          rw [Image.entered, if_neg away]
          exact entered_setSpeed_moving (engineDevice now) motor fuel motors.allocated speed moving
            rest
      | halt =>
          rw [Image.entered, if_neg away]
          exact entered_halt_moving (engineDevice now) motor fuel moving rest
      | expiry => rfl

end

/-- The simulation: both objects rest between the calls, and show the same. -/
structure Alike (motors : Motors EngineDriver) : Prop where
  stands : ∀ motor, ∃ given, StandsFor given (motors.object motor)
  same : image .motor1 motors = image .motor2 motors

theorem Image.after_none {move : Move} {image : Image} (stuck : image.after move = none) :
    move = .expiry := by
  cases move with
  | setSpeed speed =>
      by_cases idle : image.currentState = stIdle
      · simp [Image.after, idle] at stuck
      · simp [Image.after, idle] at stuck
  | halt =>
      by_cases idle : image.currentState = stIdle
      · simp [Image.after, idle] at stuck
      · simp [Image.after, idle] at stuck
  | expiry => rfl

section

variable {fuel : Nat} {motors middle after : Motors EngineDriver} {leftNow rightNow : Ktime}
  {move : Move}

theorem Moved.of_step {motor : Motor} {now : Ktime} {next : Motors EngineDriver}
    (stands : ∃ given, StandsFor given (motors.object motor))
    (stepped : motorStep (fuel + 2) motor now motors move = some next) :
    Moved motor move motors next := by
  rcases motorStep_spec now fuel move stands with ⟨stuck, _⟩ | ⟨_, went, moved⟩
  · exact absurd (stepped.symm.trans stuck) (Option.some_ne_none next)
  · cases Option.some.inj (stepped.symm.trans went)
    exact moved

/-- The left motor has made a move that the right one still has to make. -/
structure Ahead (move : Move) (motors middle : Motors EngineDriver) : Prop where
  stands : ∀ motor, ∃ given, StandsFor given (middle.object motor)
  left : (image .motor1 motors).after move = some (image .motor1 middle)
  right : image .motor2 middle = image .motor1 motors

theorem Alike.left (alike : Alike motors)
    (stepped : motorStep (fuel + 2) .motor1 leftNow motors move = some middle) :
    Ahead move motors middle := by
  have moved := Moved.of_step (alike.stands .motor1) stepped
  have different : Motor.motor2 ≠ .motor1 := by simp
  refine ⟨?_, moved.seen, (moved.image_other different).trans alike.same.symm⟩
  intro motor
  cases motor with
  | motor1 => exact moved.stands
  | motor2 =>
      rw [moved.objects .motor2 different]
      exact alike.stands .motor2

theorem Ahead.possible (ahead : Ahead move motors middle) :
    ∃ after, motorStep (fuel + 2) .motor2 rightNow middle move = some after := by
  rcases motorStep_spec rightNow fuel move (ahead.stands .motor2) with ⟨_, stuck⟩ | ⟨after, went, _⟩
  · rw [ahead.right, ahead.left] at stuck
    exact absurd stuck (Option.some_ne_none _)
  · exact ⟨after, went⟩

theorem Ahead.right_step (ahead : Ahead move motors middle)
    (stepped : motorStep (fuel + 2) .motor2 rightNow middle move = some after) : Alike after := by
  have moved := Moved.of_step (ahead.stands .motor2) stepped
  have different : Motor.motor1 ≠ .motor2 := by simp
  refine ⟨?_, ?_⟩
  · intro motor
    cases motor with
    | motor1 =>
        rw [moved.objects .motor1 different]
        exact ahead.stands .motor1
    | motor2 => exact moved.stands
  · have seen := moved.seen
    rw [ahead.right, ahead.left] at seen
    rw [moved.image_other different]
    exact Option.some.inj seen

theorem Alike.step {event : Event} (alike : Alike motors)
    (stepped : step (fuel + 2) motors event = some after) : Alike after := by
  obtain ⟨middle, left, right⟩ := Option.bind_eq_some_iff.mp stepped
  exact (alike.left left).right_step right

theorem Alike.stuck (alike : Alike motors)
    (stuck : motorStep (fuel + 2) .motor1 leftNow motors move = none) :
    move = .expiry ∧ motorStep (fuel + 2) .motor2 rightNow motors move = none := by
  rcases motorStep_spec leftNow fuel move (alike.stands .motor1) with ⟨_, notAfter⟩ | ⟨_, went, _⟩
  · refine ⟨Image.after_none notAfter, ?_⟩
    rw [alike.same] at notAfter
    rcases motorStep_spec rightNow fuel move (alike.stands .motor2) with ⟨none, _⟩ | ⟨_, _, moved⟩
    · exact none
    · exact absurd (notAfter.symm.trans moved.seen).symm (Option.some_ne_none _)
  · exact absurd (went.symm.trans stuck) (Option.some_ne_none _)

theorem Alike.entered (alike : Alike motors) (ahead : Ahead move motors middle) :
    enteredBy (fuel + 2) .motor1 leftNow motors move =
      enteredBy (fuel + 2) .motor2 rightNow middle move := by
  rw [enteredBy_eq leftNow fuel move (alike.stands .motor1),
    enteredBy_eq rightNow fuel move (ahead.stands .motor2), ahead.right]

end

theorem Alike.constructed {driver : EngineDriver}
    (mirrored : appearance .motor1 driver = appearance .motor2 driver) :
    Alike (Motors.constructed driver) where
  stands _ := ⟨none, .constructed⟩
  same := congrArg (Image.mk stIdle 0) mirrored

/-- At every moment the motors show the same; a call is never refused, a timer
expires for both or for neither, and both go through the same states. -/
theorem motors_alike (fuel : Nat) {driver : EngineDriver}
    (mirrored : appearance .motor1 driver = appearance .motor2 driver) (events : List Event) :
    ∀ motors ∈ visited (step (fuel + 2)) (Motors.constructed driver) events,
      image .motor1 motors = image .motor2 motors ∧
        ∀ event : Event,
          (motorStep (fuel + 2) .motor1 event.leftNow motors event.move = none →
            event.move = .expiry ∧
              motorStep (fuel + 2) .motor2 event.rightNow motors event.move = none) ∧
          ∀ middle, motorStep (fuel + 2) .motor1 event.leftNow motors event.move = some middle →
            (∃ after, motorStep (fuel + 2) .motor2 event.rightNow middle event.move = some after) ∧
              enteredBy (fuel + 2) .motor1 event.leftNow motors event.move =
                enteredBy (fuel + 2) .motor2 event.rightNow middle event.move := by
  have always : ∀ motors ∈ visited (step (fuel + 2)) (Motors.constructed driver) events,
      Alike motors :=
    visited_always (Alike.constructed mirrored) fun _ _ _ alike stepped => alike.step stepped
  intro motors onRun
  have alike := always motors onRun
  refine ⟨alike.same, fun event => ⟨alike.stuck, ?_⟩⟩
  intro middle left
  have ahead := alike.left left
  exact ⟨ahead.possible, alike.entered ahead⟩

def twinEvents : List Event :=
  [⟨.setSpeed 40, 0, 3⟩, ⟨.expiry, 9, 12⟩, ⟨.setSpeed 70, 20, 20⟩, ⟨.halt, 30, 31⟩, ⟨.halt, 32, 33⟩,
    ⟨.setSpeed (-5), 40, 41⟩]

theorem motors_alike_fromInit :
    (run (step 2) (Motors.constructed (toyModuleInit fun _ => 0)) twinEvents).isSome = true ∧
      ∀ motors ∈ visited (step 2) (Motors.constructed (toyModuleInit fun _ => 0)) twinEvents,
        image .motor1 motors = image .motor2 motors :=
  ⟨rfl, fun motors onRun => (motors_alike 0 rfl twinEvents motors onRun).1⟩

end ToySystem.Server.MotorTwins
