import ToySystem.Drivers.Engine
import ToySystem.Kernel.Device
import ToySystem.Machine.StateMachine

namespace ToySystem.Machine

open ToySystem.Drivers ToySystem.Kernel

/-! # The two motors

`engine/LeftMotor.cpp`, `engine/RightMotor.cpp` and `engine/Engine.cpp`.  The
calls to the device node go to a `DeviceFile` over some world `W`; what is
printed is left out.
-/

/- `EventData`, which is also `NoEventData`, and the derived class `MotorData`. -/
inductive MotorEvent where
  | noEventData
  | motorData (speed : Int32)
deriving DecidableEq, Repr

structure MotorSelf (W : Type) where
  currentSpeed : Int32
  world : W

structure MotorRequests where
  startSpeed : UInt32
  setSpeed : UInt32
  halt : UInt32

def stIdle : UInt8 := 0
def stStop : UInt8 := 1
def stStart : UInt8 := 2
def stChangeSpeed : UInt8 := 3
def stMaxStates : UInt8 := 4

section

variable {W : Type} (device : DeviceFile W) (requests : MotorRequests)

def startMotorSpeed (speed : Int32) (self : MotorSelf W) : MotorSelf W :=
  { self with world := device.call requests.startSpeed speed self.world }

def setMotorSpeed (speed : Int32) (self : MotorSelf W) : MotorSelf W :=
  { self with world := device.call requests.setSpeed speed self.world }

def haltMotor (self : MotorSelf W) : MotorSelf W :=
  { self with world := device.call requests.halt 0 self.world }

/-! The states that both classes define alike.  A cast of the event data to
`MotorData` fails on a plain `EventData`. -/

def stopState : StateBase (MotorSelf W) MotorEvent := fun self _ =>
  some (haltMotor device requests { self with currentSpeed := 0 }, [⟨stIdle, none⟩])

def startState : StateBase (MotorSelf W) MotorEvent := fun self data =>
  match data with
  | .noEventData => none
  | .motorData speed =>
      some (startMotorSpeed device requests speed { self with currentSpeed := speed }, [])

def changeSpeedState : StateBase (MotorSelf W) MotorEvent := fun self data =>
  match data with
  | .noEventData => none
  | .motorData speed =>
      some (setMotorSpeed device requests speed { self with currentSpeed := speed }, [])

end

structure MotorClass (W : Type) where
  derived : Derived (MotorSelf W) MotorEvent
  setSpeed : List UInt8
  halt : List UInt8

namespace LeftMotor

def requests : MotorRequests where
  startSpeed := iowInt32Pointer 'w' '1'
  setSpeed := iowInt32Pointer 'w' '3'
  halt := iowInt32Pointer 'w' '5'

section

variable {W : Type} (device : DeviceFile W)

def idle : StateBase (MotorSelf W) MotorEvent := fun self _ =>
  some (haltMotor device requests { self with currentSpeed := 0 }, [])

def stop : StateBase (MotorSelf W) MotorEvent := stopState device requests
def start : StateBase (MotorSelf W) MotorEvent := startState device requests
def changeSpeed : StateBase (MotorSelf W) MotorEvent := changeSpeedState device requests

def motorClass : MotorClass W where
  derived := {
    maxStates := stMaxStates
    noEventData := .noEventData
    getStateMap := some
      [⟨some (idle device)⟩, ⟨some (stop device)⟩, ⟨some (start device)⟩,
        ⟨some (changeSpeed device)⟩]
    getStateMapEx := none }
  setSpeed := [stStart, cannotHappen, stChangeSpeed, stChangeSpeed]
  halt := [eventIgnored, cannotHappen, stStop, stStop]

end

end LeftMotor

namespace RightMotor

def requests : MotorRequests where
  startSpeed := iowInt32Pointer 'w' '2'
  setSpeed := iowInt32Pointer 'w' '4'
  halt := iowInt32Pointer 'w' '6'

section

variable {W : Type} (device : DeviceFile W)

/- Unlike `LeftMotor::Idle`, this one neither resets the speed nor halts the motor. -/
def idle : StateBase (MotorSelf W) MotorEvent := fun self _ => some (self, [])

def stop : StateBase (MotorSelf W) MotorEvent := stopState device requests
def start : StateBase (MotorSelf W) MotorEvent := startState device requests
def changeSpeed : StateBase (MotorSelf W) MotorEvent := changeSpeedState device requests

def motorClass : MotorClass W where
  derived := {
    maxStates := stMaxStates
    noEventData := .noEventData
    getStateMap := some
      [⟨some idle⟩, ⟨some (stop device)⟩, ⟨some (start device)⟩, ⟨some (changeSpeed device)⟩]
    getStateMapEx := none }
  setSpeed := [stStart, cannotHappen, stChangeSpeed, stChangeSpeed]
  halt := [eventIgnored, cannotHappen, stStop, stStop]

end

end RightMotor

section

variable {W : Type} (device : DeviceFile W)

/- `lmotor` drives the first motor of the device, `rmotor` the second. -/
def motorClass : Motor → MotorClass W
  | .motor1 => LeftMotor.motorClass device
  | .motor2 => RightMotor.motorClass device

def motorRequests : Motor → MotorRequests
  | .motor1 => LeftMotor.requests
  | .motor2 => RightMotor.requests

/-- `BEGIN_TRANSITION_MAP … END_TRANSITION_MAP(data)`, in the build with heap data. -/
def transitionMap (derived : Derived (MotorSelf W) MotorEvent) (fuel : Nat)
    (transitions : List UInt8) (pData : Option (EventData MotorEvent))
    (config : Config (MotorSelf W) MotorEvent) : Except Halt (Config (MotorSelf W) MotorEvent) :=
  if config.machine.currentState < stMaxStates then
    match transitions[config.machine.currentState.toNat]? with
    | none => .error .fault
    | some newState => externalEvent derived .heapData fuel newState pData config
  else .error .fault

end

structure MotorObject where
  machine : StateMachine MotorEvent
  currentSpeed : Int32

def MotorObject.constructed : MotorObject where
  machine := .initial stIdle
  currentSpeed := 0

/-- The two static objects of `Engine.cpp` over the world; `allocated` counts
the `MotorData` objects made so far. -/
structure Motors (W : Type) where
  object : Motor → MotorObject
  allocated : Nat
  world : W

namespace Motors

variable {W : Type}

def constructed (world : W) : Motors W where
  object _ := .constructed
  allocated := 0
  world := world

def config (motors : Motors W) (motor : Motor) : Config (MotorSelf W) MotorEvent where
  machine := (motors.object motor).machine
  self := ⟨(motors.object motor).currentSpeed, motors.world⟩

def store (motors : Motors W) (motor : Motor) (config : Config (MotorSelf W) MotorEvent) :
    Motors W where
  object other :=
    if other = motor then ⟨config.machine, config.self.currentSpeed⟩ else motors.object other
  allocated := motors.allocated
  world := config.self.world

end Motors

section

variable {W : Type} (device : DeviceFile W) (fuel : Nat)

/-- `set_left_motor_speed` and `set_right_motor_speed`; the result is always 0. -/
def setObjectSpeed (motor : Motor) (speed : Int32) (motors : Motors W) : Except Halt (Motors W) :=
  let data : EventData MotorEvent := ⟨.client motors.allocated, .motorData speed⟩
  let motors := { motors with allocated := motors.allocated + 1 }
  let motorClass := motorClass device motor
  (transitionMap motorClass.derived fuel motorClass.setSpeed (some data)
    (motors.config motor)).map (motors.store motor)

/-- `halt_left_motor` and `halt_right_motor`. -/
def haltObject (motor : Motor) (motors : Motors W) : Except Halt (Motors W) :=
  let motorClass := motorClass device motor
  (transitionMap motorClass.derived fuel motorClass.halt none (motors.config motor)).map
    (motors.store motor)

def setLeftMotorSpeed (speed : Int32) : Motors W → Except Halt (Motors W) :=
  setObjectSpeed device fuel .motor1 speed

def setRightMotorSpeed (speed : Int32) : Motors W → Except Halt (Motors W) :=
  setObjectSpeed device fuel .motor2 speed

def haltLeftMotor : Motors W → Except Halt (Motors W) := haltObject device fuel .motor1

def haltRightMotor : Motors W → Except Halt (Motors W) := haltObject device fuel .motor2

end

/-! ## What the events do

Between two events a machine is at rest: in a state of its own, with no event
pending.  From rest each event is one or two rounds of the engine.
-/

structure AtRest (state : UInt8) (machine : StateMachine MotorEvent) : Prop where
  current : machine.currentState = state
  quiet : machine.eventGenerated = false
  empty : machine.pEventData = none

section

variable {W : Type} (device : DeviceFile W) (motor : Motor) (fuel : Nat)

theorem setSpeed_idle (pData : Nat) (speed : Int32) (config : Config (MotorSelf W) MotorEvent)
    (rest : AtRest stIdle config.machine) :
    ∃ after, transitionMap (motorClass device motor).derived (fuel + 2)
        (motorClass device motor).setSpeed (some ⟨.client pData, .motorData speed⟩) config =
          .ok after ∧
      AtRest stStart after.machine ∧
      after.self = ⟨speed, device.call (motorRequests motor).startSpeed speed config.self.world⟩ := by
  obtain ⟨⟨currentState, newState, eventGenerated, pEventData, nextAddress, history⟩, self⟩ := config
  obtain ⟨rfl, rfl, rfl⟩ := rest
  cases motor with
  | motor1 => exact ⟨_, rfl, ⟨rfl, rfl, rfl⟩, rfl⟩
  | motor2 => exact ⟨_, rfl, ⟨rfl, rfl, rfl⟩, rfl⟩

theorem setSpeed_moving (pData : Nat) (speed : Int32) (config : Config (MotorSelf W) MotorEvent)
    {state : UInt8} (moving : state = stStart ∨ state = stChangeSpeed)
    (rest : AtRest state config.machine) :
    ∃ after, transitionMap (motorClass device motor).derived (fuel + 2)
        (motorClass device motor).setSpeed (some ⟨.client pData, .motorData speed⟩) config =
          .ok after ∧
      AtRest stChangeSpeed after.machine ∧
      after.self = ⟨speed, device.call (motorRequests motor).setSpeed speed config.self.world⟩ := by
  obtain ⟨⟨currentState, newState, eventGenerated, pEventData, nextAddress, history⟩, self⟩ := config
  obtain ⟨rfl, rfl, rfl⟩ := rest
  rcases moving with rfl | rfl
  · cases motor with
    | motor1 => exact ⟨_, rfl, ⟨rfl, rfl, rfl⟩, rfl⟩
    | motor2 => exact ⟨_, rfl, ⟨rfl, rfl, rfl⟩, rfl⟩
  · cases motor with
    | motor1 => exact ⟨_, rfl, ⟨rfl, rfl, rfl⟩, rfl⟩
    | motor2 => exact ⟨_, rfl, ⟨rfl, rfl, rfl⟩, rfl⟩

theorem halt_idle (config : Config (MotorSelf W) MotorEvent)
    (rest : AtRest stIdle config.machine) :
    transitionMap (motorClass device motor).derived (fuel + 2)
      (motorClass device motor).halt none config = .ok config := by
  obtain ⟨⟨currentState, newState, eventGenerated, pEventData, nextAddress, history⟩, self⟩ := config
  obtain ⟨rfl, rfl, rfl⟩ := rest
  cases motor with
  | motor1 => rfl
  | motor2 => rfl

/-- What a halt does to the world from the moving states: `LeftMotor` halts the
device in `Stop` and again in `Idle`. -/
def haltEffect (device : DeviceFile W) : Motor → W → W
  | .motor1 => fun world =>
      device.call LeftMotor.requests.halt 0 (device.call LeftMotor.requests.halt 0 world)
  | .motor2 => device.call RightMotor.requests.halt 0

theorem halt_moving (config : Config (MotorSelf W) MotorEvent) {state : UInt8}
    (moving : state = stStart ∨ state = stChangeSpeed) (rest : AtRest state config.machine) :
    ∃ after, transitionMap (motorClass device motor).derived (fuel + 2)
        (motorClass device motor).halt none config = .ok after ∧
      AtRest stIdle after.machine ∧ after.self = ⟨0, haltEffect device motor config.self.world⟩ := by
  obtain ⟨⟨currentState, newState, eventGenerated, pEventData, nextAddress, history⟩, self⟩ := config
  obtain ⟨rfl, rfl, rfl⟩ := rest
  -- the rounds of `Stop` and `Idle` take the two, the rest of the fuel is not looked at
  rcases moving with rfl | rfl
  · cases motor <;> cases fuel <;> exact ⟨_, rfl, ⟨rfl, rfl, rfl⟩, rfl⟩
  · cases motor <;> cases fuel <;> exact ⟨_, rfl, ⟨rfl, rfl, rfl⟩, rfl⟩

end

/-! ## What a motor object stands for

Seen from outside, a motor was given a speed or was not.
-/

inductive StandsFor : Option Int32 → MotorObject → Prop
  | idle {object : MotorObject} (rest : AtRest stIdle object.machine)
      (noSpeed : object.currentSpeed = 0) : StandsFor none object
  | moving {object : MotorObject} {state : UInt8} {speed : Int32}
      (moving : state = stStart ∨ state = stChangeSpeed) (rest : AtRest state object.machine)
      (given : object.currentSpeed = speed) : StandsFor (some speed) object

theorem StandsFor.constructed : StandsFor none MotorObject.constructed :=
  .idle ⟨rfl, rfl, rfl⟩ rfl

section

variable {W : Type} (device : DeviceFile W) (fuel : Nat) {motor : Motor} {motors : Motors W}

def speedRequest (motor : Motor) : Option Int32 → UInt32
  | none => (motorRequests motor).startSpeed
  | some _ => (motorRequests motor).setSpeed

theorem Motors.store_same (config : Config (MotorSelf W) MotorEvent) :
    (motors.store motor config).object motor = ⟨config.machine, config.self.currentSpeed⟩ :=
  if_pos rfl

theorem Motors.store_other (config : Config (MotorSelf W) MotorEvent) {other : Motor}
    (different : other ≠ motor) :
    (motors.store motor config).object other = motors.object other :=
  if_neg different

def haltResponse (motor : Motor) : Option Int32 → W → W
  | none => fun world => world
  | some _ => haltEffect device motor

/-- The state in which a new speed leaves the motor. -/
def speedState : Option Int32 → UInt8
  | none => stStart
  | some _ => stChangeSpeed

theorem speedState_moving (given : Option Int32) :
    speedState given = stStart ∨ speedState given = stChangeSpeed := by
  cases given with
  | none => exact .inl rfl
  | some _ => exact .inr rfl

theorem setSpeed_from (pData : Nat) (speed : Int32) {given : Option Int32}
    (stands : StandsFor given (motors.object motor)) :
    ∃ config, transitionMap (motorClass device motor).derived (fuel + 2)
        (motorClass device motor).setSpeed (some ⟨.client pData, .motorData speed⟩)
        (motors.config motor) = .ok config ∧
      AtRest (speedState given) config.machine ∧
      config.self = ⟨speed, device.call (speedRequest motor given) speed motors.world⟩ := by
  cases stands with
  | idle rest _ => exact setSpeed_idle device motor fuel pData speed (motors.config motor) rest
  | moving moving rest _ =>
      exact setSpeed_moving device motor fuel pData speed (motors.config motor) moving rest

theorem setObjectSpeed_spec (speed : Int32) {given : Option Int32}
    (stands : StandsFor given (motors.object motor)) :
    ∃ after, setObjectSpeed device (fuel + 2) motor speed motors = .ok after ∧
      StandsFor (some speed) (after.object motor) ∧
      (∀ other, other ≠ motor → after.object other = motors.object other) ∧
      after.world = device.call (speedRequest motor given) speed motors.world := by
  obtain ⟨config, ran, rest, self⟩ :=
    setSpeed_from device fuel motors.allocated speed stands
  have stored := congrArg MotorSelf.currentSpeed self
  refine ⟨_, congrArg (Except.map _) ran, ?_, fun _ => Motors.store_other config,
    congrArg MotorSelf.world self⟩
  rw [Motors.store_same]
  exact .moving (speedState_moving given) rest stored

theorem setObjectSpeed_rest {speed : Int32} {given : Option Int32} {after : Motors W}
    (stands : StandsFor given (motors.object motor))
    (ran : setObjectSpeed device (fuel + 2) motor speed motors = .ok after) :
    AtRest (speedState given) (after.object motor).machine := by
  obtain ⟨config, transition, rest, _⟩ :=
    setSpeed_from device fuel motors.allocated speed stands
  have stored : setObjectSpeed device (fuel + 2) motor speed motors =
      .ok ({ motors with allocated := motors.allocated + 1 }.store motor config) :=
    congrArg (Except.map _) transition
  rw [stored] at ran
  cases ran
  rw [Motors.store_same]
  exact rest

theorem haltObject_spec {given : Option Int32} (stands : StandsFor given (motors.object motor)) :
    ∃ after, haltObject device (fuel + 2) motor motors = .ok after ∧
      StandsFor none (after.object motor) ∧
      (∀ other, other ≠ motor → after.object other = motors.object other) ∧
      after.world = haltResponse device motor given motors.world := by
  cases stands with
  | idle rest noSpeed =>
      have ran := halt_idle device motor fuel (motors.config motor) rest
      refine ⟨_, congrArg (Except.map _) ran, ?_, fun _ => Motors.store_other _, rfl⟩
      rw [Motors.store_same]
      exact .idle rest noSpeed
  | moving moving rest _ =>
      obtain ⟨config, ran, next, self⟩ :=
        halt_moving device motor fuel (motors.config motor) moving rest
      have noSpeed := congrArg MotorSelf.currentSpeed self
      refine ⟨_, congrArg (Except.map _) ran, ?_, fun _ => Motors.store_other config,
        congrArg MotorSelf.world self⟩
      rw [Motors.store_same]
      exact .idle next noSpeed

end

end ToySystem.Machine
