import ToySystem.Machine.Motors

namespace ToySystem.Server

open ToySystem.Drivers ToySystem.Kernel ToySystem.Machine

/-! # The engine thread

`engine_thread` of `system/system_server.c`, one message at a time.
-/

def messageIdEngine : UInt32 := 2
def leftMotor : UInt32 := 0
def rightMotor : UInt32 := 1

/- What `engine_thread` reads of a `robot_message_t`. -/
structure EngineMessage where
  id : UInt32
  motorId : UInt32
  speed : UInt32
deriving DecidableEq, Repr

namespace EngineMessage

def addressee (msg : EngineMessage) : Option Motor :=
  if msg.id = messageIdEngine then
    if msg.motorId = leftMotor then some .motor1
    else if msg.motorId = rightMotor then some .motor2
    else none
  else none

def motorNumber : Motor → UInt32
  | .motor1 => leftMotor
  | .motor2 => rightMotor

theorem addressee_iff {msg : EngineMessage} {motor : Motor} :
    msg.addressee = some motor ↔ msg.id = messageIdEngine ∧ msg.motorId = motorNumber motor := by
  have different : rightMotor ≠ leftMotor := by decide
  unfold addressee
  split
  · rename_i engine
    cases motor with
    | motor1 => simp [engine, motorNumber]
    | motor2 =>
        simp only [engine, motorNumber, true_and]
        split
        · rename_i left
          simp [left, Ne.symm different]
        · simp
  · rename_i other
    simp [other]

end EngineMessage

section

variable {W : Type} (device : DeviceFile W) (fuel : Nat)

/-- The body of the loop.  The unsigned speed is passed on as an `int`. -/
def engineThread (msg : EngineMessage) (motors : Motors W) : Except Halt (Motors W) :=
  if msg.id = messageIdEngine ∧ msg.motorId = leftMotor then
    if msg.speed = 0 then haltLeftMotor device fuel motors
    else setLeftMotorSpeed device fuel msg.speed.toInt32 motors
  else if msg.id = messageIdEngine ∧ msg.motorId = rightMotor then
    if msg.speed = 0 then haltRightMotor device fuel motors
    else setRightMotorSpeed device fuel msg.speed.toInt32 motors
  else .ok motors

def engineThreadLoop (msgs : List EngineMessage) (motors : Motors W) : Except Halt (Motors W) :=
  msgs.foldlM (fun motors msg => engineThread device fuel msg motors) motors

theorem engineThread_eq (msg : EngineMessage) (motors : Motors W) :
    engineThread device fuel msg motors =
      match msg.addressee with
      | none => .ok motors
      | some motor =>
          if msg.speed = 0 then haltObject device fuel motor motors
          else setObjectSpeed device fuel motor msg.speed.toInt32 motors := by
  simp only [engineThread, EngineMessage.addressee]
  by_cases engine : msg.id = messageIdEngine
  · by_cases left : msg.motorId = leftMotor
    · simp [engine, left, haltLeftMotor, setLeftMotorSpeed]
    · by_cases right : msg.motorId = rightMotor
      · simp [engine, right, haltRightMotor, setRightMotorSpeed, show rightMotor ≠ leftMotor by decide]
      · simp [left, right]
  · simp [engine]

end

def nextSpeed (motor : Motor) (given : Option UInt32) (msg : EngineMessage) : Option UInt32 :=
  if msg.addressee = some motor then
    if msg.speed = 0 then none else some msg.speed
  else given

def lastSpeed (motor : Motor) (msgs : List EngineMessage) : Option UInt32 :=
  msgs.foldl (nextSpeed motor) none

theorem nextSpeed_ne_zero {motor : Motor} {given : Option UInt32} {msg : EngineMessage}
    (before : given ≠ some 0) : nextSpeed motor given msg ≠ some 0 := by
  unfold nextSpeed
  split
  · split
    · simp
    · simpa
  · exact before

theorem lastSpeed_ne_zero (motor : Motor) (msgs : List EngineMessage) :
    lastSpeed motor msgs ≠ some 0 := by
  have kept : ∀ given : Option UInt32, given ≠ some 0 →
      msgs.foldl (nextSpeed motor) given ≠ some 0 := by
    induction msgs with
    | nil => exact fun _ before => before
    | cons msg msgs ih => exact fun given before => ih _ (nextSpeed_ne_zero before)
  exact kept none (by simp)

def Follows {W : Type} (given : Motor → Option UInt32) (motors : Motors W) : Prop :=
  ∀ motor, StandsFor ((given motor).map UInt32.toInt32) (motors.object motor)

section

variable {W : Type} (device : DeviceFile W) (fuel : Nat)

theorem Follows.constructed (world : W) : Follows (fun _ => none) (Motors.constructed world) :=
  fun _ => .constructed

theorem Follows.addressed {msg : EngineMessage} {motor : Motor} {given : Motor → Option UInt32}
    {motors after : Motors W} (follows : Follows given motors)
    (addressed : msg.addressee = some motor)
    (stands : StandsFor ((nextSpeed motor (given motor) msg).map UInt32.toInt32)
      (after.object motor))
    (same : ∀ other, other ≠ motor → after.object other = motors.object other) :
    Follows (fun motor => nextSpeed motor (given motor) msg) after := by
  intro other
  by_cases this : other = motor
  · subst other
    exact stands
  · have notForOther : some motor ≠ some other := by simpa using Ne.symm this
    simpa [nextSpeed, addressed, notForOther, same other this] using follows other

/-- One message: no assertion of the engine fails, and the objects follow. -/
theorem engineThread_follows (msg : EngineMessage) {given : Motor → Option UInt32}
    {motors : Motors W} (follows : Follows given motors) :
    ∃ after, engineThread device (fuel + 2) msg motors = .ok after ∧
      Follows (fun motor => nextSpeed motor (given motor) msg) after := by
  rw [engineThread_eq]
  cases addressed : msg.addressee with
  | none =>
      refine ⟨motors, rfl, ?_⟩
      simpa [Follows, nextSpeed, addressed] using follows
  | some motor =>
      by_cases halt : msg.speed = 0
      · obtain ⟨after, ran, stands, same, _⟩ := haltObject_spec device fuel (follows motor)
        refine ⟨after, by simpa [halt] using ran, follows.addressed addressed ?_ same⟩
        simpa [nextSpeed, addressed, halt] using stands
      · obtain ⟨after, ran, stands, same, _⟩ :=
          setObjectSpeed_spec device fuel msg.speed.toInt32 (follows motor)
        refine ⟨after, by simpa [halt] using ran, follows.addressed addressed ?_ same⟩
        simpa [nextSpeed, addressed, halt] using stands

theorem engineThreadLoop_follows (msgs : List EngineMessage) {given : Motor → Option UInt32}
    {motors : Motors W} (follows : Follows given motors) :
    ∃ after, engineThreadLoop device (fuel + 2) msgs motors = .ok after ∧
      Follows (fun motor => msgs.foldl (nextSpeed motor) (given motor)) after := by
  induction msgs generalizing given motors with
  | nil => exact ⟨motors, rfl, follows⟩
  | cons msg msgs ih =>
      obtain ⟨next, ran, nextFollows⟩ := engineThread_follows device fuel msg follows
      obtain ⟨after, rest, afterFollows⟩ := ih nextFollows
      refine ⟨after, ?_, afterFollows⟩
      rw [engineThreadLoop, List.foldlM_cons, ran]
      exact rest

theorem toInt32_eq_zero {value : UInt32} : value.toInt32 = 0 ↔ value = 0 := by
  constructor
  · intro zero
    have back : value.toInt32.toUInt32 = Int32.toUInt32 0 := congrArg Int32.toUInt32 zero
    rw [UInt32.toUInt32_toInt32] at back
    exact back
  · rintro rfl
    rfl

theorem standsFor_visible {given : Option UInt32} {object : MotorObject}
    (stands : StandsFor (given.map UInt32.toInt32) object) (nonzero : given ≠ some 0) :
    (object.machine.currentState = stIdle ∨ object.machine.currentState = stStart ∨
        object.machine.currentState = stChangeSpeed) ∧
      object.machine.eventGenerated = false ∧ object.machine.pEventData = none ∧
      (object.currentSpeed = 0 ↔ object.machine.currentState = stIdle) ∧
      (object.machine.currentState = stIdle ↔ given = none) ∧
      (object.machine.currentState ≠ stIdle →
        some object.currentSpeed = given.map UInt32.toInt32) := by
  cases given with
  | none =>
      cases stands with
      | idle rest noSpeed =>
          exact ⟨.inl rest.current, rest.quiet, rest.empty, by simp [rest.current, noSpeed],
            ⟨fun _ => rfl, fun _ => rest.current⟩, fun away => absurd rest.current away⟩
  | some speed =>
      cases stands with
      | moving moving rest same =>
          have notIdle : object.machine.currentState ≠ stIdle := by
            rw [rest.current]
            rcases moving with rfl | rfl <;> decide
          have notZero : object.currentSpeed ≠ 0 := by
            rw [same, Ne, toInt32_eq_zero]
            simpa using nonzero
          refine ⟨.inr ?_, rest.quiet, rest.empty, ?_, ?_, fun _ => congrArg some same⟩
          · rw [rest.current]
            exact moving
          · exact ⟨fun zero => absurd zero notZero, fun idle => absurd idle notIdle⟩
          · exact ⟨fun idle => absurd idle notIdle, fun none => by cases none⟩

theorem motors_never_fault (world : W) (msgs : List EngineMessage) :
    ∃ motors, engineThreadLoop device (fuel + 2) msgs (Motors.constructed world) = .ok motors ∧
      ∀ motor,
        let object := motors.object motor
        (object.machine.currentState = stIdle ∨ object.machine.currentState = stStart ∨
            object.machine.currentState = stChangeSpeed) ∧
          object.machine.eventGenerated = false ∧ object.machine.pEventData = none ∧
          (object.currentSpeed = 0 ↔ object.machine.currentState = stIdle) ∧
          (object.machine.currentState = stIdle ↔ lastSpeed motor msgs = none) ∧
          (object.machine.currentState ≠ stIdle →
            some object.currentSpeed = (lastSpeed motor msgs).map UInt32.toInt32) := by
  obtain ⟨motors, ran, follows⟩ :=
    engineThreadLoop_follows device fuel msgs (Follows.constructed world)
  exact ⟨motors, ran, fun motor => standsFor_visible (follows motor) (lastSpeed_ne_zero motor msgs)⟩

end

end ToySystem.Server
