import ToySystem.Libc.Decimal
import ToySystem.Machine.Motors

namespace ToySystem.Ui

open ToySystem.Drivers ToySystem.Drivers.Engine ToySystem.Kernel ToySystem.Libc
  ToySystem.Machine

/-! # The motor commands of the shell

`m1` and `m2` of `ui/input.c`.  The file has request codes of its own.
-/

def motor1SetSpeed : UInt32 := iowInt32Pointer 'w' '1'
def motor2SetSpeed : UInt32 := iowInt32Pointer 'w' '2'

section

variable {W : Type} (device : DeviceFile W)

/-- The body of both commands; the result keeps the shell running. -/
def toySetMotorSpeed (request : UInt32) (args : List (List Char)) (world : W) : W × Int :=
  match args[1]? with
  | none => (world, 1)
  | some text =>
      let speed := atoi text
      let speed := if speed > 100 then 100 else speed
      (device.call request speed world, 1)

def toySetMotor1Speed : List (List Char) → W → W × Int := toySetMotorSpeed device motor1SetSpeed
def toySetMotor2Speed : List (List Char) → W → W × Int := toySetMotorSpeed device motor2SetSpeed

def toySetSpeed : Motor → List (List Char) → W → W × Int
  | .motor1 => toySetMotor1Speed device
  | .motor2 => toySetMotor2Speed device

end

/-- The speed the shell passes on: only too large ones are corrected. -/
def shellSpeed (text : List Char) : Int32 := if atoi text > 100 then 100 else atoi text

section

variable (now : Ktime) (motor : Motor) (command text : List Char) (rest : List (List Char))
  (driver : EngineDriver)

theorem toySetSpeed_starts :
    (toySetSpeed (engineDevice now) motor (command :: text :: rest) driver).1 =
      motorStartSpeed motor now (shellSpeed text) driver := by
  cases motor with
  | motor1 => exact congrArg Prod.fst (toyIoctl_startSpeed now .motor1 (shellSpeed text) driver)
  | motor2 => exact congrArg Prod.fst (toyIoctl_startSpeed now .motor2 (shellSpeed text) driver)

theorem setMotorSpeed_sets (speed currentSpeed : Int32) :
    (setMotorSpeed (engineDevice now) (motorRequests motor) speed ⟨currentSpeed, driver⟩).world =
      motorSetSpeed motor speed driver := by
  cases motor with
  | motor1 => exact congrArg Prod.fst (toyIoctl_setSpeed now .motor1 speed driver)
  | motor2 => exact congrArg Prod.fst (toyIoctl_setSpeed now .motor2 speed driver)

end

/-- The shell command and the motor object have the same effect on the driver,
and it is a new speed for one motor and nothing else. -/
def PathsAgree (now : Ktime) (motor : Motor) (args : List (List Char)) (speed currentSpeed : Int32)
    (driver : EngineDriver) : Prop :=
  let shell := (toySetSpeed (engineDevice now) motor args driver).1
  shell = (setMotorSpeed (engineDevice now) (motorRequests motor) speed
      ⟨currentSpeed, driver⟩).world ∧
    shell = driver.setSpeed motor speed

/-- They never agree: the shell counts one more start of the timer. -/
theorem paths_never_agree (now : Ktime) (motor : Motor) (command text : List Char)
    (rest : List (List Char)) (currentSpeed : Int32) (driver : EngineDriver) :
    ¬ PathsAgree now motor (command :: text :: rest) (atoi text) currentSpeed driver := by
  rintro ⟨same, _⟩
  rw [toySetSpeed_starts, setMotorSpeed_sets, motorSetSpeed] at same
  have starts := congrArg (fun after => (EngineDriver.hrtimer after motor).starts) same
  simp only [motorStartSpeed_hrtimer, EngineDriver.setSpeed_hrtimer] at starts
  omega

/-- A motor whose timer was cancelled: the shell sets it going, the object does not. -/
theorem m1_starts_stopped_motor :
    let stopped := motorHalt .motor1 (toyModuleInit fun _ => 0)
    let shell := (toySetMotor1Speed (engineDevice 0) ["m1".toList, "50".toList] stopped).1
    let object := (setMotorSpeed (engineDevice 0) LeftMotor.requests 50 ⟨50, stopped⟩).world
    hrtimerActive (shell.hrtimer .motor1) = true ∧ hrtimerActive (object.hrtimer .motor1) = false ∧
      atoi "50".toList = 50 ∧ ¬ PathsAgree 0 .motor1 ["m1".toList, "50".toList] 50 50 stopped := by
  refine ⟨by decide, by decide, by decide, ?_⟩
  rintro ⟨same, _⟩
  have active := congrArg (fun after => hrtimerActive (EngineDriver.hrtimer after .motor1)) same
  exact absurd active (by decide)

end ToySystem.Ui
