import ToySystem.Data.Run
import ToySystem.Server.EngineThread
import ToySystem.Ui.Input

namespace ToySystem.Server.MotorControl

open ToySystem.Data ToySystem.Drivers ToySystem.Drivers.Engine ToySystem.Kernel ToySystem.Libc
  ToySystem.Machine ToySystem.Ui

/-! # Everything that drives a motor

The engine thread with its two motor objects, the shell, the emergency button
and the timers, all acting on one engine driver.  The driver is the world of
the motor objects.
-/

inductive Event where
  | message (now : Ktime) (msg : EngineMessage)
  | expiry (now : Ktime) (motor : Motor)
  | emergencyStop
  | shell (now : Ktime) (motor : Motor) (args : List (List Char))

def engineRounds : Nat := 2

def step (system : Motors EngineDriver) : Event → Option (Motors EngineDriver)
  | .message now msg => (engineThread (engineDevice now) engineRounds msg system).toOption
  | .expiry now motor =>
      (hrtimerExpiry motor now system.world).map fun driver => { system with world := driver }
  | .emergencyStop => some { system with world := kGpioIrqSignalHandler system.world }
  | .shell now motor args =>
      some { system with world := (toySetSpeed (engineDevice now) motor args system.world).1 }

def boot (started : Motor → Ktime) : Motors EngineDriver := .constructed (toyModuleInit started)

/-- Both objects are at rest, and no timer callback is in the middle of its run. -/
structure Sound (system : Motors EngineDriver) : Prop where
  stands : ∀ motor, ∃ given, StandsFor given (system.object motor)
  quiet : Quiet system.world

theorem Sound.boot (started : Motor → Ktime) : Sound (boot started) where
  stands _ := ⟨none, .constructed⟩
  quiet := Quiet.toyModuleInit started

theorem idle_iff {given : Option Int32} {object : MotorObject} (stands : StandsFor given object) :
    object.machine.currentState = stIdle ↔ given = none := by
  cases stands with
  | idle rest _ => exact ⟨fun _ => rfl, fun _ => rest.current⟩
  | moving moving rest _ =>
      have away : object.machine.currentState ≠ stIdle := by
        rw [rest.current]
        rcases moving with rfl | rfl <;> decide
      exact ⟨fun idle => absurd idle away, fun none => by cases none⟩

section

variable {system after : Motors EngineDriver} {now : Ktime} {msg : EngineMessage} {motor : Motor}

theorem haltEffect_engineDevice (driver : EngineDriver) :
    ∃ before, haltEffect (engineDevice now) motor driver = motorHalt motor before ∧
      (before = driver ∨ before = motorHalt motor driver) := by
  have halted : ∀ before, (engineDevice now).call (motorRequests motor).halt 0 before =
      motorHalt motor before := by
    intro before
    cases motor with
    | motor1 => exact congrArg Prod.fst (toyIoctl_halt now .motor1 0 before)
    | motor2 => exact congrArg Prod.fst (toyIoctl_halt now .motor2 0 before)
  cases motor with
  | motor1 => exact ⟨motorHalt .motor1 driver, by rw [← halted, ← halted]; rfl, .inr rfl⟩
  | motor2 => exact ⟨driver, by rw [← halted]; rfl, .inl rfl⟩

/-- A new speed starts the motor, or only changes the speed of one on the move. -/
def speedResponse (motor : Motor) (now : Ktime) (speed : Int32) :
    Option Int32 → EngineDriver → EngineDriver
  | none => motorStartSpeed motor now speed
  | some _ => motorSetSpeed motor speed

theorem speedRequest_engineDevice (given : Option Int32) (speed : Int32) (driver : EngineDriver) :
    (engineDevice now).call (speedRequest motor given) speed driver =
      speedResponse motor now speed given driver := by
  cases given with
  | none =>
      cases motor with
      | motor1 => exact congrArg Prod.fst (toyIoctl_startSpeed now .motor1 speed driver)
      | motor2 => exact congrArg Prod.fst (toyIoctl_startSpeed now .motor2 speed driver)
  | some _ =>
      cases motor with
      | motor1 => exact congrArg Prod.fst (toyIoctl_setSpeed now .motor1 speed driver)
      | motor2 => exact congrArg Prod.fst (toyIoctl_setSpeed now .motor2 speed driver)

theorem unknown_message (unknown : msg.addressee = none)
    (stepped : step system (.message now msg) = some after) : after = system := by
  simp only [step, engineThread_eq, unknown] at stepped
  exact (Option.some.inj stepped).symm

theorem halt_step (now : Ktime) {given : Option Int32}
    (stands : StandsFor given (system.object motor))
    (addressed : msg.addressee = some motor) (halt : msg.speed = 0) :
    ∃ next, step system (.message now msg) = some next ∧
      StandsFor none (next.object motor) ∧
      (∀ other, other ≠ motor → next.object other = system.object other) ∧
      next.world = haltResponse (engineDevice now) motor given system.world := by
  obtain ⟨next, ran, spec⟩ := haltObject_spec (engineDevice now) 0 stands
  refine ⟨next, ?_, spec⟩
  simp only [step, engineThread_eq, addressed, if_pos halt, engineRounds]
  exact congrArg Except.toOption ran

theorem speed_step (now : Ktime) {given : Option Int32}
    (stands : StandsFor given (system.object motor))
    (addressed : msg.addressee = some motor) (nonzero : msg.speed ≠ 0) :
    ∃ next, step system (.message now msg) = some next ∧
      StandsFor (some msg.speed.toInt32) (next.object motor) ∧
      (∀ other, other ≠ motor → next.object other = system.object other) ∧
      next.world = speedResponse motor now msg.speed.toInt32 given system.world := by
  obtain ⟨next, ran, stand, same, world⟩ :=
    setObjectSpeed_spec (engineDevice now) 0 msg.speed.toInt32 stands
  refine ⟨next, ?_, stand, same, world.trans (speedRequest_engineDevice given _ _)⟩
  simp only [step, engineThread_eq, addressed, if_neg nonzero, engineRounds]
  exact congrArg Except.toOption ran

theorem halt_message {given : Option Int32} (stands : StandsFor given (system.object motor))
    (addressed : msg.addressee = some motor) (halt : msg.speed = 0)
    (stepped : step system (.message now msg) = some after) :
    StandsFor none (after.object motor) ∧
      (∀ other, other ≠ motor → after.object other = system.object other) ∧
      after.world = haltResponse (engineDevice now) motor given system.world := by
  obtain ⟨next, ran, spec⟩ := halt_step now stands addressed halt
  rw [ran] at stepped
  cases Option.some.inj stepped
  exact spec

theorem speed_message {given : Option Int32} (stands : StandsFor given (system.object motor))
    (addressed : msg.addressee = some motor) (nonzero : msg.speed ≠ 0)
    (stepped : step system (.message now msg) = some after) :
    StandsFor (some msg.speed.toInt32) (after.object motor) ∧
      (∀ other, other ≠ motor → after.object other = system.object other) ∧
      after.world = speedResponse motor now msg.speed.toInt32 given system.world := by
  obtain ⟨next, ran, spec⟩ := speed_step now stands addressed nonzero
  rw [ran] at stepped
  cases Option.some.inj stepped
  exact spec

theorem shell_world (args : List (List Char)) (driver : EngineDriver) :
    (toySetSpeed (engineDevice now) motor args driver).1 =
      match args[1]? with
      | none => driver
      | some text => motorStartSpeed motor now (shellSpeed text) driver := by
  match args with
  | [] => cases motor <;> rfl
  | [_] => cases motor <;> rfl
  | command :: text :: rest => exact toySetSpeed_starts now motor command text rest driver

theorem message_total (sound : Sound system) (now : Ktime) (msg : EngineMessage) :
    ∃ next, step system (.message now msg) = some next := by
  cases addressed : msg.addressee with
  | none =>
      refine ⟨system, ?_⟩
      simp only [step, engineThread_eq, addressed]
      rfl
  | some motor =>
      obtain ⟨given, stands⟩ := sound.stands motor
      by_cases halt : msg.speed = 0
      · obtain ⟨next, ran, _⟩ := halt_step now stands addressed halt
        exact ⟨next, ran⟩
      · obtain ⟨next, ran, _⟩ := speed_step now stands addressed halt
        exact ⟨next, ran⟩

theorem Sound.withWorld {driver : EngineDriver} (sound : Sound system) (quiet : Quiet driver) :
    Sound { system with world := driver } := ⟨sound.stands, quiet⟩

theorem haltEffect_quiet {driver : EngineDriver} (quiet : Quiet driver) :
    Quiet (haltEffect (engineDevice now) motor driver) := by
  obtain ⟨before, effect, same | halted⟩ := haltEffect_engineDevice driver
  · rw [effect, same]
    exact Quiet.motorHalt driver quiet
  · rw [effect, halted]
    exact Quiet.motorHalt _ (Quiet.motorHalt driver quiet)

theorem Sound.message (sound : Sound system)
    (stepped : step system (.message now msg) = some after) : Sound after := by
  cases addressed : msg.addressee with
  | none =>
      rw [unknown_message addressed stepped]
      exact sound
  | some motor =>
      obtain ⟨given, stands⟩ := sound.stands motor
      have rest : ∀ {next : Option Int32}, StandsFor next (after.object motor) →
          (∀ other, other ≠ motor → after.object other = system.object other) →
          ∀ other, ∃ given, StandsFor given (after.object other) := by
        intro next standing same other
        by_cases this : other = motor
        · subst other
          exact ⟨next, standing⟩
        · rw [same other this]
          exact sound.stands other
      by_cases halt : msg.speed = 0
      · obtain ⟨next, same, world⟩ := halt_message stands addressed halt stepped
        refine ⟨rest next same, ?_⟩
        rw [world]
        cases given with
        | none => exact sound.quiet
        | some _ => exact haltEffect_quiet sound.quiet
      · obtain ⟨next, same, world⟩ := speed_message stands addressed halt stepped
        refine ⟨rest next same, ?_⟩
        rw [world]
        cases given with
        | none => exact Quiet.motorStartSpeed _ _ _ sound.quiet
        | some _ => exact Quiet.motorSetSpeed _ _ sound.quiet

theorem Sound.step {event : Event} (sound : Sound system)
    (stepped : step system event = some after) : Sound after := by
  cases event with
  | message now msg => exact sound.message stepped
  | expiry now motor =>
      obtain ⟨driver, expired, rfl⟩ := Option.map_eq_some_iff.mp stepped
      exact sound.withWorld (Quiet.hrtimerExpiry now system.world sound.quiet expired)
  | emergencyStop =>
      cases Option.some.inj stepped
      exact sound.withWorld (Quiet.kGpioIrqSignalHandler system.world sound.quiet)
  | shell now motor args =>
      cases Option.some.inj stepped
      apply sound.withWorld
      rw [shell_world]
      cases args[1]? with
      | none => exact sound.quiet
      | some text => exact Quiet.motorStartSpeed _ _ _ sound.quiet

theorem step_total {event : Event} (sound : Sound system)
    (notTimer : ∀ now motor, event ≠ .expiry now motor) :
    ∃ next, step system event = some next ∧ Sound next := by
  have possible : ∃ next, step system event = some next := by
    cases event with
    | message now msg => exact message_total sound now msg
    | expiry now motor => exact absurd rfl (notTimer now motor)
    | emergencyStop => exact ⟨_, rfl⟩
    | shell now motor args => exact ⟨_, rfl⟩
  obtain ⟨next, stepped⟩ := possible
  exact ⟨next, stepped, sound.step stepped⟩

end

/-- No order of messages, shell commands and emergency stops traps the server. -/
theorem commands_never_stuck (started : Motor → Ktime) {events : List Event}
    (noTimer : ∀ event ∈ events, ∀ now motor, event ≠ .expiry now motor) :
    ∃ final, run step (boot started) events = some final ∧ Sound final :=
  run_total (Sound.boot started) (fun _ _ sound notTimer => step_total sound notTimer) noTimer

end ToySystem.Server.MotorControl
