import ToySystem.Server.MotorIndependence

namespace ToySystem.Server.MotorControl

open ToySystem.Data ToySystem.Drivers ToySystem.Drivers.Engine ToySystem.Kernel ToySystem.Machine

/-! # Whether a command reaches its motor

The object of a motor remembers only what the engine thread told it.  The timer
of the driver runs from the start, and the button and the shell change it
without the object noticing, so a halt or a new speed does what it should only
where the two still fit together.
-/

def Halts (motor : Motor) : Event → Prop
  | .message _ msg =>
      msg.id = messageIdEngine ∧ msg.motorId = EngineMessage.motorNumber motor ∧ msg.speed = 0
  | _ => False

def SetsSpeed (motor : Motor) (speed : UInt32) : Event → Prop
  | .message _ msg =>
      msg.id = messageIdEngine ∧ msg.motorId = EngineMessage.motorNumber motor ∧
        msg.speed = speed ∧ speed ≠ 0
  | _ => False

/-- The motor runs, or is about to: its timer is queued or in its callback. -/
def TimerActive (motor : Motor) (driver : EngineDriver) : Prop :=
  hrtimerActive (driver.hrtimer motor) = true

section

variable {system after : Motors EngineDriver} {now : Ktime} {msg : EngineMessage} {motor : Motor}

theorem haltEffect_stopped {driver : EngineDriver} (quiet : Quiet driver) :
    Stopped motor (haltEffect (engineDevice now) motor driver) := by
  obtain ⟨before, effect, same | halted⟩ := haltEffect_engineDevice driver
  · rw [effect, same]
    exact motorHalt_stopped driver (quiet motor)
  · rw [effect, halted]
    exact motorHalt_stopped _ (Quiet.motorHalt driver quiet motor)

theorem speedResponse_speed (speed : Int32) (given : Option Int32) (driver : EngineDriver) :
    (speedResponse motor now speed given driver).speed motor = speed := by
  cases given with
  | none => exact motorStartSpeed_speed now speed driver
  | some _ => exact driver.setSpeed_speed motor speed

theorem speedResponse_active (speed : Int32) (given : Option Int32) (driver : EngineDriver) :
    TimerActive motor (speedResponse motor now speed given driver) ↔
      given = none ∨ TimerActive motor driver := by
  unfold TimerActive
  cases given with
  | none => simp [speedResponse, motorStartSpeed_hrtimer, hrtimerActive]
  | some _ => simp [speedResponse, motorSetSpeed]

theorem kGpioIrqSignalHandler_stopped {driver : EngineDriver} (quiet : Quiet driver) :
    Stopped motor (kGpioIrqSignalHandler driver) := by
  refine ⟨?_, ?_⟩
  · rw [hrtimerActive, kGpioIrqSignalHandler_hrtimer, hrtimerTryToCancel_idle _ (quiet motor),
      hrtimerTryToCancel_running, quiet motor]
    rfl
  · intro pin member
    simp only [kGpioIrqSignalHandler, EngineDriver.write]
    cases motor with
    | motor1 =>
        rw [gpioWrite_other_motor (by decide) (motorLedsOff_pins .motor2) _ member]
        exact motorLedsOff_dark .motor1 _ pin member
    | motor2 => exact motorLedsOff_dark .motor2 _ pin member

/-- What was heard of a motor: the speed its object was given last, and whether its timer
was left running. -/
structure Account where
  given : Option UInt32
  timer : Bool

/-- The timer runs since the driver was loaded. -/
def Account.boot : Account where
  given := none
  timer := true

/-- A speed starts the timer of an object that has none, and a halt stops that of an object
that has one; an expiry changes nothing. -/
def Account.hear (motor : Motor) (account : Account) : Event → Account
  | .message _ msg => {
      given := nextSpeed motor account.given msg
      timer :=
        if msg.addressee = some motor then
          if account.given = none then account.timer || msg.speed ≠ 0
          else account.timer && msg.speed ≠ 0
        else account.timer }
  | .expiry _ _ => account
  | .emergencyStop => { account with timer := false }
  | .shell _ other args =>
      { account with timer := account.timer || (other = motor && args[1]?.isSome) }

def heard (motor : Motor) (events : List Event) : Account :=
  events.foldl (Account.hear motor) .boot

structure Fits (motor : Motor) (account : Account) (system : Motors EngineDriver) : Prop where
  stands : StandsFor (account.given.map UInt32.toInt32) (system.object motor)
  active : hrtimerActive (system.world.hrtimer motor) = account.timer
  dark : account.timer = false → LedsOff motor system.world

theorem Fits.boot (started : Motor → Ktime) : Fits motor .boot (boot started) where
  stands := .constructed
  active := by cases motor <;> rfl
  dark runs := by cases runs

theorem Fits.stopped_iff {account : Account} (fits : Fits motor account system) :
    Stopped motor system.world ↔ account.timer = false := by
  rw [← fits.active]
  exact ⟨And.left, fun idle => ⟨idle, fits.dark (fits.active ▸ idle)⟩⟩

theorem Fits.frame {account : Account} {other : Motor} (fits : Fits motor account system)
    {op : EngineDriver → EngineDriver} (elsewhere : Local driverPart other op)
    (different : motor ≠ other) (object : after.object motor = system.object motor)
    (world : after.world = op system.world) : Fits motor account after := by
  have same := elsewhere.others motor different system.world
  simp only [driverPart, Prod.mk.injEq, List.map_inj_left] at same
  refine ⟨object ▸ fits.stands, ?_, ?_⟩
  · rw [world, EngineDriver.hrtimer, same.1]
    exact fits.active
  · intro idle pin member
    rw [world, same.2 pin member]
    exact fits.dark idle pin member

/-- A message to the motor: what it does is known from the account. -/
theorem Fits.addressed {account : Account} (fits : Fits motor account system)
    (quiet : Quiet system.world) (addressed : msg.addressee = some motor)
    (stepped : step system (.message now msg) = some after) :
    Fits motor (account.hear motor (.message now msg)) after := by
  by_cases halt : msg.speed = 0
  · obtain ⟨stands, _, world⟩ := halt_message fits.stands addressed halt stepped
    cases given : account.given with
    | none =>
        have same : after.world = system.world := by simp [world, given, haltResponse]
        refine ⟨?_, ?_, ?_⟩
        · simpa [Account.hear, nextSpeed, addressed, halt] using stands
        · simp [Account.hear, addressed, given, halt, same, fits.active]
        · simpa [Account.hear, addressed, given, halt, same] using fits.dark
    | some speed =>
        have stopped : Stopped motor after.world := by
          simp only [world, given, Option.map_some, haltResponse]
          exact haltEffect_stopped quiet
        refine ⟨?_, ?_, fun _ => stopped.2⟩
        · simpa [Account.hear, nextSpeed, addressed, halt] using stands
        · simp [Account.hear, addressed, given, halt, stopped.1]
  · obtain ⟨stands, _, world⟩ := speed_message fits.stands addressed halt stepped
    have active := @speedResponse_active now motor msg.speed.toInt32
      (account.given.map UInt32.toInt32) system.world
    rw [← world, TimerActive, TimerActive, fits.active] at active
    refine ⟨?_, ?_, ?_⟩
    · simpa [Account.hear, nextSpeed, addressed, halt] using stands
    · rw [Bool.eq_iff_iff, active]
      cases given : account.given <;> simp [Account.hear, addressed, given, halt]
    · intro idle
      cases given : account.given with
      | none => simp [Account.hear, addressed, given, halt] at idle
      | some speed =>
          have before : account.timer = false := by
            simpa [Account.hear, addressed, given, halt] using idle
          rw [world, given]
          exact fits.dark before

theorem Fits.step {account : Account} {event : Event} (fits : Fits motor account system)
    (sound : Sound system) (stepped : step system event = some after) :
    Fits motor (account.hear motor event) after := by
  cases event with
  | message now msg =>
      by_cases own : msg.addressee = some motor
      · exact fits.addressed sound.quiet own stepped
      · have ignored : account.hear motor (.message now msg) = account := by
          simp [Account.hear, nextSpeed, own]
        rw [ignored]
        cases addressed : msg.addressee with
        | none => rwa [unknown_message addressed stepped]
        | some other =>
            have different : motor ≠ other := by
              rintro rfl
              exact own addressed
            obtain ⟨given, stands⟩ := sound.stands other
            by_cases halt : msg.speed = 0
            · obtain ⟨_, same, world⟩ := halt_message stands addressed halt stepped
              exact fits.frame (local_haltResponse now given) different (same motor different) world
            · obtain ⟨_, same, world⟩ := speed_message stands addressed halt stepped
              exact fits.frame (local_speedResponse now _ given) different (same motor different)
                world
  | expiry now other =>
      obtain ⟨driver, expired, rfl⟩ := Option.map_eq_some_iff.mp stepped
      by_cases different : motor = other
      · subst different
        obtain ⟨due, queued, _⟩ := hrtimerExpiry_cases now system.world expired
        have runs : account.timer = true := by rw [← fits.active, hrtimerActive, due]; rfl
        refine ⟨fits.stands, ?_, fun idle => ?_⟩
        · change hrtimerActive (driver.hrtimer motor) = account.timer
          rw [hrtimerActive, queued, runs]
          rfl
        · change account.timer = false at idle
          rw [runs] at idle
          cases idle
      · obtain ⟨_, rfl⟩ := (hrtimerExpiry_eq_some now).mp expired
        exact fits.frame (local_expired now) different rfl rfl
  | emergencyStop =>
      cases stepped
      have stopped := @kGpioIrqSignalHandler_stopped motor system.world sound.quiet
      exact ⟨fits.stands, stopped.1, fun _ => stopped.2⟩
  | shell now other args =>
      cases stepped
      by_cases different : motor = other
      · subst different
        refine ⟨fits.stands, ?_, ?_⟩
        · rw [shell_world]
          cases text : args[1]? with
          | none => simp [Account.hear, text, fits.active]
          | some text => simp [Account.hear, text, motorStartSpeed_hrtimer, hrtimerActive]
        · rw [shell_world]
          cases text : args[1]? with
          | none => simpa [Account.hear, text] using fits.dark
          | some text => simp [Account.hear, text]
      · have ignored : account.hear motor (.shell now other args) = account := by
          have reversed : other ≠ motor := fun same => different same.symm
          simp [Account.hear, reversed]
        rw [ignored]
        exact fits.frame (local_shell now args) different rfl rfl

end

/-- What a step does is known from what was heard before it. -/
theorem path_forall_iff_fits (started : Motor → Ktime) {events : List Event}
    {P : Transition (Motors EngineDriver) Event → Prop} {Q : (Motor → Account) → Event → Prop}
    (agree : ∀ accounts before event after, (∀ motor, Fits motor (accounts motor) before) →
      Sound before → step before event = some after →
        (P ⟨before, event, after⟩ ↔ Q accounts event)) :
    (∀ transition ∈ path step (boot started) events, P transition) ↔
      ∀ before event rest, events = before ++ event :: rest →
        (run step (boot started) (before ++ [event])).isSome = true →
          Q (fun motor => heard motor before) event := by
  have folded (before : List Event) (accounts : Motor → Account) : before.foldl
      (fun (accounts : Motor → Account) event motor => (accounts motor).hear motor event)
      accounts = fun motor => before.foldl (Account.hear motor) (accounts motor) := by
    induction before generalizing accounts with
    | nil => rfl
    | cons event rest ih => rw [List.foldl_cons, ih]; rfl
  have initial : (∀ motor, Fits motor .boot (boot started)) ∧ Sound (boot started) :=
    ⟨fun _ => .boot started, Sound.boot started⟩
  have history := @path_forall_iff_history _ _ step (Motor → Account)
    (fun accounts system => (∀ motor, Fits motor (accounts motor) system) ∧ Sound system)
    (fun accounts event motor => (accounts motor).hear motor event) P Q (fun _ => .boot)
    (boot started) events initial fun accounts before event after holds stepped =>
      ⟨⟨fun motor => (holds.1 motor).step holds.2 stepped, holds.2.step stepped⟩,
        agree accounts before event after holds.1 holds.2 stepped⟩
  simp only [folded] at history
  exact history

/-- A halt stops the motor except where its object was given no speed since the last halt
and its timer was left running. -/
theorem halt_stops_iff (started : Motor → Ktime) (events : List Event) :
    (∀ transition ∈ path step (boot started) events, ∀ motor,
        Halts motor transition.event → Stopped motor transition.after.world) ↔
      ∀ before event rest, events = before ++ event :: rest →
        (run step (boot started) (before ++ [event])).isSome = true →
          ∀ motor, Halts motor event →
            (heard motor before).given ≠ none ∨ (heard motor before).timer = false := by
  refine @path_forall_iff_fits started events _ (fun accounts event => ∀ motor,
    Halts motor event → (accounts motor).given ≠ none ∨ (accounts motor).timer = false) ?_
  intro accounts before event after fits sound stepped
  apply forall_congr'
  intro motor
  cases event with
  | message now msg =>
      apply imp_congr_right
      rintro ⟨engine, number, halt⟩
      have addressed := EngineMessage.addressee_iff.mpr ⟨engine, number⟩
      rw [((fits motor).step sound stepped).stopped_iff]
      cases given : (accounts motor).given <;>
        simp [Account.hear, addressed, given, halt]
  | expiry now motor => simp [Halts]
  | emergencyStop => simp [Halts]
  | shell now motor args => simp [Halts]

/-- The first message after boot halts the left motor, whose timer runs since
the driver was loaded. -/
theorem halt_ignored_after_boot :
    ∃ transition ∈ path step (boot fun _ => 0) [.message 0 ⟨messageIdEngine, leftMotor, 0⟩],
      Halts .motor1 transition.event ∧ ¬ Stopped .motor1 transition.after.world := by
  refine ⟨_, List.mem_singleton.mpr rfl, ⟨rfl, rfl, rfl⟩, ?_⟩
  decide

/-- A speed sets the motor running except where its object was given one since the last
halt and its timer was stopped. -/
theorem setSpeed_effective_iff (started : Motor → Ktime) (events : List Event) :
    (∀ transition ∈ path step (boot started) events, ∀ motor speed,
        SetsSpeed motor speed transition.event →
          transition.after.world.speed motor = speed.toInt32 ∧
            TimerActive motor transition.after.world) ↔
      ∀ before event rest, events = before ++ event :: rest →
        (run step (boot started) (before ++ [event])).isSome = true →
          ∀ motor speed, SetsSpeed motor speed event →
            (heard motor before).given = none ∨ (heard motor before).timer = true := by
  refine @path_forall_iff_fits started events _ (fun accounts event => ∀ motor speed,
    SetsSpeed motor speed event →
      (accounts motor).given = none ∨ (accounts motor).timer = true) ?_
  intro accounts before event after fits sound stepped
  apply forall₂_congr
  intro motor speed
  cases event with
  | message now msg =>
      apply imp_congr_right
      rintro ⟨engine, number, rfl, nonzero⟩
      have addressed := EngineMessage.addressee_iff.mpr ⟨engine, number⟩
      obtain ⟨given, stands⟩ := sound.stands motor
      obtain ⟨_, _, world⟩ := speed_message stands addressed nonzero stepped
      have set : after.world.speed motor = msg.speed.toInt32 := by
        rw [world]
        exact speedResponse_speed _ _ _
      rw [and_iff_right set, TimerActive, ((fits motor).step sound stepped).active]
      cases given : (accounts motor).given <;>
        simp [Account.hear, addressed, given, nonzero]
  | expiry now motor => simp [SetsSpeed]
  | emergencyStop => simp [SetsSpeed]
  | shell now motor args => simp [SetsSpeed]

/-- After an emergency stop the object still takes the motor to be running, and
the next speed does not start it. -/
theorem speed_after_emergencyStop :
    ∃ transition ∈ path step (boot fun _ => 0)
        [.message 0 ⟨messageIdEngine, leftMotor, 30⟩, .emergencyStop,
          .message 0 ⟨messageIdEngine, leftMotor, 50⟩],
      SetsSpeed .motor1 50 transition.event ∧
        ¬ (transition.after.world.speed .motor1 = (50 : UInt32).toInt32 ∧
          TimerActive .motor1 transition.after.world) := by
  refine ⟨_, List.mem_of_getLast? rfl, ⟨rfl, rfl, rfl, by decide⟩, ?_⟩
  rintro ⟨_, active⟩
  unfold TimerActive at active
  exact absurd active (by decide)

end ToySystem.Server.MotorControl
