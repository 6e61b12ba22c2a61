import ToySystem.Data.Locality
import ToySystem.Server.MotorControl

namespace ToySystem.Server.MotorControl

open ToySystem.Data ToySystem.Drivers ToySystem.Drivers.Engine ToySystem.Kernel ToySystem.Libc
  ToySystem.Machine ToySystem.Ui

/-! # The two motors are independent

What belongs to one motor, on the way from the messages to the LEDs, is only
read and changed by the events of that motor.
-/

/-- What belongs to a motor: its object, its variables in the driver and its LEDs. -/
structure MotorPart where
  currentState : UInt8
  eventGenerated : Bool
  pEventData : Option (EventData MotorEvent)
  currentSpeed : Int32
  vars : MotorVars
  leds : List Bool

def driverPart (motor : Motor) (driver : EngineDriver) : MotorVars × List Bool :=
  (driver.vars motor, (ledPins motor).map driver.gpio)

def part (motor : Motor) (system : Motors EngineDriver) : MotorPart where
  currentState := (system.object motor).machine.currentState
  eventGenerated := (system.object motor).machine.eventGenerated
  pEventData := (system.object motor).machine.pEventData
  currentSpeed := (system.object motor).currentSpeed
  vars := (driverPart motor system.world).1
  leds := (driverPart motor system.world).2

/-- The motor that an event concerns; a message may concern none. -/
def Event.target : Event → Option Motor
  | .message _ msg => msg.addressee
  | .expiry _ motor => some motor
  | .emergencyStop => none
  | .shell _ motor _ => some motor

section

variable {motor : Motor} (now : Ktime) (value : Int32)

theorem local_setVars (vars : MotorVars) :
    Local driverPart motor fun driver => driver.setVars motor vars where
  own first second same := by
    have leds := congrArg Prod.snd same
    simp only [driverPart] at leds
    simp [driverPart, EngineDriver.setVars, leds]
  others other different driver := by
    simp [driverPart, EngineDriver.setVars, different]

theorem local_write {writes : List (Nat × Bool)} (pins : writes.map Prod.fst = ledPins motor) :
    Local driverPart motor fun driver => driver.write writes where
  own first second same := by
    simp only [driverPart, Prod.mk.injEq, List.map_inj_left] at same
    simp only [driverPart, EngineDriver.write, Prod.mk.injEq, List.map_inj_left]
    exact ⟨same.1, fun pin member => gpioWrite_congr writes (same.2 pin member)⟩
  others other different driver := by
    simp only [driverPart, EngineDriver.write, Prod.mk.injEq, List.map_inj_left, true_and]
    exact fun pin member => gpioWrite_other_motor different pins driver.gpio member

/-- A change of the motor's variables that is computed from them. -/
theorem local_update (update : MotorVars → MotorVars) :
    Local driverPart motor fun driver => driver.setVars motor (update (driver.vars motor)) := by
  have each : ∀ held : MotorVars × List Bool, Local driverPart motor
      fun driver : EngineDriver => driver.setVars motor (update held.1) :=
    fun held => local_setVars (update held.1)
  exact Local.depends each

theorem local_motorStartSpeed : Local driverPart motor (motorStartSpeed motor now value) := by
  have speedSet : Local driverPart motor fun driver => driver.setSpeed motor value :=
    local_update fun vars => { vars with speed := value }
  have each : ∀ held : MotorVars × List Bool, Local driverPart motor fun driver =>
      if !hrtimerActive held.1.hrtimer then
        driver.setHrtimer motor (hrtimerInit (driver.hrtimer motor))
      else driver := by
    intro held
    cases hrtimerActive held.1.hrtimer with
    | false => exact local_update fun vars => { vars with hrtimer := hrtimerInit vars.hrtimer }
    | true => exact Local.id
  have restarted : Local driverPart motor fun driver => driver.setHrtimer motor
      (hrtimerStart now (msToKtime maxTimeoutMsec.toInt) (driver.hrtimer motor)) :=
    local_update fun vars => { vars with
      hrtimer := hrtimerStart now (msToKtime maxTimeoutMsec.toInt) vars.hrtimer }
  exact restarted.comp ((Local.depends each).comp speedSet)

theorem local_motorSetSpeed : Local driverPart motor (motorSetSpeed motor value) :=
  local_update fun vars => { vars with speed := value }

theorem local_motorHalt : Local driverPart motor (motorHalt motor) := by
  have cancelled : Local driverPart motor fun driver =>
      driver.setHrtimer motor (hrtimerTryToCancel (driver.hrtimer motor)).1 :=
    local_update fun vars => { vars with hrtimer := (hrtimerTryToCancel vars.hrtimer).1 }
  exact (local_write (motorLedsOff_pins motor)).comp cancelled

theorem local_motorTimerCallback :
    Local driverPart motor fun driver => (motorTimerCallback motor now driver).1 := by
  have each : ∀ held : MotorVars × List Bool, Local driverPart motor fun driver =>
      (driver.setToggle motor (!held.1.toggle)).write (toggleWrites motor (!held.1.toggle)) := by
    intro held
    have toggled : Local driverPart motor fun driver => driver.setToggle motor (!held.1.toggle) :=
      local_update fun vars => { vars with toggle := !held.1.toggle }
    exact (local_write (toggleWrites_pins motor _)).comp toggled
  have forwarded : Local driverPart motor fun driver => driver.setHrtimer motor
      (hrtimerForwardNow now (msToKtime (motorTimeout (driver.speed motor)).toInt)
        (driver.hrtimer motor)) :=
    local_update fun vars => { vars with
      hrtimer := hrtimerForwardNow now (msToKtime (motorTimeout vars.speed).toInt) vars.hrtimer }
  exact forwarded.comp (Local.depends each)

/-- What the expiry of a timer that is due makes of the driver. -/
def expired (motor : Motor) (now : Ktime) (driver : EngineDriver) : EngineDriver :=
  let entered := driver.setHrtimer motor (hrtimerEnterCallback (driver.hrtimer motor))
  let left := timerCallback motor now entered
  left.1.setHrtimer motor (hrtimerLeaveCallback left.2 (left.1.hrtimer motor))

theorem hrtimerExpiry_eq_some {driver after : EngineDriver} :
    hrtimerExpiry motor now driver = some after ↔
      ((driver.hrtimer motor).enqueued && !(driver.hrtimer motor).running) = true ∧
        after = expired motor now driver := by
  unfold hrtimerExpiry
  split
  · rename_i due
    rw [Option.some.injEq, eq_comm, and_iff_right due]
    rfl
  · rename_i notDue
    simp [notDue]

theorem local_expired : Local driverPart motor (expired motor now) := by
  have entered : Local driverPart motor fun driver =>
      driver.setHrtimer motor (hrtimerEnterCallback (driver.hrtimer motor)) :=
    local_update fun vars => { vars with hrtimer := hrtimerEnterCallback vars.hrtimer }
  have left : Local driverPart motor fun driver =>
      driver.setHrtimer motor (hrtimerLeaveCallback .restart (driver.hrtimer motor)) :=
    local_update fun vars => { vars with hrtimer := hrtimerLeaveCallback .restart vars.hrtimer }
  unfold expired
  rw [timerCallback_eq]
  exact left.comp ((local_motorTimerCallback now).comp entered)

theorem local_haltEffect : Local driverPart motor (haltEffect (engineDevice now) motor) := by
  have halted : (fun driver => (engineDevice now).call (motorRequests motor).halt 0 driver) =
      motorHalt motor := by
    funext driver
    cases motor with
    | motor1 => exact congrArg Prod.fst (toyIoctl_halt now .motor1 0 driver)
    | motor2 => exact congrArg Prod.fst (toyIoctl_halt now .motor2 0 driver)
  have once : Local driverPart motor
      fun driver => (engineDevice now).call (motorRequests motor).halt 0 driver := by
    rw [halted]
    exact local_motorHalt
  cases motor with
  | motor1 => exact once.comp once
  | motor2 => exact once

theorem local_haltResponse (given : Option Int32) :
    Local driverPart motor (haltResponse (engineDevice now) motor given) := by
  cases given with
  | none => exact Local.id
  | some _ => exact local_haltEffect now

theorem local_speedResponse (given : Option Int32) :
    Local driverPart motor (speedResponse motor now value given) := by
  cases given with
  | none => exact local_motorStartSpeed now value
  | some _ => exact local_motorSetSpeed value

theorem local_shell (args : List (List Char)) :
    Local driverPart motor fun driver => (toySetSpeed (engineDevice now) motor args driver).1 := by
  cases given : args[1]? with
  | none =>
      have same : (fun driver => (toySetSpeed (engineDevice now) motor args driver).1) = id := by
        funext driver
        rw [shell_world, given]
        rfl
      rw [same]
      exact Local.id
  | some text =>
      have starts : (fun driver => (toySetSpeed (engineDevice now) motor args driver).1) =
          motorStartSpeed motor now (shellSpeed text) := by
        funext driver
        rw [shell_world, given]
      rw [starts]
      exact local_motorStartSpeed now (shellSpeed text)

end

/-- What a part holds of an object; the addresses of its event data are not in it. -/
structure SameObject (first second : MotorObject) : Prop where
  currentState : first.machine.currentState = second.machine.currentState
  eventGenerated : first.machine.eventGenerated = second.machine.eventGenerated
  pEventData : first.machine.pEventData = second.machine.pEventData
  currentSpeed : first.currentSpeed = second.currentSpeed

theorem SameObject.of_rest {first second : MotorObject} {state : UInt8}
    (rest : AtRest state first.machine) (other : AtRest state second.machine)
    (speed : first.currentSpeed = second.currentSpeed) : SameObject first second where
  currentState := rest.current.trans other.current.symm
  eventGenerated := rest.quiet.trans other.quiet.symm
  pEventData := rest.empty.trans other.empty.symm
  currentSpeed := speed

theorem SameObject.given {first second : MotorObject} (same : SameObject first second)
    {given other : Option Int32} (stands : StandsFor given first)
    (standsOther : StandsFor other second) : other = given := by
  have idle := idle_iff stands
  have idleOther := idle_iff standsOther
  rw [same.currentState, idleOther] at idle
  cases stands with
  | idle rest noSpeed => exact idle.mpr rfl
  | moving moving rest speed =>
      cases standsOther with
      | idle restOther noSpeed => exact absurd (idle.mp rfl) (by simp)
      | moving movingOther restOther speedOther =>
          rw [← speed, ← speedOther, same.currentSpeed]

theorem SameObject.of_idle {first second : MotorObject} (stands : StandsFor none first)
    (standsOther : StandsFor none second) : SameObject first second := by
  cases stands with
  | idle rest noSpeed =>
      cases standsOther with
      | idle restOther noSpeedOther =>
          exact .of_rest rest restOther (noSpeed.trans noSpeedOther.symm)

theorem standsFor_speed {object : MotorObject} {speed : Int32}
    (stands : StandsFor (some speed) object) : object.currentSpeed = speed := by
  cases stands with
  | moving moving rest given => exact given

section

variable {motor : Motor} {first second system after : Motors EngineDriver} {now : Ktime}
  {msg : EngineMessage}

theorem part_eq_iff : part motor first = part motor second ↔
    SameObject (first.object motor) (second.object motor) ∧
      driverPart motor first.world = driverPart motor second.world := by
  constructor
  · intro same
    simp only [part, MotorPart.mk.injEq] at same
    obtain ⟨state, generated, data, speed, vars, leds⟩ := same
    exact ⟨⟨state, generated, data, speed⟩, Prod.ext vars leds⟩
  · rintro ⟨⟨state, generated, data, speed⟩, driver⟩
    simp only [part, state, generated, data, speed, driver]

theorem speed_message_rest {given : Option Int32} (stands : StandsFor given (system.object motor))
    (addressed : msg.addressee = some motor) (nonzero : msg.speed ≠ 0)
    (stepped : step system (.message now msg) = some after) :
    AtRest (speedState given) (after.object motor).machine := by
  simp only [step, engineThread_eq, addressed, if_neg nonzero, engineRounds] at stepped
  cases ran : setObjectSpeed (engineDevice now) 2 motor msg.speed.toInt32 system with
  | error halt => simp [ran, Except.toOption] at stepped
  | ok next =>
      simp only [ran, Except.toOption, Option.some.injEq] at stepped
      rw [← stepped]
      exact setObjectSpeed_rest (engineDevice now) 0 stands ran

theorem message_own (validFirst : Sound first) (validSecond : Sound second)
    (same : part motor first = part motor second) (addressed : msg.addressee = some motor)
    (stepped : step first (.message now msg) = some after) :
    ∃ alone, step second (.message now msg) = some alone ∧ part motor alone = part motor after := by
  obtain ⟨sameObject, sameDriver⟩ := part_eq_iff.mp same
  obtain ⟨given, stands⟩ := validFirst.stands motor
  obtain ⟨other, standsOther⟩ := validSecond.stands motor
  cases sameObject.given stands standsOther
  by_cases halt : msg.speed = 0
  · obtain ⟨stopped, _, world⟩ := halt_message stands addressed halt stepped
    obtain ⟨alone, steppedAlone, stoppedAlone, _, worldAlone⟩ :=
      halt_step now standsOther addressed halt
    refine ⟨alone, steppedAlone, part_eq_iff.mpr ⟨SameObject.of_idle stoppedAlone stopped, ?_⟩⟩
    rw [worldAlone, world]
    exact ((local_haltResponse now given).own _ _ sameDriver).symm
  · obtain ⟨moving, _, world⟩ := speed_message stands addressed halt stepped
    obtain ⟨alone, steppedAlone, movingAlone, _, worldAlone⟩ :=
      speed_step now standsOther addressed halt
    have rest := speed_message_rest stands addressed halt stepped
    have restAlone := speed_message_rest standsOther addressed halt steppedAlone
    have speed := (standsFor_speed movingAlone).trans (standsFor_speed moving).symm
    refine ⟨alone, steppedAlone, part_eq_iff.mpr ⟨.of_rest restAlone rest speed, ?_⟩⟩
    rw [worldAlone, world]
    exact ((local_speedResponse now _ given).own _ _ sameDriver).symm

/-- Only the driver changes, by an operation that is local to the motor. -/
theorem part_withWorld {op : EngineDriver → EngineDriver} (isLocal : Local driverPart motor op)
    (same : part motor first = part motor second) :
    part motor { second with world := op second.world } =
      part motor { first with world := op first.world } := by
  obtain ⟨sameObject, sameDriver⟩ := part_eq_iff.mp same.symm
  have sameAfter := isLocal.own _ _ sameDriver
  exact part_eq_iff.mpr ⟨sameObject, sameAfter⟩

theorem part_withWorld_other {other : Motor} {op : EngineDriver → EngineDriver}
    (isLocal : Local driverPart other op) (different : motor ≠ other) :
    part motor { system with world := op system.world } = part motor system := by
  have sameDriver := isLocal.others motor different system.world
  exact part_eq_iff.mpr ⟨⟨rfl, rfl, rfl, rfl⟩, sameDriver⟩

theorem expiry_own (same : part motor first = part motor second)
    (stepped : step first (.expiry now motor) = some after) :
    ∃ alone, step second (.expiry now motor) = some alone ∧ part motor alone = part motor after := by
  obtain ⟨driver, isExpiry, rfl⟩ := Option.map_eq_some_iff.mp stepped
  obtain ⟨due, rfl⟩ := (hrtimerExpiry_eq_some now).mp isExpiry
  have sameVars := congrArg Prod.fst (part_eq_iff.mp same).2
  have dueSecond : ((second.world.hrtimer motor).enqueued &&
      !(second.world.hrtimer motor).running) = true := by
    simp only [driverPart] at sameVars
    rw [EngineDriver.hrtimer, ← sameVars]
    exact due
  refine ⟨{ second with world := expired motor now second.world }, ?_,
    part_withWorld (local_expired now) same⟩
  rw [step, (hrtimerExpiry_eq_some now).mpr ⟨dueSecond, rfl⟩]
  rfl

theorem shell_own (args : List (List Char)) (same : part motor first = part motor second)
    (stepped : step first (.shell now motor args) = some after) :
    ∃ alone, step second (.shell now motor args) = some alone ∧
      part motor alone = part motor after := by
  cases stepped
  exact ⟨_, rfl, part_withWorld (local_shell now args) same⟩

theorem message_others {other : Motor} (valid : Sound system) (addressed : msg.addressee = some other)
    (different : motor ≠ other) (stepped : step system (.message now msg) = some after) :
    part motor after = part motor system := by
  obtain ⟨given, stands⟩ := valid.stands other
  have kept : ∀ {op : EngineDriver → EngineDriver}, Local driverPart other op →
      after.world = op system.world → after.object motor = system.object motor →
      part motor after = part motor system := by
    intro op isLocal world object
    have sameDriver := isLocal.others motor different system.world
    refine part_eq_iff.mpr ⟨by rw [object]; exact ⟨rfl, rfl, rfl, rfl⟩, ?_⟩
    rw [world]
    exact sameDriver
  by_cases halt : msg.speed = 0
  · obtain ⟨_, objects, world⟩ := halt_message stands addressed halt stepped
    exact kept (local_haltResponse now given) world (objects motor different)
  · obtain ⟨_, objects, world⟩ := speed_message stands addressed halt stepped
    exact kept (local_speedResponse now _ given) world (objects motor different)

theorem events_independent :
    Independent step Sound (fun event => event ≠ .emergencyStop) part Event.target where
  preserved _ _ _ sound stepped := sound.step stepped
  own motor first second event after validFirst validSecond same mine stepped := by
    cases event with
    | message now msg => exact message_own validFirst validSecond same mine stepped
    | expiry now expiring =>
        cases mine
        exact expiry_own same stepped
    | emergencyStop => cases mine
    | shell now addressed args =>
        cases mine
        exact shell_own args same stepped
  others motor before event after valid notStop notMine stepped := by
    cases event with
    | message now msg =>
        cases addressed : msg.addressee with
        | none => rw [unknown_message addressed stepped]
        | some other =>
            have different : motor ≠ other := by
              rintro rfl
              exact notMine addressed
            exact message_others valid addressed different stepped
    | expiry now other =>
        have different : motor ≠ other := by
          rintro rfl
          exact notMine rfl
        obtain ⟨driver, isExpiry, rfl⟩ := Option.map_eq_some_iff.mp stepped
        obtain ⟨_, rfl⟩ := (hrtimerExpiry_eq_some now).mp isExpiry
        exact part_withWorld_other (local_expired now) different
    | emergencyStop => exact absurd rfl notStop
    | shell now other args =>
        have different : motor ≠ other := by
          rintro rfl
          exact notMine rfl
        cases stepped
        exact part_withWorld_other (local_shell now args) different

end

theorem motor_either {motor other : Motor} (different : motor ≠ other) (any : Motor) :
    any = motor ∨ any = other := by
  cases any <;> cases motor <;> cases other <;> simp at different ⊢

theorem motors_independent (started : Motor → Ktime) {events : List Event}
    {system : Motors EngineDriver} (noStop : .emergencyStop ∉ events)
    (ran : run step (boot started) events = some system) :
    (∀ motor, ∃ alone, run step (boot started)
        (events.filter fun event => event.target = some motor) = some alone ∧
          part motor alone = part motor system) ∧
      ∀ first second motor other, motor ≠ other → first.target = some motor →
        second.target = some other → ∀ after, run step system [first, second] = some after →
          ∃ swapped, run step system [second, first] = some swapped ∧
            ∀ any, part any swapped = part any after := by
  have sound := Sound.boot started
  have notStop : ∀ event ∈ events, event ≠ .emergencyStop := by
    rintro event member rfl
    exact noStop member
  have soundNow := run_invariant sound (fun _ _ _ sound stepped => sound.step stepped) ran
  constructor
  · intro motor
    exact events_independent.run_filter motor sound sound rfl notStop ran
  · intro first second motor other different mine theirs after ranBoth
    have stopHasNone : ∀ {event : Event} {motor : Motor}, event.target = some motor →
        event ≠ .emergencyStop := by
      rintro event motor target rfl
      cases target
    obtain ⟨swapped, ranSwapped, sameMine, sameTheirs⟩ :=
      events_independent.swap different soundNow (stopHasNone mine) (stopHasNone theirs) mine theirs
        ranBoth
    refine ⟨swapped, ranSwapped, ?_⟩
    intro any
    rcases motor_either different any with rfl | rfl
    · exact sameMine
    · exact sameTheirs

def mixedEvents : List Event :=
  [.message 0 ⟨messageIdEngine, leftMotor, 50⟩, .shell 0 .motor2 ["m2".toList, "70".toList],
    .expiry 5 .motor1, .message 1 ⟨messageIdEngine, rightMotor, 30⟩, .expiry 7 .motor2,
    .message 2 ⟨messageIdEngine, leftMotor, 0⟩]

theorem left_motor_alone : ∃ system, run step (boot fun _ => 0) mixedEvents = some system ∧
    ∃ alone, run step (boot fun _ => 0)
      (mixedEvents.filter fun event => event.target = some .motor1) = some alone ∧
        part .motor1 alone = part .motor1 system :=
  ⟨_, rfl, (motors_independent (fun _ => 0) (by simp [mixedEvents]) rfl).1 .motor1⟩

end ToySystem.Server.MotorControl
