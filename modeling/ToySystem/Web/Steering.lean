import ToySystem.Backend.Protocol
import ToySystem.Kernel.Mqueue
import ToySystem.Server.MotorIndependence
import ToySystem.Web.Api

namespace ToySystem.Web

open ToySystem.Backend ToySystem.Data ToySystem.Data.Json ToySystem.Drivers ToySystem.Drivers.Engine
  ToySystem.Kernel ToySystem.Machine ToySystem.Message ToySystem.Server

/-! # From the requests to the motors

The handlers of the HTTP interface, the queue `/mq_be_to_sys`, the engine thread behind it,
and what else drives a motor.  Each of them makes its steps when it likes.  A run lasts while
the engine thread can receive: it asserts that `mq_receive` reports no error.
-/

def numMessages : Nat := 100

structure Steering where
  queue : Mqueue (List UInt8)
  /-- `msg` of `engine_thread`. -/
  buffer : Memory
  motors : Motors EngineDriver

inductive SteeringEvent where
  /-- A request that `handle` has passed on.  `failure` says whether the queue cannot be
  opened or sent to, which is only logged. -/
  | request (failure : Bool) (request : Request)
  | engineThread (now : Ktime)
  | expiry (now : Ktime) (motor : Motor)
  | emergencyStop
  | shell (now : Ktime) (motor : Motor) (args : List (List Char))

namespace Steering

def boot (buffer : Memory) (started : Motor → Ktime) : Steering where
  queue := .empty numMessages
  buffer := buffer
  motors := MotorControl.boot started

def control (steering : Steering) (event : MotorControl.Event) : Option Steering :=
  (MotorControl.step steering.motors event).map fun motors => { steering with motors }

/-- A handler waits where the queue is full, and the engine thread where it is empty. -/
def step (steering : Steering) : SteeringEvent → Option Steering
  | .request failure request =>
      match request.engineMessage with
      | none => some steering
      | some (motorId, speed) =>
          if failure then some steering
          else (steering.queue.mqSend (sendEngineMessage motorId speed)).map fun queue =>
            { steering with queue }
  | .engineThread now =>
      steering.queue.mqReceive.bind fun (message, queue) =>
        let buffer := RobotMessage.receive message steering.buffer
        control { steering with queue, buffer } (.message now (RobotMessage.engineMessage buffer))
  | .expiry now motor => steering.control (.expiry now motor)
  | .emergencyStop => steering.control .emergencyStop
  | .shell now motor args => steering.control (.shell now motor args)

end Steering

/-- The speed in a request that was sent on to the engine thread. -/
def SteeringEvent.speed : SteeringEvent → Option UInt32
  | .request false (.setLeftSpeed _ body) => (decodeMotorState body).map MotorState.speed
  | _ => none

def SteeringEvent.isRound : SteeringEvent → Bool
  | .engineThread _ => true
  | _ => false

def sentSpeeds (events : List SteeringEvent) : List UInt32 := events.filterMap SteeringEvent.speed

def rounds (events : List SteeringEvent) : Nat := events.countP SteeringEvent.isRound

/-- The speeds that the engine thread has received. -/
def handledSpeeds (events : List SteeringEvent) : List UInt32 :=
  (sentSpeeds events).take (rounds events)

def speedMessage (speed : UInt32) : EngineMessage where
  id := Server.messageIdEngine
  motorId := leftMotor
  speed := speed

/-- What happens to the motors: one round of the engine thread after the other receives
the given speeds. -/
def motorEvents : List UInt32 → List SteeringEvent → List MotorControl.Event
  | _, [] => []
  | speeds, .request _ _ :: events => motorEvents speeds events
  | speed :: speeds, .engineThread now :: events =>
      .message now (speedMessage speed) :: motorEvents speeds events
  | [], .engineThread _ :: events => motorEvents [] events
  | speeds, .expiry now motor :: events => .expiry now motor :: motorEvents speeds events
  | speeds, .emergencyStop :: events => .emergencyStop :: motorEvents speeds events
  | speeds, .shell now motor args :: events =>
      .shell now motor args :: motorEvents speeds events

section

variable {steering after : Steering}

theorem engineMessage_cases (request : Request) :
    request.engineMessage = none ∧ SteeringEvent.speed (.request false request) = none ∨
      ∃ speed, request.engineMessage = some (0, speed) ∧
        SteeringEvent.speed (.request false request) = some speed := by
  cases request with
  | setLeftSpeed id body =>
      cases decoded : decodeMotorState body with
      | none =>
          left
          simp [Request.engineMessage, robotSetLeftSpeedHandler, SteeringEvent.speed, decoded]
      | some req =>
          right
          exact ⟨req.speed, by simp [Request.engineMessage, robotSetLeftSpeedHandler, decoded],
            by simp [SteeringEvent.speed, decoded]⟩
  | _ => exact .inl ⟨rfl, rfl⟩

/-- A request sends its speed, or does nothing to the machine. -/
theorem step_request {failure : Bool} {request : Request}
    (stepped : steering.step (.request failure request) = some after) :
    after.motors = steering.motors ∧ after.queue.messages = steering.queue.messages ++
      (SteeringEvent.speed (.request failure request)).toList.map (sendEngineMessage 0) := by
  cases failure with
  | true =>
      have same : after = steering := by
        simp only [Steering.step, if_true] at stepped
        split at stepped <;> exact (Option.some.inj stepped).symm
      subst same
      exact ⟨rfl, by simp [SteeringEvent.speed]⟩
  | false =>
      rcases engineMessage_cases request with ⟨silent, none⟩ | ⟨speed, sends, some⟩
      · simp only [Steering.step, silent] at stepped
        cases stepped
        exact ⟨rfl, by simp [none]⟩
      · simp only [Steering.step, sends] at stepped
        obtain ⟨queue, sent, rfl⟩ := Option.map_eq_some_iff.mp stepped
        exact ⟨rfl, by simp [some, Mqueue.mqSend_messages sent]⟩

/-- The engine thread takes one speed off the queue. -/
theorem step_engineThread {now : Ktime} {pending : List UInt32}
    (queued : steering.queue.messages = pending.map (sendEngineMessage 0))
    (stepped : steering.step (.engineThread now) = some after) :
    ∃ speed rest, pending = speed :: rest ∧
      after.queue.messages = rest.map (sendEngineMessage 0) ∧
      MotorControl.step steering.motors (.message now (speedMessage speed)) = some after.motors := by
  obtain ⟨⟨message, queue⟩, received, handled⟩ := Option.bind_eq_some_iff.mp stepped
  have messages := Mqueue.mqReceive_messages received
  rw [queued] at messages
  cases pending with
  | nil => simp at messages
  | cons speed rest =>
      simp only [List.map_cons, List.cons.injEq] at messages
      obtain ⟨rfl, left⟩ := messages
      obtain ⟨motors, moved, rfl⟩ := Option.map_eq_some_iff.mp handled
      refine ⟨speed, rest, rfl, left.symm, ?_⟩
      rw [engineMessage_receive] at moved
      exact moved

theorem step_control {event : MotorControl.Event} (stepped : steering.control event = some after) :
    after.queue = steering.queue ∧ MotorControl.step steering.motors event = some after.motors := by
  obtain ⟨motors, moved, rfl⟩ := Option.map_eq_some_iff.mp stepped
  exact ⟨rfl, moved⟩

end

section

variable {steering final : Steering} {events : List SteeringEvent}

/-- From a queue with some speeds on: they are the next ones that are handled. -/
theorem run_speeds {pending : List UInt32}
    (queued : steering.queue.messages = pending.map (sendEngineMessage 0))
    (ran : run Steering.step steering events = some final) :
    rounds events ≤ (pending ++ sentSpeeds events).length ∧
      final.queue.messages =
        ((pending ++ sentSpeeds events).drop (rounds events)).map (sendEngineMessage 0) ∧
      run MotorControl.step steering.motors (motorEvents (pending ++ sentSpeeds events) events) =
        some final.motors := by
  induction events generalizing steering pending with
  | nil =>
      cases ran
      simp [rounds, sentSpeeds, motorEvents, queued, run]
  | cons event rest ih =>
      obtain ⟨next, stepped, later⟩ := Option.bind_eq_some_iff.mp ran
      -- The motors move as they do without the web interface.
      have control (moves : MotorControl.Event) (same : steering.step event = steering.control moves)
          (silent : event.speed = none) (notRound : event.isRound = false)
          (unfolds : ∀ speeds, motorEvents speeds (event :: rest) =
            moves :: motorEvents speeds rest) :
          rounds (event :: rest) ≤ (pending ++ sentSpeeds (event :: rest)).length ∧
            final.queue.messages = ((pending ++ sentSpeeds (event :: rest)).drop
              (rounds (event :: rest))).map (sendEngineMessage 0) ∧
            run MotorControl.step steering.motors
              (motorEvents (pending ++ sentSpeeds (event :: rest)) (event :: rest)) =
                some final.motors := by
        obtain ⟨queue, moved⟩ := step_control (same.symm.trans stepped)
        rw [← queue] at queued
        have sent : sentSpeeds (event :: rest) = sentSpeeds rest :=
          List.filterMap_cons_none silent
        have count : rounds (event :: rest) = rounds rest :=
          List.countP_cons_of_neg (by simp [notRound])
        rw [sent, count, unfolds, run_cons moved]
        exact ih queued later
      cases event with
      | request failure request =>
          obtain ⟨motors, queue⟩ := step_request stepped
          have count : rounds (.request failure request :: rest) = rounds rest :=
            List.countP_cons_of_neg Bool.false_ne_true
          have sent : pending ++ sentSpeeds (.request failure request :: rest) =
              pending ++ (SteeringEvent.speed (.request failure request)).toList ++
                sentSpeeds rest := by
            cases isSpeed : SteeringEvent.speed (.request failure request) <;>
              simp [sentSpeeds, isSpeed]
          rw [queued, ← List.map_append] at queue
          rw [sent, count, motorEvents, ← motors]
          exact ih queue later
      | engineThread now =>
          obtain ⟨speed, left, rfl, queue, moved⟩ := step_engineThread queued stepped
          obtain ⟨below, remains, moves⟩ := ih queue later
          have count : rounds (.engineThread now :: rest) = rounds rest + 1 :=
            List.countP_cons_of_pos rfl
          have sent : sentSpeeds (.engineThread now :: rest) = sentSpeeds rest :=
            List.filterMap_cons_none rfl
          rw [sent, count, List.cons_append, motorEvents, run_cons moved, List.drop_succ_cons]
          exact ⟨Nat.succ_le_succ below, remains, moves⟩
      | expiry now motor => exact control (.expiry now motor) rfl rfl rfl fun _ => rfl
      | emergencyStop => exact control .emergencyStop rfl rfl rfl fun _ => rfl
      | shell now motor args => exact control (.shell now motor args) rfl rfl rfl fun _ => rfl

end

structure Steering.Sound (steering : Steering) : Prop where
  motors : MotorControl.Sound steering.motors
  room : steering.queue.maxmsg = numMessages

theorem Steering.Sound.boot (buffer : Memory) (started : Motor → Ktime) :
    (Steering.boot buffer started).Sound where
  motors := MotorControl.Sound.boot started
  room := rfl

section

variable {steering after : Steering}

theorem Steering.Sound.control {event : MotorControl.Event} (sound : steering.Sound)
    (stepped : steering.control event = some after) : after.Sound := by
  obtain ⟨queue, moved⟩ := step_control stepped
  exact ⟨sound.motors.step moved, by rw [queue]; exact sound.room⟩

theorem Steering.Sound.step {event : SteeringEvent} (sound : steering.Sound)
    (stepped : steering.step event = some after) : after.Sound := by
  cases event with
  | request failure request =>
      have room : after.queue.maxmsg = steering.queue.maxmsg := by
        simp only [Steering.step] at stepped
        split at stepped
        · cases stepped
          rfl
        split at stepped
        · cases stepped
          rfl
        · obtain ⟨queue, sent, rfl⟩ := Option.map_eq_some_iff.mp stepped
          exact Mqueue.mqSend_maxmsg sent
      exact ⟨by rw [(step_request stepped).1]; exact sound.motors, room.trans sound.room⟩
  | engineThread now =>
      obtain ⟨⟨message, queue⟩, received, handled⟩ := Option.bind_eq_some_iff.mp stepped
      have taken : Steering.Sound {
          steering with queue, buffer := RobotMessage.receive message steering.buffer } :=
        ⟨sound.motors, (Mqueue.mqReceive_maxmsg received).trans sound.room⟩
      exact taken.control handled
  | expiry now motor => exact sound.control stepped
  | emergencyStop => exact sound.control stepped
  | shell now motor args => exact sound.control stepped

/-- The engine thread only ever waits for a message. -/
theorem Steering.Sound.engineThread (sound : steering.Sound) (now : Ktime)
    (waiting : steering.queue.messages ≠ []) :
    ∃ next, steering.step (.engineThread now) = some next := by
  obtain ⟨message, queue, received⟩ := Mqueue.mqReceive_exists waiting
  let buffer := RobotMessage.receive message steering.buffer
  obtain ⟨motors, moved⟩ :=
    MotorControl.message_total sound.motors now (RobotMessage.engineMessage buffer)
  refine ⟨{ queue, buffer, motors }, ?_⟩
  simp only [Steering.step, received, Option.bind_some, Steering.control]
  exact congrArg (Option.map _) moved

end

/-- What the objects are given by an event; only messages reach them. -/
def givenBy (given : Motor → Option UInt32) : MotorControl.Event → Motor → Option UInt32
  | .message _ msg => fun motor => nextSpeed motor (given motor) msg
  | _ => given

theorem control_follows {given : Motor → Option UInt32} {motors after : Motors EngineDriver}
    {event : MotorControl.Event} (follows : Follows given motors)
    (stepped : MotorControl.step motors event = some after) : Follows (givenBy given event) after := by
  cases event with
  | message now msg =>
      obtain ⟨next, ran, nextFollows⟩ := engineThread_follows (engineDevice now) 0 msg follows
      have same : after = next := by
        simp only [MotorControl.step, MotorControl.engineRounds, ran] at stepped
        exact (Option.some.inj stepped).symm
      rw [same]
      exact nextFollows
  | expiry now motor =>
      obtain ⟨driver, _, rfl⟩ := Option.map_eq_some_iff.mp stepped
      exact follows
  | emergencyStop =>
      cases stepped
      exact follows
  | shell now motor args =>
      cases stepped
      exact follows

def nonzero (speed : UInt32) : Option UInt32 := if speed = 0 then none else some speed

theorem givenBy_speedMessage (given : Motor → Option UInt32) (now : Ktime) (speed : UInt32) :
    givenBy given (.message now (speedMessage speed)) =
      Function.update given .motor1 (nonzero speed) := by
  have left : (speedMessage speed).addressee = some .motor1 := by
    rw [EngineMessage.addressee_iff]
    exact ⟨rfl, rfl⟩
  have same : (speedMessage speed).speed = speed := rfl
  funext motor
  cases motor with
  | motor1 => simp [givenBy, nextSpeed, left, nonzero, same]
  | motor2 => simp [givenBy, nextSpeed, left]

/-- The last speed that was handled is the one that the left object is left with. -/
theorem given_motorEvents {speeds : List UInt32} {events : List SteeringEvent}
    (enough : rounds events ≤ speeds.length) (given : Motor → Option UInt32) :
    (motorEvents speeds events).foldl givenBy given =
      (speeds.take (rounds events)).foldl
        (fun given speed => Function.update given .motor1 (nonzero speed)) given := by
  induction events generalizing speeds given with
  | nil => simp [motorEvents, rounds]
  | cons event rest ih =>
      -- Nothing else gives the objects a speed.
      have other (notRound : event.isRound = false)
          (same : (motorEvents speeds (event :: rest)).foldl givenBy given =
            (motorEvents speeds rest).foldl givenBy given) :
          (motorEvents speeds (event :: rest)).foldl givenBy given =
            (speeds.take (rounds (event :: rest))).foldl
              (fun given speed => Function.update given .motor1 (nonzero speed)) given := by
        have count : rounds (event :: rest) = rounds rest :=
          List.countP_cons_of_neg (by simp [notRound])
        rw [count] at enough ⊢
        rw [same]
        exact ih enough given
      cases event with
      | request failure request => exact other rfl rfl
      | engineThread now =>
          have count : rounds (.engineThread now :: rest) = rounds rest + 1 :=
            List.countP_cons_of_pos rfl
          rw [count] at enough ⊢
          cases speeds with
          | nil => simp at enough
          | cons speed speeds =>
              rw [motorEvents, List.foldl_cons, givenBy_speedMessage, List.take_succ_cons,
                List.foldl_cons]
              exact ih (Nat.le_of_succ_le_succ enough) _
      | expiry now motor => exact other rfl rfl
      | emergencyStop => exact other rfl rfl
      | shell now motor args => exact other rfl rfl

theorem foldl_update (speeds : List UInt32) :
    speeds.foldl (fun given speed => Function.update given .motor1 (nonzero speed))
        (fun _ => none) =
      Function.update (fun _ => none) Motor.motor1 (nonzero (speeds.getLast?.getD 0)) := by
  induction speeds using List.reverseRecOn with
  | nil => exact (Function.update_eq_self Motor.motor1 _).symm
  | append_singleton speeds speed ih =>
      rw [List.foldl_append, ih, List.getLast?_concat]
      exact Function.update_idem _ _ _

theorem standsFor_nonzero {speed : UInt32} {object : MotorObject}
    (stands : StandsFor ((nonzero speed).map UInt32.toInt32) object) :
    object.currentSpeed = speed.toInt32 ∧ (object.machine.currentState = stIdle ↔ speed = 0) := by
  by_cases zero : speed = 0
  · subst zero
    cases stands with
    | idle rest noSpeed => exact ⟨noSpeed, fun _ => rfl, fun _ => rest.current⟩
  · have idle := MotorControl.idle_iff stands
    simp only [nonzero, if_neg zero, Option.map_some] at stands idle
    exact ⟨MotorControl.standsFor_speed stands, by simp [idle, zero]⟩

/-- What happens to the right motor without the web interface. -/
def SteeringEvent.right : SteeringEvent → Option MotorControl.Event
  | .expiry now .motor2 => some (.expiry now .motor2)
  | .shell now .motor2 args => some (.shell now .motor2 args)
  | .emergencyStop => some .emergencyStop
  | _ => none

def isEmergencyStop : MotorControl.Event → Bool
  | .emergencyStop => true
  | _ => false

def concernsRight (event : MotorControl.Event) : Bool :=
  isEmergencyStop event || event.target = some .motor2

theorem filter_motorEvents {speeds : List UInt32} {events : List SteeringEvent} :
    (motorEvents speeds events).filter concernsRight = events.filterMap SteeringEvent.right := by
  induction events generalizing speeds with
  | nil => simp [motorEvents]
  | cons event rest ih =>
      have kept {moves : MotorControl.Event} (concerns : concernsRight moves = true)
          (same : event.right = some moves) :
          (moves :: motorEvents speeds rest).filter concernsRight =
            (event :: rest).filterMap SteeringEvent.right := by
        rw [List.filter_cons_of_pos concerns, List.filterMap_cons_some same, ih]
      have dropped {moves : MotorControl.Event} (others : concernsRight moves = false)
          (none : event.right = none) (left : List UInt32) :
          (moves :: motorEvents left rest).filter concernsRight =
            (event :: rest).filterMap SteeringEvent.right := by
        rw [List.filter_cons_of_neg (by simp [others]), List.filterMap_cons_none none, ih]
      cases event with
      | request failure request => exact ih.trans (List.filterMap_cons_none rfl).symm
      | engineThread now =>
          cases speeds with
          | nil => exact ih.trans (List.filterMap_cons_none rfl).symm
          | cons speed speeds => exact dropped rfl rfl speeds
      | expiry now motor =>
          cases motor with
          | motor1 => exact dropped rfl rfl speeds
          | motor2 => exact kept rfl rfl
      | emergencyStop => exact kept rfl rfl
      | shell now motor args =>
          cases motor with
          | motor1 => exact dropped rfl rfl speeds
          | motor2 => exact kept rfl rfl

theorem driverPart_emergencyStop {motor : Motor} {first second : EngineDriver}
    (same : MotorControl.driverPart motor first = MotorControl.driverPart motor second) :
    MotorControl.driverPart motor (kGpioIrqSignalHandler first) =
      MotorControl.driverPart motor (kGpioIrqSignalHandler second) := by
  have cancels (stopped : Motor) : Local MotorControl.driverPart stopped fun driver =>
      driver.setHrtimer stopped (hrtimerTryToCancel (driver.hrtimer stopped)).1 :=
    MotorControl.local_update fun vars =>
      { vars with hrtimer := (hrtimerTryToCancel vars.hrtimer).1 }
  have darkens (stopped : Motor) : Local MotorControl.driverPart stopped fun driver =>
      driver.write (motorLedsOff stopped) :=
    MotorControl.local_write (motorLedsOff_pins stopped)
  have cancelled := (cancels .motor2).keeps motor ((cancels .motor1).keeps motor same)
  exact (darkens .motor2).keeps motor ((darkens .motor1).keeps motor cancelled)

theorem emergencyStop_together {motor : Motor} {first second after : Motors EngineDriver}
    {event : MotorControl.Event}
    (same : MotorControl.part motor first = MotorControl.part motor second)
    (stop : isEmergencyStop event = true) (stepped : MotorControl.step first event = some after) :
    ∃ alone, MotorControl.step second event = some alone ∧
      MotorControl.part motor alone = MotorControl.part motor after := by
  cases event with
  | emergencyStop =>
      cases stepped
      obtain ⟨object, driver⟩ := MotorControl.part_eq_iff.mp same.symm
      exact ⟨_, rfl, MotorControl.part_eq_iff.mpr ⟨object, driverPart_emergencyStop driver⟩⟩
  | message now msg => cases stop
  | expiry now motor => cases stop
  | shell now motor args => cases stop

section

variable {buffer : Memory} {started : Motor → Ktime} {events : List SteeringEvent}
  {final : Steering}

/-- Each speed of an accepted request is handled once, in the order of the requests, or
still waits in the queue; and the engine thread is never trapped. -/
theorem speeds_arrive_in_order (ran : run Steering.step (.boot buffer started) events = some final) :
    rounds events ≤ (sentSpeeds events).length ∧
      final.queue.messages =
        ((sentSpeeds events).drop (rounds events)).map (sendEngineMessage 0) ∧
      (sentSpeeds events).length ≤ rounds events + numMessages ∧
      run MotorControl.step (MotorControl.boot started) (motorEvents (sentSpeeds events) events) =
        some final.motors ∧
      (final.queue.messages ≠ [] → ∀ now, ∃ next, final.step (.engineThread now) = some next) := by
  have sound := run_invariant (Steering.Sound.boot buffer started)
    (fun _ _ _ sound stepped => sound.step stepped) ran
  obtain ⟨handled, waiting, moved⟩ := @run_speeds (.boot buffer started) final events [] rfl ran
  rw [List.nil_append] at handled waiting moved
  have room : final.queue.messages.length ≤ numMessages := by
    rw [← sound.room]
    exact final.queue.fits
  rw [waiting, List.length_map, List.length_drop] at room
  exact ⟨handled, waiting, by omega, moved, fun some now => sound.engineThread now some⟩

def sampleSteering : List SteeringEvent :=
  [.request false (.setLeftSpeed 7 (setLeftMotorSpeed (some "50".toList))),
    .request false (.setRightSpeed 7 (setLeftMotorSpeed (some "30".toList))), .engineThread 0,
    .shell 1 .motor2 ["m2".toList, "70".toList], .expiry 5 .motor1,
    .request false (.setLeftSpeed 7 (setLeftMotorSpeed (some "-3".toList))), .emergencyStop,
    .request false (.setLeftSpeed 7 (setLeftMotorSpeed none))]

theorem sampleSteering_waits :
    ∃ final, run Steering.step (.boot (fun _ => 0) fun _ => 0) sampleSteering = some final ∧
      final.queue.messages = [sendEngineMessage 0 0] := by
  have ran : (run Steering.step (.boot (fun _ => 0) fun _ => 0) sampleSteering).isSome = true := by
    decide +kernel
  obtain ⟨final, isFinal⟩ := Option.isSome_iff_exists.mp ran
  have left : (sentSpeeds sampleSteering).drop (rounds sampleSteering) = [0] := by decide +kernel
  obtain ⟨_, waiting, _⟩ := speeds_arrive_in_order isFinal
  refine ⟨final, isFinal, ?_⟩
  rw [waiting, left]
  rfl

/-- The left object stands for the last speed that was handled, and the right one never
leaves its first state. -/
theorem left_motor_obeys (ran : run Steering.step (.boot buffer started) events = some final) :
    let speed := (handledSpeeds events).getLast?.getD 0
    (final.motors.object .motor1).currentSpeed = speed.toInt32 ∧
      ((final.motors.object .motor1).machine.currentState = stIdle ↔ speed = 0) ∧
      (final.motors.object .motor2).currentSpeed = 0 ∧
      (final.motors.object .motor2).machine.currentState = stIdle := by
  obtain ⟨handled, _, _, moved, _⟩ := speeds_arrive_in_order ran
  have follows : Follows ((motorEvents (sentSpeeds events) events).foldl givenBy fun _ => none)
      final.motors :=
    @run_simulates _ _ MotorControl.step _ Follows (fun _ => True) givenBy
      (fun _ _ _ _ follows _ stepped => control_follows follows stepped) _ _ _ _
      (Follows.constructed _) moved fun _ _ => trivial
  rw [given_motorEvents handled, foldl_update] at follows
  obtain ⟨speed, idle⟩ := standsFor_nonzero (follows .motor1)
  obtain ⟨noSpeed, still⟩ := @standsFor_nonzero 0 _ (follows .motor2)
  exact ⟨speed, idle, noSpeed, still.mpr rfl⟩

theorem sampleSteering_halted :
    ∃ final, run Steering.step (.boot (fun _ => 0) fun _ => 0)
        (sampleSteering ++ [.engineThread 9]) = some final ∧
      (final.motors.object .motor1).currentSpeed = 0 := by
  have ran : (run Steering.step (.boot (fun _ => 0) fun _ => 0)
      (sampleSteering ++ [.engineThread 9])).isSome = true := by
    decide +kernel
  obtain ⟨final, isFinal⟩ := Option.isSome_iff_exists.mp ran
  have handled : handledSpeeds (sampleSteering ++ [.engineThread 9]) = [50, 0] := by
    decide +kernel
  obtain ⟨speed, _⟩ := left_motor_obeys isFinal
  refine ⟨final, isFinal, speed.trans ?_⟩
  rw [handled]
  rfl

/-- For the right motor there is no web interface. -/
theorem right_motor_apart (ran : run Steering.step (.boot buffer started) events = some final) :
    ∃ alone, run MotorControl.step (MotorControl.boot started)
        (events.filterMap SteeringEvent.right) = some alone ∧
      MotorControl.part .motor2 alone = MotorControl.part .motor2 final.motors := by
  obtain ⟨_, _, _, moved, _⟩ := speeds_arrive_in_order ran
  have sound := MotorControl.Sound.boot started
  have events : (motorEvents (sentSpeeds events) events).filter concernsRight =
      events.filterMap SteeringEvent.right := filter_motorEvents
  rw [← events]
  refine MotorControl.events_independent.run_concerning .motor2 isEmergencyStop
    (fun _ _ _ _ _ _ same stop stepped => emergencyStop_together same stop stepped)
    sound sound rfl ?_ moved
  rintro event _ notStop rfl
  cases notStop

theorem sampleSteering_apart :
    ∃ final alone, run Steering.step (.boot (fun _ => 0) fun _ => 0) sampleSteering = some final ∧
      run MotorControl.step (MotorControl.boot fun _ => 0)
        [.shell 1 .motor2 ["m2".toList, "70".toList], .emergencyStop] = some alone ∧
      MotorControl.part .motor2 alone = MotorControl.part .motor2 final.motors := by
  have ran : (run Steering.step (.boot (fun _ => 0) fun _ => 0) sampleSteering).isSome = true := by
    decide +kernel
  obtain ⟨final, isFinal⟩ := Option.isSome_iff_exists.mp ran
  obtain ⟨alone, ranAlone, same⟩ := right_motor_apart isFinal
  exact ⟨final, alone, isFinal, ranAlone, same⟩

end

end ToySystem.Web
