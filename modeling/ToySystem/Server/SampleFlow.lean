import ToySystem.Data.Run
import ToySystem.Data.Thread
import ToySystem.Kernel.Mqueue
import ToySystem.Message.ToyMessage
import ToySystem.Server.MonitorThread

namespace ToySystem.Server.SampleFlow

open ToySystem.Data ToySystem.Kernel ToySystem.Libc ToySystem.Message ToySystem.Ui

/-! # From the sensor thread to the monitor thread

`sensor_thread` of `ui/input.c` and `monitor_thread` of `system/system_server.c`,
statement by statement.  A message on the monitor queue says that there is a
sample in the shared segment; the monitor thread reads the segment later, when it
may hold a newer one.
-/

/-- The loop from `read` on; `poll` only prints. -/
inductive SensorStatement where
  | read
  | storeTemp
  | storePress
  | storeHumidity
  | mqSend
deriving DecidableEq, Repr

inductive MonitorStatement where
  | mqReceive
  | testType (msg : ToyMsg)
  | toyShmAttach (shmid : UInt32)
  | printSample
  | fillMessage
  | mqSend
  | toyShmDetach
  | dumpState
  | unknownMessage
deriving DecidableEq, Repr

def storeAndSend : List SensorStatement := [.storeTemp, .storePress, .storeHumidity, .mqSend]

def handleSensorData (shmid : UInt32) : List MonitorStatement :=
  [.toyShmAttach shmid, .printSample, .fillMessage, .mqSend, .toyShmDetach, .mqReceive]

/-- The cases of the `if`, and then the next iteration. -/
def handleMessage (msg : ToyMsg) : List MonitorStatement :=
  if msg.msgType = sensorData then handleSensorData msg.param1
  else if msg.msgType = dumpState then [.dumpState, .mqReceive]
  else [.unknownMessage, .mqReceive]

/-- `shmid` is that of the segment, which stays attached.  The fields from
`samples` on are history variables: the temperatures written, the first being
sample 1; for each `SENSOR_DATA` message the number of samples written before it;
the messages of this type that were received; the sample that `robotMsg` was
filled with; and the messages for the backend, with their samples. -/
structure Flow where
  shmid : UInt32
  sensorInfo : ShmSensor
  buff : SensorBuffer
  monitorQueue : Mqueue ToyMsg
  robotMsg : Memory
  sensor : List SensorStatement
  monitor : List MonitorStatement
  samples : List Int32
  announced : List Nat
  received : Nat
  picked : Nat
  sent : List (Nat × Memory)

/-- `text` is what `read` returns, if it does not fail. -/
def sensorExec (text : Option (List Char)) : SensorStatement → Flow →
    Option (Flow × List SensorStatement)
  | .read, flow =>
      match text with
      | none => some (flow, [.read])
      | some text => some ({ flow with buff := readNotify text flow.buff }, storeAndSend)
  | .storeTemp, flow => some ({ flow with
      sensorInfo := { flow.sensorInfo with temp := atoi flow.buff.val }
      samples := flow.samples ++ [atoi flow.buff.val] }, [])
  | .storePress, flow =>
      some ({ flow with sensorInfo := { flow.sensorInfo with press := 11 } }, [])
  | .storeHumidity, flow =>
      some ({ flow with sensorInfo := { flow.sensorInfo with humidity := 80 } }, [])
  | .mqSend, flow =>
      (flow.monitorQueue.mqSend { msgType := sensorData, param1 := flow.shmid, param2 := 0 }).map
        fun monitorQueue => ({ flow with
          monitorQueue
          announced := flow.announced ++ [flow.samples.length] }, [.read])

def isSensorData (msg : ToyMsg) : Bool := msg.msgType = sensorData

def monitorExec : MonitorStatement → Flow → Option (Flow × List MonitorStatement)
  | .mqReceive, flow =>
      flow.monitorQueue.mqReceive.map fun (msg, monitorQueue) => ({ flow with
        monitorQueue
        received := flow.received + if isSensorData msg then 1 else 0 }, [.testType msg])
  | .testType msg, flow => some (flow, handleMessage msg)
  | .fillMessage, flow => some ({ flow with
      robotMsg := monitorThread flow.sensorInfo flow.robotMsg
      picked := flow.samples.length }, [])
  | .mqSend, flow => some ({ flow with sent := flow.sent ++ [(flow.picked, flow.robotMsg)] }, [])
  | .toyShmAttach _, flow | .printSample, flow | .toyShmDetach, flow | .dumpState, flow
  | .unknownMessage, flow => some (flow, [])

inductive Event where
  | sensor (text : Option (List Char))
  | monitor
  | toyDumpState
deriving DecidableEq, Repr

def step (flow : Flow) : Event → Option Flow
  | .sensor text =>
      (proceed (sensorExec text) flow flow.sensor).map fun (flow, sensor) => { flow with sensor }
  | .monitor =>
      (proceed monitorExec flow flow.monitor).map fun (flow, monitor) => { flow with monitor }
  | .toyDumpState =>
      (flow.monitorQueue.mqSend { msgType := dumpState, param1 := 0, param2 := 0 }).map
        fun monitorQueue => { flow with monitorQueue }

/-- Both threads before their loops, and no sample yet. -/
def started (maxmsg : Nat) (shmid : UInt32) (sensorInfo : ShmSensor) (buff : SensorBuffer)
    (robotMsg : Memory) : Flow where
  shmid := shmid
  sensorInfo := sensorInfo
  buff := buff
  monitorQueue := .empty maxmsg
  robotMsg := robotMsg
  sensor := [.read]
  monitor := [.mqReceive]
  samples := []
  announced := []
  received := 0
  picked := 0
  sent := []

/-- The message carries the temperature of the sample, in whole degrees. -/
def Carries (samples : List Int32) (message : Nat × Memory) : Prop :=
  ∃ temp, 0 < message.1 ∧ samples[message.1 - 1]? = some temp ∧
    RobotMessage.id message.2 = messageIdInfo ∧
    RobotMessage.infoTemperature message.2 = (temp / 100).toUInt32

/-- The monitor thread holds a `SENSOR_DATA` message that it has sent nothing for. -/
def inHand : List MonitorStatement → Nat
  | .testType msg :: _ => if isSensorData msg then 1 else 0
  | code => if .mqSend ∈ code then 1 else 0

def waiting (flow : Flow) : Bool :=
  flow.monitor.head? = some .mqReceive && flow.monitorQueue.messages.isEmpty

/-- The sensor thread with so many samples written and so many announced. -/
inductive SensorAt (written announced : Nat) : List SensorStatement → Prop
  | read (level : written = announced) : SensorAt written announced [.read]
  | storeTemp (level : written = announced) : SensorAt written announced storeAndSend
  | storePress (ahead : written = announced + 1) :
      SensorAt written announced [.storePress, .storeHumidity, .mqSend]
  | storeHumidity (ahead : written = announced + 1) :
      SensorAt written announced [.storeHumidity, .mqSend]
  | mqSend (ahead : written = announced + 1) : SensorAt written announced [.mqSend]

inductive MonitorAt : List MonitorStatement → Prop
  | mqReceive : MonitorAt [.mqReceive]
  | testType (msg : ToyMsg) : MonitorAt [.testType msg]
  | toyShmAttach (shmid : UInt32) : MonitorAt (handleSensorData shmid)
  | printSample : MonitorAt [.printSample, .fillMessage, .mqSend, .toyShmDetach, .mqReceive]
  | fillMessage : MonitorAt [.fillMessage, .mqSend, .toyShmDetach, .mqReceive]
  | mqSend : MonitorAt [.mqSend, .toyShmDetach, .mqReceive]
  | toyShmDetach : MonitorAt [.toyShmDetach, .mqReceive]
  | dumpState : MonitorAt [.dumpState, .mqReceive]
  | unknownMessage : MonitorAt [.unknownMessage, .mqReceive]

theorem SensorAt.announced_le {written announced : Nat} {code : List SensorStatement}
    (here : SensorAt written announced code) : announced ≤ written := by
  cases here <;> omega

theorem monitorAt_handleMessage (msg : ToyMsg) : MonitorAt (handleMessage msg) := by
  unfold handleMessage
  split
  · exact .toyShmAttach msg.param1
  · split
    · exact .dumpState
    · exact .unknownMessage

theorem handleMessage_notFilled (msg : ToyMsg) : (handleMessage msg).head? ≠ some .mqSend := by
  unfold handleMessage
  split
  · exact (nomatch ·)
  · split <;> exact (nomatch ·)

theorem inHand_handleMessage (msg : ToyMsg) :
    inHand (handleMessage msg) = if isSensorData msg then 1 else 0 := by
  unfold handleMessage isSensorData
  split
  · rename_i sensor
    simp [handleSensorData, inHand, sensor]
  · rename_i other
    split
    · simp [inHand, other]
    · simp [inHand, other]

/-- Sample `n` is announced by message `n`, and the segment holds the newest. -/
structure Written (sensor : List SensorStatement) (samples : List Int32) (announced : List Nat)
    (temp : Int32) : Prop where
  sensorAt : SensorAt samples.length announced.length sensor
  numbered : announced = List.range' 1 announced.length
  newest : ∀ sample ∈ samples.getLast?, temp = sample

/-- Every message received is answered with one that is at least as new. -/
structure Answered (samples : List Int32) (monitor : List MonitorStatement) (received picked : Nat)
    (robotMsg : Memory) (sent : List (Nat × Memory)) : Prop where
  monitorAt : MonitorAt monitor
  counted : sent.length + inHand monitor = received
  filled : monitor.head? = some .mqSend → received ≤ picked ∧ Carries samples (picked, robotMsg)
  past : picked ≤ samples.length
  ordered : (sent.map Prod.fst).Pairwise (· ≤ ·)
  earlier : ∀ message ∈ sent, message.1 ≤ picked
  carried : ∀ message ∈ sent, Carries samples message
  newest : ∀ message ∈ sent.getLast?, sent.length ≤ message.1

structure Inv (flow : Flow) : Prop where
  written : Written flow.sensor flow.samples flow.announced flow.sensorInfo.temp
  answered : Answered flow.samples flow.monitor flow.received flow.picked flow.robotMsg flow.sent
  queued : flow.announced.length =
    flow.received + flow.monitorQueue.messages.countP isSensorData

theorem Inv.started (maxmsg : Nat) (shmid : UInt32) (sensorInfo : ShmSensor) (buff : SensorBuffer)
    (robotMsg : Memory) : Inv (started maxmsg shmid sensorInfo buff robotMsg) where
  written := {
    sensorAt := .read rfl
    numbered := rfl
    newest := fun _ none => nomatch none }
  answered := {
    monitorAt := .mqReceive
    counted := rfl
    filled := fun isSend => nomatch isSend
    past := Nat.le_refl 0
    ordered := .nil
    earlier := fun _ none => nomatch none
    carried := fun _ none => nomatch none
    newest := fun _ none => nomatch none }
  queued := rfl

theorem Carries.grow {samples : List Int32} {message : Nat × Memory}
    (carries : Carries samples message) (temp : Int32) : Carries (samples ++ [temp]) message := by
  obtain ⟨sample, positive, found, isInfo, temperature⟩ := carries
  have inside : message.1 - 1 < samples.length := (List.getElem?_eq_some_iff.mp found).1
  have still : (samples ++ [temp])[message.1 - 1]? = some sample := by
    rw [List.getElem?_append_left inside, found]
  exact ⟨sample, positive, still, isInfo, temperature⟩

theorem Answered.grow {samples : List Int32} {monitor : List MonitorStatement}
    {received picked : Nat} {robotMsg : Memory} {sent : List (Nat × Memory)}
    (answered : Answered samples monitor received picked robotMsg sent) (temp : Int32) :
    Answered (samples ++ [temp]) monitor received picked robotMsg sent where
  monitorAt := answered.monitorAt
  counted := answered.counted
  filled isSend := by
    obtain ⟨recent, carries⟩ := answered.filled isSend
    exact ⟨recent, carries.grow temp⟩
  past := by
    have past := answered.past
    rw [List.length_append]
    omega
  ordered := answered.ordered
  earlier := answered.earlier
  carried message member := (answered.carried message member).grow temp
  newest := answered.newest

theorem Inv.sensor {flow after : Flow} {text : Option (List Char)} (inv : Inv flow)
    (stepped : step flow (.sensor text) = some after) : Inv after := by
  obtain ⟨⟨written, numbered, newest⟩, answered, queued⟩ := inv
  obtain ⟨⟨next, code⟩, proceeded, rfl⟩ := Option.map_eq_some_iff.mp stepped
  obtain ⟨statement, others, added, shape, executed, rfl⟩ := proceed_eq_some proceeded
  rw [shape] at written
  cases written with
  | read level =>
      cases text with
      | none =>
          cases executed
          exact ⟨⟨.read level, numbered, newest⟩, answered, queued⟩
      | some text =>
          cases executed
          exact ⟨⟨.storeTemp level, numbered, newest⟩, answered, queued⟩
  | storeTemp level =>
      cases executed
      have ahead : (flow.samples ++ [atoi flow.buff.val]).length = flow.announced.length + 1 := by
        rw [List.length_append, List.length_singleton, level]
      refine ⟨⟨.storePress ahead, numbered, ?_⟩, answered.grow (atoi flow.buff.val), queued⟩
      simp
  | storePress ahead =>
      cases executed
      exact ⟨⟨.storeHumidity ahead, numbered, newest⟩, answered, queued⟩
  | storeHumidity ahead =>
      cases executed
      exact ⟨⟨.mqSend ahead, numbered, newest⟩, answered, queued⟩
  | mqSend ahead =>
      obtain ⟨monitorQueue, queueSent, same⟩ := Option.map_eq_some_iff.mp executed
      cases same
      have messages := Mqueue.mqSend_messages queueSent
      have length : (flow.announced ++ [flow.samples.length]).length =
          flow.announced.length + 1 := by
        rw [List.length_append, List.length_singleton]
      refine ⟨⟨.read ?_, ?_, newest⟩, answered, ?_⟩
      · rw [length, ahead]
      · rw [length, List.range'_1_concat, ← numbered, ahead, Nat.add_comm]
      · simp [length, messages, queued, isSensorData, Nat.add_assoc]

section

variable {samples : List Int32} {monitor : List MonitorStatement} {received picked : Nat}
  {robotMsg : Memory} {sent : List (Nat × Memory)}

/-- A statement that neither fills the message nor sends it. -/
theorem Answered.advance (answered : Answered samples monitor received picked robotMsg sent)
    {code : List MonitorStatement} (here : MonitorAt code) (same : inHand code = inHand monitor)
    (notFilled : code.head? ≠ some .mqSend) :
    Answered samples code received picked robotMsg sent where
  monitorAt := here
  counted := by rw [same, answered.counted]
  filled isSend := absurd isSend notFilled
  past := answered.past
  ordered := answered.ordered
  earlier := answered.earlier
  carried := answered.carried
  newest := answered.newest

theorem Answered.receive (answered : Answered samples [.mqReceive] received picked robotMsg sent)
    (msg : ToyMsg) :
    Answered samples [.testType msg] (received + if isSensorData msg then 1 else 0) picked robotMsg
      sent where
  monitorAt := .testType msg
  counted := by
    have counted : sent.length + 0 = received := answered.counted
    rw [← counted]
    rfl
  filled isSend := nomatch isSend
  past := answered.past
  ordered := answered.ordered
  earlier := answered.earlier
  carried := answered.carried
  newest := answered.newest

/-- There is a sample when the message is filled, and it is the newest one. -/
theorem Answered.fill {sensorInfo : ShmSensor}
    (answered : Answered samples [.fillMessage, .mqSend, .toyShmDetach, .mqReceive] received picked
      robotMsg sent)
    (newest : ∀ sample ∈ samples.getLast?, sensorInfo.temp = sample)
    (known : received ≤ samples.length) :
    Answered samples [.mqSend, .toyShmDetach, .mqReceive] received samples.length
      (monitorThread sensorInfo robotMsg) sent where
  monitorAt := .mqSend
  counted := answered.counted
  filled _ := by
    have counted : sent.length + 1 = received := answered.counted
    obtain ⟨isInfo, temperature⟩ := monitorThread_message sensorInfo robotMsg
    have last : samples[samples.length - 1]? = some sensorInfo.temp := by
      have inside : samples.length - 1 < samples.length := by omega
      rw [List.getElem?_eq_getElem inside]
      have held := newest samples[samples.length - 1]
        (by rw [List.getLast?_eq_getElem?, List.getElem?_eq_getElem inside]; rfl)
      rw [held]
    have positive : 0 < samples.length := by omega
    exact ⟨known, sensorInfo.temp, positive, last, isInfo, temperature⟩
  past := Nat.le_refl samples.length
  ordered := answered.ordered
  earlier message member := Nat.le_trans (answered.earlier message member) answered.past
  carried := answered.carried
  newest := answered.newest

theorem Answered.send
    (answered : Answered samples [.mqSend, .toyShmDetach, .mqReceive] received picked robotMsg
      sent) :
    Answered samples [.toyShmDetach, .mqReceive] received picked robotMsg
      (sent ++ [(picked, robotMsg)]) := by
  have counted : sent.length + 1 = received := answered.counted
  obtain ⟨recent, carries⟩ := answered.filled rfl
  have length : (sent ++ [(picked, robotMsg)]).length = sent.length + 1 := by
    rw [List.length_append, List.length_singleton]
  refine ⟨.toyShmDetach, ?_, (nomatch ·), answered.past, ?_, ?_, ?_, ?_⟩
  · rw [length, ← counted]
    rfl
  · rw [List.map_append, List.pairwise_append]
    refine ⟨answered.ordered, List.pairwise_singleton _ _, ?_⟩
    intro earlier wasSent current isNew
    obtain ⟨message, member, rfl⟩ := List.mem_map.mp wasSent
    rw [List.map_singleton, List.mem_singleton] at isNew
    subst current
    exact answered.earlier message member
  · intro message member
    rcases List.mem_append.mp member with old | new
    · exact answered.earlier message old
    · rw [List.mem_singleton.mp new]
  · intro message member
    rcases List.mem_append.mp member with old | new
    · exact answered.carried message old
    · rw [List.mem_singleton.mp new]
      exact carries
  · intro message isLast
    rw [List.getLast?_concat] at isLast
    cases isLast
    rw [length, counted]
    exact recent

end

theorem Inv.monitor {flow after : Flow} (inv : Inv flow)
    (stepped : step flow .monitor = some after) : Inv after := by
  obtain ⟨written, answered, queued⟩ := inv
  obtain ⟨⟨next, code⟩, proceeded, rfl⟩ := Option.map_eq_some_iff.mp stepped
  obtain ⟨statement, others, added, shape, executed, rfl⟩ := proceed_eq_some proceeded
  rw [shape] at answered
  have here := answered.monitorAt
  cases here with
  | mqReceive =>
      obtain ⟨⟨msg, monitorQueue⟩, received, same⟩ := Option.map_eq_some_iff.mp executed
      cases same
      have count : flow.announced.length = (flow.received + if isSensorData msg then 1 else 0) +
          monitorQueue.messages.countP isSensorData := by
        rw [queued, Mqueue.mqReceive_messages received, List.countP_cons]
        omega
      exact ⟨written, answered.receive msg, count⟩
  | testType msg =>
      cases executed
      rw [List.append_nil]
      exact ⟨written, answered.advance (monitorAt_handleMessage msg) (inHand_handleMessage msg)
        (handleMessage_notFilled msg), queued⟩
  | toyShmAttach shmid =>
      cases executed
      exact ⟨written, answered.advance .printSample rfl (nomatch ·), queued⟩
  | printSample =>
      cases executed
      exact ⟨written, answered.advance .fillMessage rfl (nomatch ·), queued⟩
  | fillMessage =>
      cases executed
      have announced := written.sensorAt.announced_le
      have known : flow.received ≤ flow.samples.length := by omega
      exact ⟨written, answered.fill written.newest known, queued⟩
  | mqSend =>
      cases executed
      exact ⟨written, answered.send, queued⟩
  | toyShmDetach =>
      cases executed
      exact ⟨written, answered.advance .mqReceive rfl (nomatch ·), queued⟩
  | dumpState =>
      cases executed
      exact ⟨written, answered.advance .mqReceive rfl (nomatch ·), queued⟩
  | unknownMessage =>
      cases executed
      exact ⟨written, answered.advance .mqReceive rfl (nomatch ·), queued⟩

theorem Inv.toyDumpState {flow after : Flow} (inv : Inv flow)
    (stepped : step flow .toyDumpState = some after) : Inv after := by
  obtain ⟨written, answered, queued⟩ := inv
  obtain ⟨monitorQueue, sent, rfl⟩ := Option.map_eq_some_iff.mp stepped
  refine ⟨written, answered, ?_⟩
  have notSample : isSensorData { msgType := dumpState, param1 := 0, param2 := 0 } = false := rfl
  simp [Mqueue.mqSend_messages sent, notSample, queued]

theorem Inv.step {flow after : Flow} {event : Event} (inv : Inv flow)
    (stepped : SampleFlow.step flow event = some after) : Inv after := by
  cases event with
  | sensor text => exact inv.sensor stepped
  | monitor => exact inv.monitor stepped
  | toyDumpState => exact inv.toyDumpState stepped

theorem MonitorAt.idle {code : List MonitorStatement} (here : MonitorAt code)
    (isReceive : code.head? = some .mqReceive) : code = [.mqReceive] := by
  cases here <;> first | rfl | cases isReceive

theorem Inv.caught_up {flow : Flow} (inv : Inv flow) (isWaiting : waiting flow = true) :
    flow.sent.length = flow.announced.length := by
  simp only [waiting, Bool.and_eq_true, decide_eq_true_eq, List.isEmpty_iff] at isWaiting
  obtain ⟨isReceive, empty⟩ := isWaiting
  have counted := inv.answered.counted
  have queued := inv.queued
  rw [inv.answered.monitorAt.idle isReceive] at counted
  rw [empty, List.countP_nil] at queued
  have noneInHand : inHand [.mqReceive] = 0 := rfl
  omega

theorem Inv.newest_reported {flow : Flow} (inv : Inv flow) (isWaiting : waiting flow = true) :
    ∀ sample ∈ flow.announced.getLast?, ∃ message ∈ flow.sent.getLast?, sample ≤ message.1 := by
  intro sample isLast
  have sameLength := inv.caught_up isWaiting
  have member := List.mem_of_getLast? isLast
  rw [inv.written.numbered, List.mem_range'_1] at member
  cases last : flow.sent.getLast? with
  | none =>
      have empty : flow.sent = [] := List.getLast?_eq_none_iff.mp last
      rw [empty, List.length_nil] at sameLength
      omega
  | some message =>
      have recent := inv.answered.newest message last
      exact ⟨message, rfl, by omega⟩

theorem samples_reported_in_order (maxmsg : Nat) (shmid : UInt32) (sensorInfo : ShmSensor)
    (buff : SensorBuffer) (robotMsg : Memory) (events : List Event) :
    ∀ flow ∈ visited step (started maxmsg shmid sensorInfo buff robotMsg) events,
      (flow.sent.map Prod.fst).Pairwise (· ≤ ·) ∧
        (∀ message ∈ flow.sent, Carries flow.samples message) ∧
        flow.sent.length + inHand flow.monitor = flow.received ∧
        flow.announced.length =
          flow.received + flow.monitorQueue.messages.countP isSensorData ∧
        (waiting flow = true →
          ∀ sample ∈ flow.announced.getLast?, ∃ message ∈ flow.sent.getLast?, sample ≤ message.1) := by
  intro flow isVisited
  have inv := visited_always (Inv.started maxmsg shmid sensorInfo buff robotMsg)
    (fun _ _ _ inv stepped => inv.step stepped) flow isVisited
  exact ⟨inv.answered.ordered, inv.answered.carried, inv.answered.counted, inv.queued,
    inv.newest_reported⟩

def fresh : Flow := started 10 7 ⟨0, 0, 0⟩ ⟨List.replicate 100 'x', rfl⟩ fun _ => 0

/-- The second sample overtakes the message of the first. -/
def twoSamples : List Event :=
  .toyDumpState :: List.replicate 10 (.sensor (some "2350\n".toList)) ++ List.replicate 17 .monitor

theorem twoSamples_reported : ∃ flow ∈ visited step fresh twoSamples,
    waiting flow = true ∧ flow.sent.map Prod.fst = [2, 2] ∧
      ∀ sample ∈ flow.announced.getLast?, ∃ message ∈ flow.sent.getLast?, sample ≤ message.1 := by
  refine ⟨_, List.mem_of_getLast? rfl, by decide, by decide, ?_⟩
  exact (samples_reported_in_order 10 7 ⟨0, 0, 0⟩ ⟨List.replicate 100 'x', rfl⟩ (fun _ => 0)
    twoSamples _ (List.mem_of_getLast? rfl)).2.2.2.2 (by decide)

end ToySystem.Server.SampleFlow
