import ToySystem.Backend.Protocol
import ToySystem.Server.MonitorThread

namespace ToySystem.Backend

open ToySystem.Data ToySystem.Drivers.Sensor ToySystem.Libc ToySystem.Message ToySystem.Server
  ToySystem.Ui

/-! # A temperature on its way to the web

From the driver through a text, the shared segment, the message and a text
again.  On the way it is divided by 100 and put into an unsigned field.
-/

/-- What the programs hold on the way before the temperature passes through. -/
structure Stations where
  attrs : TempAttrs
  buff : SensorBuffer
  robotMsg : Memory
  vars : RecvVars
  osHostname : List Char
  robot : RobotState

/-- The robot stored and the state broadcast for a sample, if the backend calls
`UpdateRobot` at all. -/
def pipeline (stations : Stations) (sample : Int32) : Option (RobotState × BroadcastRobotState) :=
  let attrs := workqueueFn sample stations.attrs
  let sensorInfo := (sensorThread (showAttr attrs.notify) stations.buff).2
  let robotMsg := monitorThread sensorInfo stations.robotMsg
  let received := (recvMessage (RobotMessage.send robotMsg) stations.vars).2
  received.map fun robot =>
    updateRobot stations.osHostname stations.robot robot.id.toUInt64 (sprint robot.temperature)

theorem pipeline_temperature (stations : Stations) (sample : Int32) :
    ∃ robot broadcast, pipeline stations sample = some (robot, broadcast) ∧
      robot.temperature = sprint (sample / 100).toUInt32 ∧
      broadcast.temperature = sprint (sample / 100).toUInt32 := by
  have shown : (sensorThread (showAttr (workqueueFn sample stations.attrs).notify)
      stations.buff).2.temp = sample := sensorThread_temp sample stations.buff
  obtain ⟨isInfo, temperature⟩ := monitorThread_message
    (sensorThread (showAttr (workqueueFn sample stations.attrs).notify) stations.buff).2
    stations.robotMsg
  obtain ⟨after, received, _, robot⟩ := recvMessage_send _ stations.vars isInfo
  have carried : after.robot.temperature = (sample / 100).toUInt32 := by
    rw [robot, temperature, shown]
  refine ⟨_, _, by simp only [pipeline, received, Option.map_some]; rfl, ?_, ?_⟩
  · rw [← carried]
  · rw [← carried]

theorem whole_degrees (sample : Int32) : (sample / 100).toInt = sample.toInt.tdiv 100 :=
  Int32.toInt_div_of_ne_right sample 100 (by decide)

theorem tdiv_nonneg_iff (value : Int) : 0 ≤ value.tdiv 100 ↔ -100 < value := by
  by_cases nonneg : 0 ≤ value
  · rw [Int.tdiv_eq_ediv_of_nonneg nonneg]
    omega
  · have opposite : value.tdiv 100 = -(-value / 100) := by
      rw [← Int.tdiv_eq_ediv_of_nonneg (by omega : 0 ≤ -value), Int.neg_tdiv, Int.neg_neg]
    rw [opposite]
    omega

/-- An unsigned field keeps the value of the numbers that are not negative. -/
theorem toUInt32_toNat_iff (value : Int32) : (value.toUInt32.toNat : Int) = value.toInt ↔ 0 ≤ value.toInt := by
  have signed : value.toInt = value.toBitVec.toInt := rfl
  have same : value.toUInt32.toNat = value.toBitVec.toNat := rfl
  have below : value.toBitVec.toNat < 2 ^ 32 := value.toBitVec.isLt
  rw [signed, same, BitVec.toInt_eq_toNat_cond]
  split <;> omega

theorem temperature_survives_iff (stations : Stations) (sample : Int32) :
    (∃ robot broadcast, pipeline stations sample = some (robot, broadcast) ∧
        robot.temperature = decimal (sample.toInt.tdiv 100) ∧
        broadcast.temperature = decimal (sample.toInt.tdiv 100)) ↔
      -100 < sample.toInt := by
  obtain ⟨robot, broadcast, arrived, stored, sent⟩ := pipeline_temperature stations sample
  have below : (sample / 100).toUInt32.toNat < 2 ^ 32 := (sample / 100).toUInt32.toNat_lt
  have low := Int32.le_toInt (sample / 100)
  have high := Int32.toInt_lt (sample / 100)
  rw [← tdiv_nonneg_iff, ← whole_degrees, ← toUInt32_toNat_iff]
  constructor
  · intro ⟨robot', broadcast', arrived', stored', _⟩
    rw [arrived] at arrived'
    cases arrived'
    rw [stored, sprint] at stored'
    refine decimal_injective ?_ ?_ ?_ ?_ stored' <;> simp only [longMin, longMax] <;> omega
  · intro same
    exact ⟨robot, broadcast, arrived, by rw [stored, sprint, same], by rw [sent, sprint, same]⟩

def plainStations : Stations where
  attrs := { notify := 0, trigger := 0 }
  buff := ⟨List.replicate 100 'x', List.length_replicate⟩
  robotMsg _ := 0
  vars := {
    msg := { cmd := 0, data := zeroBlock messageDataLen }
    robot := { id := 0, hostname := zeroBlock hostnameLen, temperature := 0 } }
  osHostname := "toy".toList
  robot := {
    id := 12341234, hostName := [], temperature := [], lMotorSpeed := 0, rMotorSpeed := 0
    lMotorState := 0, rMotorState := 0 }

/-- Five degrees of frost. -/
theorem frost_arrives_unsigned :
    ∃ robot broadcast, pipeline plainStations (-500) = some (robot, broadcast) ∧
      broadcast.temperature = "4294967291".toList ∧
      ¬ (robot.temperature = decimal ((-500 : Int32).toInt.tdiv 100) ∧
        broadcast.temperature = decimal ((-500 : Int32).toInt.tdiv 100)) := by
  obtain ⟨robot, broadcast, arrived, stored, sent⟩ := pipeline_temperature plainStations (-500)
  refine ⟨robot, broadcast, arrived, sent, ?_⟩
  rw [stored, sent]
  decide

end ToySystem.Backend
