import ToySystem.Message.RobotMessage
import ToySystem.Ui.SensorThread

namespace ToySystem.Server

open ToySystem.Data ToySystem.Message ToySystem.Ui

/-! # The monitor thread

`monitor_thread` of `system/system_server.c` for a message `SENSOR_DATA` with
the shared segment attached: what it makes of its variable `robot_msg`.
-/

def monitorThread (sensorInfo : ShmSensor) (robotMsg : Memory) : Memory :=
  let robotMsg := robotMsg.storeUInt32 RobotMessage.idOffset messageIdInfo
  let robotMsg := robotMsg.storeUInt32 RobotMessage.infoIdOffset 12341234
  -- an `int` that becomes an `unsigned int`
  robotMsg.storeUInt32 RobotMessage.infoTemperatureOffset (sensorInfo.temp / 100).toUInt32

theorem monitorThread_message (sensorInfo : ShmSensor) (robotMsg : Memory) :
    RobotMessage.id (monitorThread sensorInfo robotMsg) = messageIdInfo ∧
      RobotMessage.infoTemperature (monitorThread sensorInfo robotMsg) =
        (sensorInfo.temp / 100).toUInt32 := by
  constructor
  · rw [RobotMessage.id, monitorThread, Memory.loadUInt32_storeUInt32_other _ _ (by decide),
      Memory.loadUInt32_storeUInt32_other _ _ (by decide), Memory.loadUInt32_storeUInt32]
  · rw [RobotMessage.infoTemperature, monitorThread, Memory.loadUInt32_storeUInt32]

end ToySystem.Server
