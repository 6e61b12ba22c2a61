import ToySystem.Backend.Robots

namespace ToySystem.Backend

open ToySystem.Data ToySystem.Message ToySystem.Server

/-! # The two ends of the robot messages

The backend's message is two bytes shorter than the structure of the C side,
whose union is padded; the fields that are used lie at the same offsets.
-/

theorem uint32_offsets :
    RobotMessage.idOffset = 0 ∧ RobotMessage.motorIdOffset = 4 ∧
      RobotMessage.motorSpeedOffset = 8 ∧ RobotMessage.infoIdOffset = 4 ∧
      RobotMessage.infoHostnameOffset = 8 ∧ RobotMessage.infoTemperatureOffset = 40 := by decide

theorem writeMotorControl_length (motor : MotorControl) : (writeMotorControl motor).length = 8 := by
  simp [writeMotorControl]

theorem sendEngineMessage_bytes (motorId speed : UInt32) :
    sendEngineMessage motorId speed =
      uint32Bytes Backend.messageIdEngine ++
        (uint32Bytes motorId ++ (uint32Bytes speed ++ List.replicate 42 0)) := by
  have short : (writeMotorControl ⟨motorId, speed⟩).length ≤ messageDataLen := by
    rw [writeMotorControl_length]
    decide
  have padding : (zeroBlock messageDataLen).val.drop (writeMotorControl ⟨motorId, speed⟩).length =
      List.replicate 42 0 := by
    rw [writeMotorControl_length, zeroBlock, List.drop_replicate]
    rfl
  simp only [sendEngineMessage, writeSysmsg, copy, padding, List.take_of_length_le short]
  simp only [writeMotorControl, List.append_assoc]

theorem sendEngineMessage_length (motorId speed : UInt32) :
    (sendEngineMessage motorId speed).length = 54 := by
  rw [sendEngineMessage_bytes]
  simp

theorem loadUInt32_receive {message : List UInt8} {start : Nat} (buffer : Memory)
    (inside : start + 4 ≤ message.length) :
    (RobotMessage.receive message buffer).loadUInt32 start =
      uint32FromBytes ((message.drop start).take 4) := by
  have part := buffer.load_store_inside 0 inside
  rw [Nat.zero_add] at part
  rw [Memory.loadUInt32, RobotMessage.receive, part]

theorem engineMessage_receive (motorId speed : UInt32) (buffer : Memory) :
    RobotMessage.engineMessage (RobotMessage.receive (sendEngineMessage motorId speed) buffer) =
      ⟨Server.messageIdEngine, motorId, speed⟩ := by
  obtain ⟨atId, atMotorId, atSpeed, _⟩ := uint32_offsets
  have long := sendEngineMessage_length motorId speed
  have first : RobotMessage.id (RobotMessage.receive (sendEngineMessage motorId speed) buffer) =
      Server.messageIdEngine := by
    rw [RobotMessage.id, atId, loadUInt32_receive buffer (by omega), sendEngineMessage_bytes,
      List.drop_zero, List.take_left' (uint32Bytes_length _), uint32FromBytes_uint32Bytes]
    rfl
  have second : RobotMessage.motorId (RobotMessage.receive (sendEngineMessage motorId speed) buffer) =
      motorId := by
    rw [RobotMessage.motorId, atMotorId, loadUInt32_receive buffer (by omega),
      sendEngineMessage_bytes, List.drop_left' (uint32Bytes_length _),
      List.take_left' (uint32Bytes_length _), uint32FromBytes_uint32Bytes]
  have third : RobotMessage.motorSpeed (RobotMessage.receive (sendEngineMessage motorId speed) buffer) =
      speed := by
    have both : (uint32Bytes Backend.messageIdEngine ++ uint32Bytes motorId).length = 8 := by simp
    rw [RobotMessage.motorSpeed, atSpeed, loadUInt32_receive buffer (by omega),
      sendEngineMessage_bytes, ← List.append_assoc, List.drop_left' both,
      List.take_left' (uint32Bytes_length _), uint32FromBytes_uint32Bytes]
  rw [RobotMessage.engineMessage, first, second, third]

theorem sizeofRobotMessage_eq : sizeofRobotMessage = 56 := by decide

theorem send_part (msg : Memory) {start size : Nat} (inside : start + size ≤ 56) :
    ((RobotMessage.send msg).drop start).take size = msg.load start size := by
  rw [RobotMessage.send, sizeofRobotMessage_eq, msg.load_part 0 inside, Nat.zero_add]

theorem readSysmsg_send (msg : Memory) :
    ∃ received, readSysmsg (RobotMessage.send msg) = some received ∧
      received.cmd = RobotMessage.id msg ∧ received.data.val = msg.load 4 messageDataLen := by
  obtain ⟨atId, _⟩ := uint32_offsets
  have enough : 4 + messageDataLen ≤ (RobotMessage.send msg).length := by
    rw [RobotMessage.send, Memory.load_length, sizeofRobotMessage_eq]
    decide
  refine ⟨_, dif_pos enough, ?_, send_part msg (by decide)⟩
  have cmd : ((RobotMessage.send msg).drop 0).take 4 = msg.load 0 4 := send_part msg (by omega)
  rw [List.drop_zero] at cmd
  show uint32FromBytes ((RobotMessage.send msg).take 4) = RobotMessage.id msg
  rw [cmd, RobotMessage.id, atId, Memory.loadUInt32]

theorem readRobotInfo_load (msg : Memory) :
    readRobotInfo (msg.load 4 messageDataLen) =
      some ⟨RobotMessage.infoId msg, RobotMessage.infoHostname msg,
        RobotMessage.infoTemperature msg⟩ := by
  obtain ⟨_, _, _, atId, atHostname, atTemperature⟩ := uint32_offsets
  have enough : 4 + hostnameLen + 4 ≤ (msg.load 4 messageDataLen).length := by
    rw [Memory.load_length]
    decide
  have id : uint32FromBytes ((msg.load 4 messageDataLen).take 4) = RobotMessage.infoId msg := by
    have part : ((msg.load 4 messageDataLen).drop 0).take 4 = msg.load 4 4 :=
      msg.load_part 4 (by decide)
    rw [List.drop_zero] at part
    rw [part, RobotMessage.infoId, atId, Memory.loadUInt32]
  have hostname : readBlock 4 hostnameLen (msg.load 4 messageDataLen) (by omega) =
      RobotMessage.infoHostname msg := by
    apply Subtype.ext
    show ((msg.load 4 messageDataLen).drop 4).take hostnameLen =
      msg.load RobotMessage.infoHostnameOffset messageHostnameMaxLen
    rw [msg.load_part 4 (by decide), atHostname]
    rfl
  have temperature : uint32FromBytes (((msg.load 4 messageDataLen).drop (4 + hostnameLen)).take 4) =
      RobotMessage.infoTemperature msg := by
    rw [msg.load_part 4 (by decide), RobotMessage.infoTemperature, atTemperature, Memory.loadUInt32]
    rfl
  rw [readRobotInfo, dif_pos enough, id, hostname, temperature]

theorem recvMessage_send (msg : Memory) (vars : RecvVars)
    (info : RobotMessage.id msg = Message.messageIdInfo) :
    ∃ after, recvMessage (RobotMessage.send msg) vars = (after, some after.robot) ∧
      after.msg.cmd = Backend.messageIdInfo ∧
      after.robot = ⟨RobotMessage.infoId msg, RobotMessage.infoHostname msg,
        RobotMessage.infoTemperature msg⟩ := by
  obtain ⟨received, read, cmd, data⟩ := readSysmsg_send msg
  have isInfo : received.cmd = Backend.messageIdInfo := cmd.trans info
  refine ⟨⟨received, _⟩, ?_, isInfo, rfl⟩
  simp only [recvMessage, read, if_pos isInfo, data, readRobotInfo_load]

theorem robot_messages_agree :
    (∀ motorId speed buffer,
      (sendEngineMessage motorId speed).length ≤ sizeofRobotMessage ∧
        RobotMessage.engineMessage
          (RobotMessage.receive (sendEngineMessage motorId speed) buffer) =
            ⟨Server.messageIdEngine, motorId, speed⟩) ∧
      ∀ msg vars, RobotMessage.id msg = Message.messageIdInfo →
        ∃ after, recvMessage (RobotMessage.send msg) vars = (after, some after.robot) ∧
          after.msg.cmd = Backend.messageIdInfo ∧
          after.robot = ⟨RobotMessage.infoId msg, RobotMessage.infoHostname msg,
            RobotMessage.infoTemperature msg⟩ := by
  refine ⟨?_, fun msg vars info => recvMessage_send msg vars info⟩
  intro motorId speed buffer
  refine ⟨?_, engineMessage_receive motorId speed buffer⟩
  rw [sendEngineMessage_length, sizeofRobotMessage_eq]
  decide

/-- A message with robot information whose other bytes are all alike. -/
theorem robot_messages_agree_plain :
    ∃ after, recvMessage (RobotMessage.send (Memory.storeUInt32 0 1 fun _ => 7))
        ⟨⟨0, zeroBlock messageDataLen⟩, ⟨0, zeroBlock hostnameLen, 0⟩⟩ =
          (after, some after.robot) ∧
      after.robot.temperature = 0x07070707 := by
  have stored : RobotMessage.id (Memory.storeUInt32 0 1 fun _ => 7) = Message.messageIdInfo := by
    decide
  obtain ⟨after, received, _, robot⟩ := robot_messages_agree.2 _
    ⟨⟨0, zeroBlock messageDataLen⟩, ⟨0, zeroBlock hostnameLen, 0⟩⟩ stored
  refine ⟨after, received, ?_⟩
  rw [robot]
  decide

end ToySystem.Backend
