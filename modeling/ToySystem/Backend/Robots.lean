import ToySystem.Libc.Decimal
import ToySystem.Message.RobotMessage

namespace ToySystem.Backend

open ToySystem.Data

/-! # The backend's end of the robot messages

`toy-be/pkg/robots/robots.go`.  Package `encoding/binary` writes the fields of
a structure one after the other, without padding and whether exported or not,
and reads a structure only if all its bytes are there.
-/

def messageDataLen : Nat := 50
def hostnameLen : Nat := 32

def messageIdInfo : UInt32 := 1
def messageIdEngine : UInt32 := 2

structure Sysmsg where
  cmd : UInt32
  data : Block messageDataLen

structure RobotInfo where
  id : UInt32
  hostname : Block hostnameLen
  temperature : UInt32

structure MotorControl where
  id : UInt32
  speed : UInt32

/-- `binary.Write(buf, binary.LittleEndian, &motor)`. -/
def writeMotorControl (motor : MotorControl) : List UInt8 :=
  uint32Bytes motor.id ++ uint32Bytes motor.speed

def writeSysmsg (msg : Sysmsg) : List UInt8 := uint32Bytes msg.cmd ++ msg.data.val

/-- The built-in `copy` into a whole array. -/
def copy {size : Nat} (dst : Block size) (src : List UInt8) : Block size :=
  ⟨src.take size ++ dst.val.drop src.length, by
    have length := dst.property
    simp only [List.length_append, List.length_take, List.length_drop]
    omega⟩

def zeroBlock (size : Nat) : Block size := ⟨List.replicate size 0, List.length_replicate⟩

/-- The bytes `SendEngineMessage` sends. -/
def sendEngineMessage (motorId speed : UInt32) : List UInt8 :=
  let motor : MotorControl := { id := motorId, speed }
  let msg : Sysmsg := {
    cmd := messageIdEngine
    data := copy (zeroBlock messageDataLen) (writeMotorControl motor) }
  writeSysmsg msg

def readBlock (offset size : Nat) (bytes : List UInt8) (enough : offset + size ≤ bytes.length) :
    Block size :=
  ⟨(bytes.drop offset).take size, by
    rw [List.length_take, List.length_drop]
    omega⟩

/-- `binary.Read(buf, binary.LittleEndian, &msg)`; it fails on too few bytes. -/
def readSysmsg (bytes : List UInt8) : Option Sysmsg :=
  if enough : 4 + messageDataLen ≤ bytes.length then
    some {
      cmd := uint32FromBytes (bytes.take 4)
      data := readBlock 4 messageDataLen bytes enough }
  else none

def readRobotInfo (bytes : List UInt8) : Option RobotInfo :=
  if enough : 4 + hostnameLen + 4 ≤ bytes.length then
    some {
      id := uint32FromBytes (bytes.take 4)
      hostname := readBlock 4 hostnameLen bytes (by omega)
      temperature := uint32FromBytes ((bytes.drop (4 + hostnameLen)).take 4) }
  else none

/-- The variables of `RecvMessageQ` that live across its loop. -/
structure RecvVars where
  msg : Sysmsg
  robot : RobotInfo

/-- One round of the loop after a message was received: the variables, and the
information that `UpdateRobot` is called with. -/
def recvMessage (rcv : List UInt8) (vars : RecvVars) : RecvVars × Option RobotInfo :=
  let vars :=
    match readSysmsg rcv with
    | none => vars
    | some msg => { vars with msg }
  if vars.msg.cmd = messageIdInfo then
    match readRobotInfo vars.msg.data.val with
    | none => (vars, none)
    | some robot => ({ vars with robot }, some robot)
  else (vars, none)

structure RobotState where
  id : UInt64
  hostName : List Char
  temperature : List Char
  lMotorSpeed : UInt32
  rMotorSpeed : UInt32
  lMotorState : UInt32
  rMotorState : UInt32

structure BroadcastRobotState where
  robotId : UInt64
  hostname : List Char
  temperature : List Char

/-- `UpdateRobot` from the robot that `s.Get` returned on: the robot it stores and
the state it broadcasts.  The name is that of the backend's own host. -/
def updateRobot (osHostname : List Char) (p : RobotState) (id : UInt64)
    (temperature : List Char) : RobotState × BroadcastRobotState :=
  let p := { p with hostName := osHostname, temperature }
  (p, { robotId := id, hostname := p.hostName, temperature })

def sprint (value : UInt32) : List Char := Libc.decimal value.toNat

end ToySystem.Backend
