import ToySystem.Data.Bytes
import ToySystem.Data.CLayout
import ToySystem.Server.EngineThread

namespace ToySystem.Message

open ToySystem.Data ToySystem.Server

/-! # `robot_message_t`

The message of `toy_message.h` as the C programs lay it out in memory, on a
little-endian machine with a four-byte `unsigned int`.
-/

def messageDataMaxLen : Nat := 50
def messageHostnameMaxLen : Nat := 32

def messageIdInfo : UInt32 := 1

def robotInfoFields : List CLayout :=
  [.unsignedInt, .array messageHostnameMaxLen .char, .unsignedInt]

def motorControlFields : List CLayout := [.unsignedInt, .unsignedInt]

def robotMessageDataMembers : List CLayout :=
  [.struct robotInfoFields, .struct motorControlFields, .array messageDataMaxLen .char]

def robotMessageFields : List CLayout := [.unsignedInt, .union robotMessageDataMembers]

def sizeofRobotMessage : Nat := (CLayout.struct robotMessageFields).size

namespace RobotMessage

def idOffset : Nat := CLayout.offsetOf robotMessageFields 0
def dataOffset : Nat := CLayout.offsetOf robotMessageFields 1

def infoIdOffset : Nat := dataOffset + CLayout.offsetOf robotInfoFields 0
def infoHostnameOffset : Nat := dataOffset + CLayout.offsetOf robotInfoFields 1
def infoTemperatureOffset : Nat := dataOffset + CLayout.offsetOf robotInfoFields 2

def motorIdOffset : Nat := dataOffset + CLayout.offsetOf motorControlFields 0
def motorSpeedOffset : Nat := dataOffset + CLayout.offsetOf motorControlFields 1

/-! A `robot_message_t` is the memory that begins with it. -/

def id (msg : Memory) : UInt32 := msg.loadUInt32 idOffset

def infoId (msg : Memory) : UInt32 := msg.loadUInt32 infoIdOffset

def infoHostname (msg : Memory) : Block messageHostnameMaxLen :=
  ⟨msg.load infoHostnameOffset messageHostnameMaxLen, msg.load_length _ _⟩

def infoTemperature (msg : Memory) : UInt32 := msg.loadUInt32 infoTemperatureOffset

def motorId (msg : Memory) : UInt32 := msg.loadUInt32 motorIdOffset
def motorSpeed (msg : Memory) : UInt32 := msg.loadUInt32 motorSpeedOffset

def send (msg : Memory) : List UInt8 := msg.load 0 sizeofRobotMessage

/-- `mq_receive` into the object; a shorter message leaves the rest of it as it was. -/
def receive (message : List UInt8) (msg : Memory) : Memory := msg.store 0 message

def engineMessage (msg : Memory) : EngineMessage where
  id := id msg
  motorId := motorId msg
  speed := motorSpeed msg

end RobotMessage

example : sizeofRobotMessage = 56 := by decide

end ToySystem.Message
