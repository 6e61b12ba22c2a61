import Mathlib.Data.List.Basic

namespace ToySystem.Message

/-! `toy_msg_t` of `toy_message.h`, without `param3`, which nobody sets or reads. -/

structure ToyMsg where
  msgType : UInt32
  param1 : UInt32
  param2 : UInt32
deriving DecidableEq, Repr

/-! The message types of the monitor queue and of the camera queue. -/

def sensorData : UInt32 := 1
def cameraTakePicture : UInt32 := 1
def dumpState : UInt32 := 2

end ToySystem.Message
