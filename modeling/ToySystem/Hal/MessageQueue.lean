import Mathlib.Data.List.Basic

namespace ToySystem.Hal

/-! `MessageQueue` of `hal/include/MessageQueue.h`, each operation under its mutex. -/

def errorNone : Int32 := 0
def badValue : Int32 := -22
def wouldBlock : Int32 := -11

/-- `list` is `mList` from its front on. -/
structure MessageQueue (Message : Type) where
  list : List Message
  numReply : Nat
  replyStatus : Int → Int32

/-- How `send` goes on once the message is on the queue. -/
inductive Sending where
  | returned (status : Int32)
  | awaitsReply (replyId : Int)
deriving DecidableEq, Repr

namespace MessageQueue

variable {Message : Type}

def new (numReply : Nat) : MessageQueue Message where
  list := []
  numReply := numReply
  replyStatus _ := 0

/-- The default of the parameter `replyId`, `(MessageId) -1`. -/
def noReply : Int := -1

def pushFront (message : Message) (queue : MessageQueue Message) : MessageQueue Message :=
  { queue with list := message :: queue.list }

def send (message : Message) (replyId : Int) (queue : MessageQueue Message) :
    MessageQueue Message × Sending :=
  if replyId ≠ -1 ∧ queue.numReply = 0 then (queue, .returned badValue)
  else
    let queue := queue.pushFront message
    let queue :=
      if replyId ≠ -1 then
        { queue with replyStatus := fun id =>
            if id = replyId then wouldBlock else queue.replyStatus id }
      else queue
    (queue, if 0 ≤ replyId then .awaitsReply replyId else .returned errorNone)

/-- Takes the last element; `none` means that the caller waits. -/
def receive (queue : MessageQueue Message) : Option (Message × MessageQueue Message) :=
  queue.list.getLast?.map fun message => (message, { queue with list := queue.list.dropLast })

theorem send_noReply (message : Message) (queue : MessageQueue Message) :
    queue.send message noReply = (queue.pushFront message, .returned errorNone) := by
  simp [send, noReply]

theorem receive_list {message : Message} {queue after : MessageQueue Message}
    (received : queue.receive = some (message, after)) :
    queue.list = after.list ++ [message] := by
  obtain ⟨last, isLast, same⟩ := Option.map_eq_some_iff.mp received
  cases same
  exact (List.dropLast_append_getLast? message isLast).symm

end MessageQueue

end ToySystem.Hal
