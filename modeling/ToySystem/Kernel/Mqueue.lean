import Mathlib.Data.List.Basic

namespace ToySystem.Kernel

/-! POSIX message queues, for messages of one priority.

`none` means that the caller blocks.
-/

structure Mqueue (Message : Type*) where
  maxmsg : Nat
  messages : List Message
  fits : messages.length ≤ maxmsg

namespace Mqueue

variable {Message : Type*}

def empty (maxmsg : Nat) : Mqueue Message where
  maxmsg := maxmsg
  messages := []
  fits := Nat.zero_le maxmsg

def mqSend (message : Message) (queue : Mqueue Message) : Option (Mqueue Message) :=
  if room : queue.messages.length < queue.maxmsg then
    some {
      maxmsg := queue.maxmsg
      messages := queue.messages ++ [message]
      fits := by rwa [List.length_append, List.length_singleton] }
  else none

def mqReceive (queue : Mqueue Message) : Option (Message × Mqueue Message) :=
  match shape : queue.messages with
  | [] => none
  | message :: rest =>
      some (message, {
        maxmsg := queue.maxmsg
        messages := rest
        fits := by
          have fits := queue.fits
          rw [shape, List.length_cons] at fits
          omega })

theorem mqSend_messages {message : Message} {queue after : Mqueue Message}
    (sent : queue.mqSend message = some after) : after.messages = queue.messages ++ [message] := by
  unfold mqSend at sent
  split at sent
  · cases sent
    rfl
  · contradiction

theorem mqReceive_messages {message : Message} {queue after : Mqueue Message}
    (received : queue.mqReceive = some (message, after)) :
    queue.messages = message :: after.messages := by
  unfold mqReceive at received
  split at received
  · contradiction
  · rename_i shape
    cases received
    exact shape

theorem mqSend_maxmsg {message : Message} {queue after : Mqueue Message}
    (sent : queue.mqSend message = some after) : after.maxmsg = queue.maxmsg := by
  unfold mqSend at sent
  split at sent
  · cases sent
    rfl
  · contradiction

theorem mqReceive_maxmsg {message : Message} {queue after : Mqueue Message}
    (received : queue.mqReceive = some (message, after)) : after.maxmsg = queue.maxmsg := by
  unfold mqReceive at received
  split at received
  · contradiction
  · cases received
    rfl

theorem mqReceive_exists {queue : Mqueue Message} (waiting : queue.messages ≠ []) :
    ∃ message after, queue.mqReceive = some (message, after) := by
  unfold mqReceive
  split
  · contradiction
  · exact ⟨_, _, rfl⟩

end Mqueue

end ToySystem.Kernel
