import ToySystem.Data.Run
import ToySystem.Data.Thread
import ToySystem.Hal.MessageQueue

namespace ToySystem.Hal

open ToySystem.Data

/-! # Picture requests in the toy camera HAL

`ControlThread.cpp`, `CallbackThread.cpp` and `Callbacks.cpp` of `hal/toy`.  A
request goes through the queue of the control thread and that of the callback
thread before the notify callback is called.
-/

/-- `ControlThread::MessageId`; the data of a message is never read. -/
inductive ControlMessage where
  | exit
  | takePicture
deriving DecidableEq, Repr

/-- `CallbackThread::MessageId`. -/
inductive CallbackMessage where
  | exit
  | takePictureDone
deriving DecidableEq, Repr

def messageIdMax : Nat := 2

def cameraTakePictureDone : Int32 := 2

/-- The address of a function. -/
abbrev NotifyCallback := Nat

/-- A call of a notify callback. -/
structure Notification where
  callback : NotifyCallback
  msgType : Int32
  ext1 : Int32
  ext2 : Int32
deriving DecidableEq, Repr

def takePictureDoneCall (callback : NotifyCallback) : Notification :=
  { callback, msgType := cameraTakePictureDone, ext1 := 1, ext2 := 0 }

/-- `waitForAndExecuteMessage` in the loop of the control thread, whose `mState`
stays `STATE_NONE`. -/
inductive ControlStatement where
  | receive
  | switchId (id : ControlMessage)
  | takePictureDone
  | awaitReply (replyId : Int)
deriving DecidableEq, Repr

inductive CallbackStatement where
  | receive
  | switchId (id : CallbackMessage)
  | testNotifyCB
  | notify (callback : NotifyCallback)
deriving DecidableEq, Repr

/-- A `ControlThread` with its `CallbackThread` and `Callbacks`.  `calls` and
`notified` are history variables: the calls of `takePicture` that have put their
message on the queue, and the calls of notify callbacks. -/
structure Camera where
  controlQueue : MessageQueue ControlMessage
  callbackQueue : MessageQueue CallbackMessage
  mNotifyCB : Option NotifyCallback
  control : List ControlStatement
  callback : List CallbackStatement
  calls : Nat
  notified : List Notification

namespace Camera

def constructed : Camera where
  controlQueue := .new messageIdMax
  callbackQueue := .new messageIdMax
  mNotifyCB := none
  control := []
  callback := []
  calls := 0
  notified := []

/-- `init` has started the callback thread, and `Start` the control thread. -/
def started : Camera := { constructed with control := [.receive], callback := [.receive] }

def setCallbacks (notifyCB : Option NotifyCallback) (camera : Camera) : Camera :=
  { camera with mNotifyCB := notifyCB }

/-- `ControlThread::takePicture`, from any thread. -/
def takePicture (camera : Camera) : Camera × Sending :=
  let (controlQueue, sending) := camera.controlQueue.send .takePicture MessageQueue.noReply
  ({ camera with controlQueue, calls := camera.calls + 1 }, sending)

/-- What follows `CallbackThread::takePictureDone` in the control thread. -/
def afterSending : Sending → List ControlStatement
  | .returned _ => [.receive]
  | .awaitsReply replyId => [.awaitReply replyId]

def controlExec : ControlStatement → Camera → Option (Camera × List ControlStatement)
  | .receive, camera =>
      camera.controlQueue.receive.map fun (id, controlQueue) =>
        ({ camera with controlQueue }, [.switchId id])
  | .switchId .takePicture, camera => some (camera, [.takePictureDone])
  | .switchId .exit, camera => some (camera, [.receive])
  | .takePictureDone, camera =>
      let (callbackQueue, sending) :=
        camera.callbackQueue.send .takePictureDone MessageQueue.noReply
      some ({ camera with callbackQueue }, afterSending sending)
  | .awaitReply replyId, camera =>
      if camera.callbackQueue.replyStatus replyId = wouldBlock then none
      else some (camera, [.receive])

def callbackExec : CallbackStatement → Camera → Option (Camera × List CallbackStatement)
  | .receive, camera =>
      camera.callbackQueue.receive.map fun (id, callbackQueue) =>
        ({ camera with callbackQueue }, [.switchId id])
  | .switchId .takePictureDone, camera => some (camera, [.testNotifyCB])
  | .switchId .exit, camera => some (camera, [.receive])
  | .testNotifyCB, camera =>
      match camera.mNotifyCB with
      | none => some (camera, [.receive])
      | some callback => some (camera, [.notify callback])
  | .notify callback, camera =>
      some ({ camera with notified := camera.notified ++ [takePictureDoneCall callback] },
        [.receive])

inductive Event where
  | takePicture
  | control
  | callback
deriving DecidableEq, Repr

def step (camera : Camera) : Event → Option Camera
  | .takePicture => some camera.takePicture.1
  | .control =>
      (proceed controlExec camera camera.control).map fun (camera, control) =>
        { camera with control }
  | .callback =>
      (proceed callbackExec camera camera.callback).map fun (camera, callback) =>
        { camera with callback }

def controlInHand : List ControlStatement → Nat
  | .switchId .takePicture :: _ | .takePictureDone :: _ => 1
  | _ => 0

def callbackInHand : List CallbackStatement → Nat
  | .switchId .takePictureDone :: _ | .testNotifyCB :: _ | .notify _ :: _ => 1
  | _ => 0

def pending (camera : Camera) : Nat :=
  camera.controlQueue.list.count .takePicture + controlInHand camera.control +
    camera.callbackQueue.list.count .takePictureDone + callbackInHand camera.callback

def delivered (notifyCB : NotifyCallback) (camera : Camera) : Nat :=
  camera.notified.count (takePictureDoneCall notifyCB)

def bothWait (camera : Camera) : Bool :=
  camera.control.head? = some .receive && camera.callback.head? = some .receive &&
    camera.controlQueue.list.isEmpty && camera.callbackQueue.list.isEmpty

inductive ControlAt : List ControlStatement → Prop
  | receive : ControlAt [.receive]
  | switchId (id : ControlMessage) : ControlAt [.switchId id]
  | takePictureDone : ControlAt [.takePictureDone]

inductive CallbackAt (notifyCB : NotifyCallback) : List CallbackStatement → Prop
  | receive : CallbackAt notifyCB [.receive]
  | switchId (id : CallbackMessage) : CallbackAt notifyCB [.switchId id]
  | testNotifyCB : CallbackAt notifyCB [.testNotifyCB]
  | notify : CallbackAt notifyCB [.notify notifyCB]

/-- No request is lost and none is answered twice. -/
structure Inv (notifyCB : NotifyCallback) (camera : Camera) : Prop where
  registered : camera.mNotifyCB = some notifyCB
  controlAt : ControlAt camera.control
  callbackAt : CallbackAt notifyCB camera.callback
  conserved : delivered notifyCB camera + pending camera = camera.calls

theorem Inv.started (notifyCB : NotifyCallback) :
    Inv notifyCB (started.setCallbacks (some notifyCB)) where
  registered := rfl
  controlAt := .receive
  callbackAt := .receive
  conserved := rfl

section

variable {notifyCB : NotifyCallback} {camera after : Camera}

theorem Inv.takePicture (inv : Inv notifyCB camera) : Inv notifyCB camera.takePicture.1 where
  registered := inv.registered
  controlAt := inv.controlAt
  callbackAt := inv.callbackAt
  conserved := by
    have conserved := inv.conserved
    simp only [Camera.takePicture, MessageQueue.send_noReply, MessageQueue.pushFront, delivered,
      pending, List.count_cons_self] at conserved ⊢
    omega

theorem Inv.control (inv : Inv notifyCB camera) (stepped : step camera .control = some after) :
    Inv notifyCB after := by
  obtain ⟨registered, controlAt, callbackAt, conserved⟩ := inv
  obtain ⟨⟨next, code⟩, proceeded, rfl⟩ := Option.map_eq_some_iff.mp stepped
  obtain ⟨statement, others, added, shape, executed, rfl⟩ := proceed_eq_some proceeded
  simp only [delivered, pending] at conserved
  rw [shape] at controlAt conserved
  cases controlAt with
  | receive =>
      obtain ⟨⟨id, controlQueue⟩, received, same⟩ := Option.map_eq_some_iff.mp executed
      cases same
      refine ⟨registered, .switchId id, callbackAt, ?_⟩
      rw [MessageQueue.receive_list received, List.count_append] at conserved
      cases id <;> simp [delivered, pending, controlInHand] at conserved ⊢ <;> omega
  | switchId id =>
      cases id with
      | takePicture =>
          cases executed
          exact ⟨registered, .takePictureDone, callbackAt, conserved⟩
      | exit =>
          cases executed
          exact ⟨registered, .receive, callbackAt, conserved⟩
  | takePictureDone =>
      simp only [controlExec, MessageQueue.send_noReply, afterSending] at executed
      cases executed
      refine ⟨registered, .receive, callbackAt, ?_⟩
      simp only [delivered, pending, MessageQueue.pushFront, List.count_cons_self]
      simp only [controlInHand, List.append_nil] at conserved ⊢
      omega

theorem Inv.callback (inv : Inv notifyCB camera) (stepped : step camera .callback = some after) :
    Inv notifyCB after := by
  obtain ⟨registered, controlAt, callbackAt, conserved⟩ := inv
  obtain ⟨⟨next, code⟩, proceeded, rfl⟩ := Option.map_eq_some_iff.mp stepped
  obtain ⟨statement, others, added, shape, executed, rfl⟩ := proceed_eq_some proceeded
  simp only [delivered, pending] at conserved
  rw [shape] at callbackAt conserved
  cases callbackAt with
  | receive =>
      obtain ⟨⟨id, callbackQueue⟩, received, same⟩ := Option.map_eq_some_iff.mp executed
      cases same
      refine ⟨registered, controlAt, .switchId id, ?_⟩
      rw [MessageQueue.receive_list received, List.count_append] at conserved
      cases id <;> simp [delivered, pending, callbackInHand] at conserved ⊢ <;> omega
  | switchId id =>
      cases id with
      | takePictureDone =>
          cases executed
          exact ⟨registered, controlAt, .testNotifyCB, conserved⟩
      | exit =>
          cases executed
          exact ⟨registered, controlAt, .receive, conserved⟩
  | testNotifyCB =>
      simp only [callbackExec, registered] at executed
      cases executed
      exact ⟨registered, controlAt, .notify, conserved⟩
  | notify =>
      cases executed
      refine ⟨registered, controlAt, .receive, ?_⟩
      simp only [delivered, pending, List.count_append, List.count_singleton_self]
      simp only [callbackInHand, List.append_nil] at conserved ⊢
      omega

theorem Inv.step {event : Event} (inv : Inv notifyCB camera)
    (stepped : Camera.step camera event = some after) : Inv notifyCB after := by
  cases event with
  | takePicture =>
      cases stepped
      exact inv.takePicture
  | control => exact inv.control stepped
  | callback => exact inv.callback stepped

theorem pending_bothWait (wait : bothWait camera = true) : pending camera = 0 := by
  simp only [bothWait, Bool.and_eq_true, decide_eq_true_eq, List.isEmpty_iff] at wait
  obtain ⟨⟨⟨control, callback⟩, controlEmpty⟩, callbackEmpty⟩ := wait
  obtain ⟨_, controlCode⟩ := List.head?_eq_some_iff.mp control
  obtain ⟨_, callbackCode⟩ := List.head?_eq_some_iff.mp callback
  rw [pending, controlEmpty, callbackEmpty, controlCode, callbackCode]
  rfl

end

theorem pictures_answered_once (notifyCB : NotifyCallback) (events : List Event) :
    ∀ camera ∈ visited step (started.setCallbacks (some notifyCB)) events,
      delivered notifyCB camera ≤ camera.calls ∧
        camera.calls - delivered notifyCB camera = pending camera ∧
        (bothWait camera = true → delivered notifyCB camera = camera.calls) := by
  intro camera isVisited
  have inv := visited_always (Inv.started notifyCB) (fun _ _ _ inv stepped => inv.step stepped)
    camera isVisited
  have conserved := inv.conserved
  refine ⟨by omega, by omega, ?_⟩
  intro wait
  rw [pending_bothWait wait] at conserved
  exact conserved

def threeRequests : List Event :=
  .takePicture :: .takePicture :: List.replicate 3 .control ++ .takePicture ::
    List.replicate 6 .control ++ List.replicate 12 .callback

theorem threeRequests_answered :
    ∃ camera ∈ visited step (started.setCallbacks (some 7)) threeRequests,
      bothWait camera = true ∧ camera.calls = 3 ∧ delivered 7 camera = camera.calls := by
  refine ⟨_, List.mem_of_getLast? rfl, by decide, rfl, ?_⟩
  exact (pictures_answered_once 7 threeRequests _ (List.mem_of_getLast? rfl)).2.2 (by decide)

end Camera

end ToySystem.Hal
