import ToySystem.Hal.PictureRequests

namespace ToySystem.Hal.ThreadExit

open ToySystem.Data

/-! # Shutting down the HAL threads

`requestExitAndWait` of `ControlThread.cpp` and `CallbackThread.cpp` against the two
loops, and the `Join` of `hal/utils/Thread.cpp` that the destructor runs after it.
-/

inductive HalThread where
  | control
  | callback
deriving DecidableEq, Repr

inductive HalMessage where
  | control (id : ControlMessage)
  | callback (id : CallbackMessage)
deriving DecidableEq, Repr

namespace HalThread

def exitMessage : HalThread → HalMessage
  | .control => .control .exit
  | .callback => .callback .exit

/-- The queue from its front on; the last message is received next. -/
def queued (camera : Camera) : HalThread → List HalMessage
  | .control => camera.controlQueue.list.map .control
  | .callback => camera.callbackQueue.list.map .callback

/-- The message that the thread's next statement dispatches. -/
def dispatched (camera : Camera) : HalThread → Option HalMessage
  | .control =>
      match camera.control with
      | .switchId id :: _ => some (.control id)
      | _ => none
  | .callback =>
      match camera.callback with
      | .switchId id :: _ => some (.callback id)
      | _ => none

/-- `threadLoop` has returned. -/
def hasLeft (camera : Camera) : HalThread → Bool
  | .control => camera.control.isEmpty
  | .callback => camera.callback.isEmpty

end HalThread

def send (camera : Camera) : HalMessage → Camera
  | .control id =>
      { camera with controlQueue := (camera.controlQueue.send id MessageQueue.noReply).1 }
  | .callback id =>
      { camera with callbackQueue := (camera.callbackQueue.send id MessageQueue.noReply).1 }

/-- It does not wait. -/
def requestExitAndWait (thread : HalThread) (camera : Camera) : Camera × Int32 :=
  (send camera thread.exitMessage, errorNone)

/-- `Thread::Join` returns once the thread has ended. -/
def join (thread : HalThread) (camera : Camera) : Option Camera :=
  if thread.hasLeft camera then some camera else none

inductive Event where
  | run (thread : HalThread)
  | send (message : HalMessage)
deriving DecidableEq, Repr

def step (camera : Camera) : Event → Option Camera
  | .run .control => camera.step .control
  | .run .callback => camera.step .callback
  | .send message => some (send camera message)

/-- A camera whose threads are both in their loops. -/
structure Running where
  camera : Camera
  control : camera.control ≠ []
  callback : camera.callback ≠ []

/-- The messages that a thread dispatches during a run. -/
def handled (thread : HalThread) (start : Camera) (events : List Event) : List HalMessage :=
  (path step start events).filterMap fun transition =>
    if transition.event = .run thread then thread.dispatched transition.before else none

/-- After the request and some other events the thread can go on until it is joined, and
has then handled what was queued before, the exit, and nothing else. -/
def EndsOnExit (thread : HalThread) (running : Running) (events : List Event)
    (between : Camera) : Prop :=
  ∃ more ended joined, (∀ event ∈ more, event = .run thread) ∧
    run step between more = some ended ∧ join thread ended = some joined ∧
    handled thread (requestExitAndWait thread running.camera).1 (events ++ more) =
      (thread.dispatched running.camera).toList ++ (thread.queued running.camera).reverse ++
        [thread.exitMessage]

section

variable {camera next : Camera}

/-- No statement is the last one, also not the dispatch of an exit. -/
theorem controlExec_goes_on {statement : ControlStatement} {added : List ControlStatement}
    (executed : Camera.controlExec statement camera = some (next, added)) :
    added ≠ [] ∧ next.callback = camera.callback := by
  cases statement with
  | receive =>
      obtain ⟨⟨id, controlQueue⟩, _, same⟩ := Option.map_eq_some_iff.mp executed
      cases same
      exact ⟨List.cons_ne_nil _ _, rfl⟩
  | switchId id =>
      cases id with
      | exit => cases executed; exact ⟨List.cons_ne_nil _ _, rfl⟩
      | takePicture => cases executed; exact ⟨List.cons_ne_nil _ _, rfl⟩
  | takePictureDone =>
      simp only [Camera.controlExec, MessageQueue.send_noReply] at executed
      cases executed
      exact ⟨List.cons_ne_nil _ _, rfl⟩
  | awaitReply replyId =>
      simp only [Camera.controlExec] at executed
      split at executed
      · cases executed
      · cases executed
        exact ⟨List.cons_ne_nil _ _, rfl⟩

theorem callbackExec_goes_on {statement : CallbackStatement} {added : List CallbackStatement}
    (executed : Camera.callbackExec statement camera = some (next, added)) :
    added ≠ [] ∧ next.control = camera.control := by
  cases statement with
  | receive =>
      obtain ⟨⟨id, callbackQueue⟩, _, same⟩ := Option.map_eq_some_iff.mp executed
      cases same
      exact ⟨List.cons_ne_nil _ _, rfl⟩
  | switchId id =>
      cases id with
      | exit => cases executed; exact ⟨List.cons_ne_nil _ _, rfl⟩
      | takePictureDone => cases executed; exact ⟨List.cons_ne_nil _ _, rfl⟩
  | testNotifyCB =>
      simp only [Camera.callbackExec] at executed
      split at executed
      · cases executed
        exact ⟨List.cons_ne_nil _ _, rfl⟩
      · cases executed
        exact ⟨List.cons_ne_nil _ _, rfl⟩
  | notify callback => cases executed; exact ⟨List.cons_ne_nil _ _, rfl⟩

end

/-- Both threads are in their loops. -/
def InLoops (camera : Camera) : Prop := camera.control ≠ [] ∧ camera.callback ≠ []

theorem InLoops.send {camera : Camera} (inLoops : InLoops camera) (message : HalMessage) :
    InLoops (ThreadExit.send camera message) := by
  cases message with
  | control id => exact inLoops
  | callback id => exact inLoops

theorem InLoops.step {before after : Camera} {event : Event} (inLoops : InLoops before)
    (stepped : ThreadExit.step before event = some after) : InLoops after := by
  obtain ⟨control, callback⟩ := inLoops
  cases event with
  | run thread =>
      cases thread with
      | control =>
          obtain ⟨⟨next, code⟩, proceeded, rfl⟩ := Option.map_eq_some_iff.mp stepped
          obtain ⟨statement, others, added, _, executed, rfl⟩ := proceed_eq_some proceeded
          obtain ⟨more, same⟩ := controlExec_goes_on executed
          rw [← same] at callback
          exact ⟨List.append_ne_nil_of_left_ne_nil more others, callback⟩
      | callback =>
          obtain ⟨⟨next, code⟩, proceeded, rfl⟩ := Option.map_eq_some_iff.mp stepped
          obtain ⟨statement, others, added, _, executed, rfl⟩ := proceed_eq_some proceeded
          obtain ⟨more, same⟩ := callbackExec_goes_on executed
          rw [← same] at control
          exact ⟨control, List.append_ne_nil_of_left_ne_nil more others⟩
  | send message =>
      cases stepped
      exact InLoops.send ⟨control, callback⟩ message

theorem InLoops.run {start final : Camera} {events : List Event} (inLoops : InLoops start)
    (ran : Data.run ThreadExit.step start events = some final) : InLoops final :=
  run_invariant inLoops (fun _ _ _ holds stepped => InLoops.step holds stepped) ran

/-- A thread in its loop is never joined. -/
theorem InLoops.join {camera : Camera} (inLoops : InLoops camera) (thread : HalThread) :
    ThreadExit.join thread camera = none := by
  have stays : thread.hasLeft camera = false := by
    cases thread with
    | control => exact List.isEmpty_eq_false_iff.mpr inLoops.1
    | callback => exact List.isEmpty_eq_false_iff.mpr inLoops.2
  rw [ThreadExit.join, stays]
  rfl

theorem not_endsOnExit (thread : HalThread) (running : Running) (events : List Event)
    (between : Camera)
    (ran : run step (requestExitAndWait thread running.camera).1 events = some between) :
    ¬ EndsOnExit thread running events between := by
  rintro ⟨more, ended, joined, _, later, isJoined, _⟩
  have started : InLoops running.camera := ⟨running.control, running.callback⟩
  have requested : InLoops (requestExitAndWait thread running.camera).1 :=
    started.send thread.exitMessage
  rw [((requested.run ran).run later).join thread] at isJoined
  cases isJoined

/-- The camera as `toy_camera_open` starts it. -/
def freshlyStarted : Running := ⟨Camera.started, by decide, by decide⟩

/-- A request for a picture comes after the request to exit. -/
def latePicture : List Event := [.run .control, .send (.control .takePicture), .run .control]

theorem not_endsOnExit_latePicture :
    ∃ between,
      run step (requestExitAndWait .control freshlyStarted.camera).1 latePicture = some between ∧
        ¬ EndsOnExit .control freshlyStarted latePicture between :=
  ⟨_, rfl, not_endsOnExit .control freshlyStarted latePicture _ rfl⟩

theorem not_endsOnExit_freshlyStarted :
    ¬ ∀ (thread : HalThread) (running : Running) (events : List Event) (between : Camera),
      run step (requestExitAndWait thread running.camera).1 events = some between →
        EndsOnExit thread running events between :=
  fun all => by
    obtain ⟨more, ended, joined, _, ran, isJoined, _⟩ := all .control freshlyStarted [] _ rfl
    have inLoops : InLoops (requestExitAndWait .control freshlyStarted.camera).1 :=
      ⟨List.cons_ne_nil _ _, List.cons_ne_nil _ _⟩
    rw [(inLoops.run ran).join .control] at isJoined
    cases isJoined

end ToySystem.Hal.ThreadExit
