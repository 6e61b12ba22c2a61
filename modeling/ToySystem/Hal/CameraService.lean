import ToySystem.Hal.PictureRequests
import ToySystem.Message.ToyMessage

namespace ToySystem.Hal

open ToySystem.Message

/-! # The camera service

`camera_service_thread` of `system/system_server.c` on the toy camera HAL,
`hal/toy/camera_HAL_toy.cpp`.  `none` means that a null pointer was used.
-/

/-- The static variable of the HAL; `opened` is a history variable: whether
`toy_camera_open` has returned 0. -/
structure ToyCamera where
  controlThread : Option Camera
  opened : Bool

/-- After `hw_get_camera_module`. -/
def ToyCamera.loaded : ToyCamera := { controlThread := none, opened := false }

/-- `status` is that of `ControlThread::init`. -/
def toyCameraOpen (status : Int32) (hal : ToyCamera) : ToyCamera × Int32 :=
  if status ≠ errorNone then ({ hal with controlThread := some .constructed }, -1)
  else ({ controlThread := some .started, opened := true }, 0)

def toyCameraDump (hal : ToyCamera) : Option ToyCamera := hal.controlThread.map fun _ => hal

def toyCameraTakePicture (hal : ToyCamera) : Option ToyCamera :=
  hal.controlThread.map fun camera => { hal with controlThread := some camera.takePicture.1 }

def toyCameraSetCallbacks (notifyCB : Option NotifyCallback) (hal : ToyCamera) :
    ToyCamera × Int32 :=
  match hal.controlThread with
  | none => (hal, badValue)
  | some camera => ({ hal with controlThread := some (camera.setCallbacks notifyCB) }, 0)

/-- The functions of `hw_module_t` that the loop invokes. -/
inductive ModuleFunction where
  | takePicture
  | dump
deriving DecidableEq, Repr

def ModuleFunction.call : ModuleFunction → ToyCamera → Option ToyCamera
  | .takePicture => toyCameraTakePicture
  | .dump => toyCameraDump

/-- The cases of the `if`. -/
def invokedFunction (msg : ToyMsg) : Option ModuleFunction :=
  if msg.msgType = cameraTakePicture then some .takePicture
  else if msg.msgType = dumpState then some .dump
  else none

/-- A function that was invoked, and the HAL at that moment. -/
structure Invocation where
  function : ModuleFunction
  hal : ToyCamera

/-- The invocations that the messages lead to, up to the first that fails. -/
def cameraServiceLoop (hal : ToyCamera) : List ToyMsg → List Invocation
  | [] => []
  | msg :: msgs =>
      match invokedFunction msg with
      | none => cameraServiceLoop hal msgs
      | some function =>
          { function, hal } ::
            match function.call hal with
            | none => []
            | some after => cameraServiceLoop after msgs

/-- The calls of `open` and `set_callbacks` before the loop are commented out. -/
def cameraServiceThread (msgs : List ToyMsg) : List Invocation :=
  cameraServiceLoop .loaded msgs

def Invocation.ready (invocation : Invocation) : Bool :=
  invocation.hal.opened && invocation.hal.controlThread.isSome

theorem ModuleFunction.call_ready (function : ModuleFunction) {hal : ToyCamera}
    (opened : hal.opened = true) (hasThread : hal.controlThread.isSome = true) :
    ∃ after, function.call hal = some after ∧ after.opened = true ∧
      after.controlThread.isSome = true := by
  obtain ⟨camera, isCamera⟩ := Option.isSome_iff_exists.mp hasThread
  cases function with
  | takePicture =>
      exact ⟨{ hal with controlThread := some camera.takePicture.1 },
        by simp [call, toyCameraTakePicture, isCamera], opened, rfl⟩
  | dump => exact ⟨hal, by simp [call, toyCameraDump, isCamera], opened, hasThread⟩

/-- Had the module been opened first, every message would have found it open. -/
theorem cameraServiceLoop_ready (msgs : List ToyMsg) {hal : ToyCamera}
    (opened : hal.opened = true) (hasThread : hal.controlThread.isSome = true) :
    ∀ invocation ∈ cameraServiceLoop hal msgs, invocation.ready = true := by
  induction msgs generalizing hal with
  | nil => exact fun _ none => nomatch none
  | cons msg msgs ih =>
      unfold cameraServiceLoop
      cases invoked : invokedFunction msg with
      | none => exact ih opened hasThread
      | some function =>
          obtain ⟨after, called, openedAfter, openAfter⟩ := function.call_ready opened hasThread
          simp only [called]
          intro invocation member
          rcases List.mem_cons.mp member with rfl | later
          · simp [Invocation.ready, opened, hasThread]
          · exact ih openedAfter openAfter invocation later

theorem invokedFunction_eq_none {msg : ToyMsg} : invokedFunction msg = none ↔
    msg.msgType ≠ cameraTakePicture ∧ msg.msgType ≠ dumpState := by
  unfold invokedFunction
  split
  · rename_i takePicture
    simp [takePicture]
  · rename_i other
    split
    · rename_i dump
      simp [dump]
    · rename_i unknown
      simp [other, unknown]

theorem camera_opened_iff (msgs : List ToyMsg) :
    (∀ invocation ∈ cameraServiceThread msgs, invocation.ready = true) ↔
      ∀ msg ∈ msgs, msg.msgType ≠ cameraTakePicture ∧ msg.msgType ≠ dumpState := by
  unfold cameraServiceThread
  induction msgs with
  | nil => simp [cameraServiceLoop]
  | cons msg msgs ih =>
      rw [List.forall_mem_cons, ← invokedFunction_eq_none, ← ih, cameraServiceLoop]
      cases invoked : invokedFunction msg with
      | none => simp
      | some function => simp [Invocation.ready, ToyCamera.loaded]

/-- A picture is requested from a module that nobody has opened. -/
theorem picture_of_unopened_module :
    ¬ ∀ msgs, ∀ invocation ∈ cameraServiceThread msgs, invocation.ready = true := by
  intro ready
  have first := ready [{ msgType := cameraTakePicture, param1 := 0, param2 := 0 }]
  exact absurd first (by decide)

end ToySystem.Hal
