import ToySystem.Data.Ledger
import ToySystem.Hal.MessageQueue

namespace ToySystem.Hal.CameraOpen

open ToySystem.Data

/-! # Opening the toy camera

`toy_camera_open` of `hal/toy/camera_HAL_toy.cpp` with `ControlThread::init` and
`deinit`, and the other functions of the module: which objects they create, touch
and delete.
-/

/-- An object is the number of its creation. -/
inductive Pointer where
  | null
  | uninitialised
  | object (number : Nat)
deriving DecidableEq, Repr

def unknownError : Int32 := Int32.ofInt (-0x80000000)

/-- Where `init` fails.  A member that the constructor leaves uninitialised may
happen to be null; `Start` returns the error of `pthread_create`. -/
inductive FailurePoint where
  | callbacks (memberIsNull : Bool)
  | callbackThread
  | start (error : Int32) (isError : error ≠ errorNone)

def FailurePoint.atCallbacks : Option FailurePoint → Bool
  | some (.callbacks _) => true
  | _ => false

def FailurePoint.atCallbackThread : Option FailurePoint → Bool
  | some .callbackThread => true
  | _ => false

def FailurePoint.startError : Option FailurePoint → Int32
  | some (.start error _) => error
  | _ => errorNone

def FailurePoint.memberIsNull : Option FailurePoint → Bool
  | some (.callbacks memberIsNull) => memberIsNull
  | _ => false

/-- The static variables, the members of the control thread, and the flag of the
callback thread.  The log is that of all objects. -/
structure Module where
  controlThread : Pointer
  mCallbacks : Pointer
  mCallbackThread : Pointer
  callbacksInstance : Pointer
  callbackThreadInstance : Pointer
  callbackThreadCreated : Bool
  created : Nat
  log : List (Operation Pointer)

namespace Module

def start : Module where
  controlThread := .null
  mCallbacks := .uninitialised
  mCallbackThread := .uninitialised
  callbacksInstance := .null
  callbackThreadInstance := .null
  callbackThreadCreated := false
  created := 0
  log := []

def new (hal : Module) : Module × Pointer :=
  ({ hal with
      created := hal.created + 1
      log := hal.log ++ [.acquire (.object hal.created)] },
    .object hal.created)

def touch (hal : Module) (pointer : Pointer) : Module :=
  { hal with log := hal.log ++ [.use pointer] }

def delete (hal : Module) (pointer : Pointer) : Module :=
  { hal with log := hal.log ++ [.delete pointer] }

/-- Null if there is no instance and none can be created. -/
def callbacksGetInstance (fails : Bool) (hal : Module) : Module × Pointer :=
  if hal.callbacksInstance ≠ .null then (hal, hal.callbacksInstance)
  else if fails then (hal, .null)
  else
    let (hal, pointer) := hal.new
    ({ hal with callbacksInstance := pointer }, pointer)

/-- The constructor asks for the callbacks, too. -/
def callbackThreadGetInstance (fails : Bool) (hal : Module) : Module × Pointer :=
  if hal.callbackThreadInstance ≠ .null then (hal, hal.callbackThreadInstance)
  else if fails then (hal, .null)
  else
    let (hal, pointer) := hal.new
    let hal := (hal.callbacksGetInstance false).1
    ({ hal with callbackThreadInstance := pointer, callbackThreadCreated := false }, pointer)

/-- `mCallbackThread->Start()`. -/
def startCallbackThread (error : Int32) (hal : Module) : Module × Int32 :=
  let hal := hal.touch hal.mCallbackThread
  if hal.callbackThreadCreated then (hal, errorNone)
  else ({ hal with callbackThreadCreated := error = errorNone }, error)

def isNull (memberIsNull : Bool) : Pointer → Bool
  | .null => true
  | .uninitialised => memberIsNull
  | .object _ => false

/-- The destructors reset the instances. -/
def deinit (memberIsNull : Bool) (hal : Module) : Module :=
  let hal :=
    if isNull memberIsNull hal.mCallbackThread then hal
    else { (hal.touch hal.mCallbackThread).delete hal.mCallbackThread with
      callbackThreadInstance := .null }
  if isNull memberIsNull hal.mCallbacks then hal
  else { hal.delete hal.mCallbacks with callbacksInstance := .null }

/-- `ControlThread::init`. -/
def init (failure : Option FailurePoint) (hal : Module) : Module × Int32 :=
  let memberIsNull := FailurePoint.memberIsNull failure
  let (hal, pointer) := hal.callbacksGetInstance (FailurePoint.atCallbacks failure)
  let hal := { hal with mCallbacks := pointer }
  if pointer = .null then (hal.deinit memberIsNull, unknownError)
  else
    let (hal, pointer) := hal.callbackThreadGetInstance (FailurePoint.atCallbackThread failure)
    let hal := { hal with mCallbackThread := pointer }
    if pointer = .null then (hal.deinit memberIsNull, unknownError)
    else
      let (hal, status) := hal.startCallbackThread (FailurePoint.startError failure)
      if status ≠ errorNone then (hal.deinit memberIsNull, status) else (hal, errorNone)

/-- The result of `control_thread->Start()` is not looked at. -/
def toyCameraOpen (failure : Option FailurePoint) (hal : Module) : Module × Int32 :=
  let (hal, pointer) := hal.new
  let hal := { hal with
    controlThread := pointer
    mCallbacks := .uninitialised
    mCallbackThread := .uninitialised }
  let (hal, status) := (hal.touch pointer).init failure
  if status ≠ errorNone then (hal, -1) else (hal.touch pointer, 0)

def toyCameraDump (hal : Module) : Module × Int32 := (hal.touch hal.controlThread, 0)

/-- `send` always succeeds here. -/
def toyCameraTakePicture (hal : Module) : Module × Int32 :=
  (hal.touch hal.controlThread, errorNone)

def toyCameraSetCallbacks (hal : Module) : Module × Int32 :=
  if hal.controlThread = .null then (hal, badValue)
  else ((hal.touch hal.controlThread).touch hal.mCallbacks, errorNone)

end Module

inductive Call where
  | open (failure : Option FailurePoint)
  | takePicture
  | dump
  | setCallbacks

def Call.run (hal : Module) : Call → Module × Int32
  | .open failure => hal.toyCameraOpen failure
  | .takePicture => hal.toyCameraTakePicture
  | .dump => hal.toyCameraDump
  | .setCallbacks => hal.toyCameraSetCallbacks

def runCalls (hal : Module) : List Call → Module
  | [] => hal
  | call :: calls => runCalls (call.run hal).1 calls

/-- Until the camera is open again, every call reports an error. -/
def Reports (hal : Module) : List Call → Prop
  | [] => True
  | .open failure :: calls =>
      (hal.toyCameraOpen failure).2 = 0 ∨ Reports (hal.toyCameraOpen failure).1 calls
  | call :: calls => (call.run hal).2 ≠ 0 ∧ Reports (call.run hal).1 calls

/-- Only objects that exist are touched or deleted. -/
def Sound (hal : Module) : Prop := ∃ holding, balance hal.log = some holding

/-- The first `open` fails there, and leaves the camera as it was before it. -/
def LeavesClosed (failure : FailurePoint) (later : List Call) : Prop :=
  let failed := (Module.start.toyCameraOpen (some failure)).1
  Sound failed ∧ failed.controlThread = .null ∧ Reports failed later ∧
    Sound (runCalls failed later)

theorem toyCameraOpen_startError {error : Int32} (isError : error ≠ errorNone) :
    Module.start.toyCameraOpen (some (.start error isError)) = ({
      controlThread := .object 0
      mCallbacks := .object 1
      mCallbackThread := .object 2
      callbacksInstance := .null
      callbackThreadInstance := .null
      callbackThreadCreated := false
      created := 3
      log := [.acquire (.object 0), .use (.object 0), .acquire (.object 1), .acquire (.object 2),
        .use (.object 2), .use (.object 2), .delete (.object 2), .delete (.object 1)] }, -1) := by
  simp [Module.toyCameraOpen, Module.init, Module.callbacksGetInstance,
    Module.callbackThreadGetInstance, Module.startCallbackThread, Module.deinit, Module.isNull,
    Module.new, Module.touch, Module.delete, Module.start, FailurePoint.startError,
    FailurePoint.atCallbacks, FailurePoint.atCallbackThread, isError]

section

variable (failure : FailurePoint)

/-- The static variable keeps the control thread whose `init` failed. -/
theorem failedOpen_controlThread :
    (Module.start.toyCameraOpen (some failure)).1.controlThread = .object 0 := by
  cases failure with
  | callbacks memberIsNull => cases memberIsNull <;> rfl
  | callbackThread => rfl
  | start error isError => rw [toyCameraOpen_startError]

/-- Only a missing `Callbacks` makes `deinit` delete what was never created. -/
theorem failedOpen_sound :
    Sound (Module.start.toyCameraOpen (some failure)).1 ↔ failure ≠ .callbacks false := by
  cases failure with
  | callbacks memberIsNull =>
      cases memberIsNull with
      | false => exact iff_of_false (fun ⟨_, balanced⟩ => by cases balanced) (by simp)
      | true => exact iff_of_true ⟨[.object 0], by decide⟩ (by simp)
  | callbackThread => exact iff_of_true ⟨[.object 0], by decide⟩ (by simp)
  | start error isError =>
      rw [toyCameraOpen_startError]
      exact iff_of_true ⟨[.object 0], by decide⟩ (by simp)

/-- The next `set_callbacks` goes to an object that is deleted or was never there. -/
theorem setCallbacks_after_failedOpen :
    ¬ Sound (runCalls (Module.start.toyCameraOpen (some failure)).1 [.setCallbacks]) := by
  rintro ⟨holding, balanced⟩
  cases failure with
  | callbacks memberIsNull => cases memberIsNull <;> cases balanced
  | callbackThread => cases balanced
  | start error isError =>
      rw [toyCameraOpen_startError] at balanced
      cases balanced

theorem not_leavesClosed (later : List Call) : ¬ LeavesClosed failure later := by
  rintro ⟨_, closed, _⟩
  rw [failedOpen_controlThread] at closed
  cases closed

end

theorem not_leavesClosed_callbackThread :
    ¬ ∀ (failure : FailurePoint) (later : List Call), LeavesClosed failure later := by
  intro all
  obtain ⟨_, closed, _⟩ := all .callbackThread []
  cases closed

end ToySystem.Hal.CameraOpen
