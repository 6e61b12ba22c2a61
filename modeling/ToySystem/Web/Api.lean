import ToySystem.Web.Storage
import ToySystem.Web.Wire

namespace ToySystem.Web

open ToySystem.Data ToySystem.Data.Json ToySystem.Backend

/-! # The HTTP interface

The handlers of `toy-be/pkg/api/robots.go`, their routes, and the requests that `toy-api`
makes of them.  A handler that panics ends its connection only; package `net/http` goes on
with the others.
-/

/-! ## Bodies

`json.NewDecoder(r.Body).Decode` reads the first value of a body.
-/

/-- A structure after a value was read into it; `none` is a type error. -/
def readStruct {T : Type} (setField : T → List Char × Json → Option T) (t : T) :
    Json → Option T
  | .null => some t
  | .object fields => fields.foldlM setField t
  | _ => none

def decodeBody {T : Type} (setField : T → List Char × Json → Option T) (body : List Char) (t : T) :
    Option T :=
  (firstValue maxNestingDepth body).bind (readStruct setField t)

structure MotorState where
  speed : UInt32
deriving DecidableEq

def motorStateFields : List (List Char) := ["speed".toList]

def setMotorField (req : MotorState) (field : List Char × Json) : Option MotorState :=
  match fieldFor motorStateFields field.1 with
  | none => some req
  | some _ => (readUint 32 req.speed.toNat field.2).map fun speed => { speed := .ofNat speed }

def decodeMotorState (body : List Char) : Option MotorState :=
  decodeBody setMotorField body { speed := 0 }

/-- A slice of strings.  What was in it behind its end stays in memory, and `null` leaves
it in an element. -/
structure Which where
  held : List (List Char)
  length : Nat

def Which.fields (which : Which) : List (List Char) := which.held.take which.length

def fillWhich : List Json → List (List Char) → Option (List (List Char))
  | [], held => some held
  | item :: items, held =>
      (readString (held.headD []) item).bind fun first =>
        (fillWhich items held.tail).map (first :: ·)

def readWhich (which : Which) : Json → Option Which
  | .null => some { held := [], length := 0 }
  | .array [] => some { held := [], length := 0 }
  | .array items => (fillWhich items which.held).map fun held => { held, length := items.length }
  | _ => none

def robotFields : List (List Char) :=
  ["id".toList, "hostname".toList, "temperature".toList, "lmotor_speed".toList,
    "rmotor_speed".toList, "lmotor_state".toList, "rmotor_state".toList]

def setRobotField (robot : RobotState) (field : List Char × Json) : Option RobotState :=
  match fieldFor robotFields field.1 with
  | none => some robot
  | some name =>
      if name = "id".toList then
        (readUint 64 robot.id.toNat field.2).map fun id => { robot with id := .ofNat id }
      else if name = "hostname".toList then
        (readString robot.hostName field.2).map fun hostName => { robot with hostName }
      else if name = "temperature".toList then
        (readString robot.temperature field.2).map fun temperature => { robot with temperature }
      else if name = "lmotor_speed".toList then
        (readUint 32 robot.lMotorSpeed.toNat field.2).map fun speed =>
          { robot with lMotorSpeed := .ofNat speed }
      else if name = "rmotor_speed".toList then
        (readUint 32 robot.rMotorSpeed.toNat field.2).map fun speed =>
          { robot with rMotorSpeed := .ofNat speed }
      else if name = "lmotor_state".toList then
        (readUint 32 robot.lMotorState.toNat field.2).map fun state =>
          { robot with lMotorState := .ofNat state }
      else
        (readUint 32 robot.rMotorState.toNat field.2).map fun state =>
          { robot with rMotorState := .ofNat state }

def zeroRobot : RobotState where
  id := 0
  hostName := []
  temperature := []
  lMotorSpeed := 0
  rMotorSpeed := 0
  lMotorState := 0
  rMotorState := 0

/-- `data` is a pointer, which `null` makes nil. -/
def readData (data : Option RobotState) : Json → Option (Option RobotState)
  | .null => some none
  | value => (readStruct setRobotField (data.getD zeroRobot) value).map some

structure ModifyRobotRequest where
  what : List Char
  which : Which
  data : Option RobotState

def requestFields : List (List Char) := ["what".toList, "which".toList, "data".toList]

def setRequestField (req : ModifyRobotRequest) (field : List Char × Json) :
    Option ModifyRobotRequest :=
  match fieldFor requestFields field.1 with
  | none => some req
  | some name =>
      if name = "what".toList then
        (readString req.what field.2).map fun what => { req with what }
      else if name = "which".toList then
        (readWhich req.which field.2).map fun which => { req with which }
      else (readData req.data field.2).map fun data => { req with data }

/-- `none` is an error. -/
def getRobot (body : List Char) : Option ModifyRobotRequest :=
  (decodeBody setRequestField body {
    what := [], which := { held := [], length := 0 }, data := none }).bind fun req =>
      if req.what = "robot".toList then some req else none

inductive Reply where
  | status (code : Nat)
  | json (text : List Char)
  /-- The handler panicked. -/
  | dropped
deriving DecidableEq

def statusOK : Nat := 200
def statusCreated : Nat := 201
def statusBadRequest : Nat := 400
def statusForbidden : Nat := 403
def statusNotFound : Nat := 404
def statusConflict : Nat := 409
def statusInternalServerError : Nat := 500

def errToStatus : Option StorageError → Nat
  | none => statusOK
  | some (.storm (.file .permission)) => statusForbidden
  | some (.storm (.file .notExist)) => statusNotFound
  | some .notExist => statusNotFound
  | some (.storm (.file .exist)) => statusConflict
  | some .exist => statusConflict
  | some .rootUserDeletion => statusForbidden
  | some _ => statusInternalServerError

/-- The user `admin` is read first; `refuse` ends the handler with a reply. -/
def withUser {R : Type} (userErr : Bool) (refuse : Reply → R) (fn : R) : R :=
  if userErr then refuse (.status statusInternalServerError) else fn

def sortById (robots : List RobotState) : List RobotState :=
  robots.mergeSort fun one other => one.id ≤ other.id

def robotsGetHandler (userErr : Bool) (gets : Except StorageError (List RobotState)) : Reply :=
  withUser userErr id <|
    match gets with
    | .error _ => .status statusInternalServerError
    | .ok robots => .json (robotsText (sortById robots))

/-- The reply, and the arguments that `SendEngineMessage` is called with. -/
def robotSetLeftSpeedHandler (body : List Char) : Reply × Option (UInt32 × UInt32) :=
  match decodeMotorState body with
  | none => (.status statusBadRequest, none)
  | some req => (.status statusOK, some (0, req.speed))

def robotSetRightSpeedHandler : Reply × Option (UInt32 × UInt32) := (.status statusOK, none)

def robotHaltMotorHandler : Reply × Option (UInt32 × UInt32) := (.status statusOK, none)

/-- A `robotPutByIDHandler` that has fields left to update, each of them in a transaction
of its own. -/
structure PutHandler where
  data : Option RobotState
  fields : List (List Char)

def allFields : List (List Char) := ["all".toList]

section

variable (storm : Storm) (userErr : Bool) (fault : Option FileError)

/-- `raw` is nil, or an id; the conversion of nil panics. -/
def robotGetByIDHandler (raw : Option UInt64) (db : storm.Db) : Reply :=
  withUser userErr id <|
    match raw with
    | none => .dropped
    | some id =>
        match Storage.get storm fault db id with
        | .error .notExist => .status statusNotFound
        | .error _ => .status statusInternalServerError
        | .ok robot => .json (render (robotJson robot))

def robotDeleteHandler (raw : Option UInt64) (db : storm.Db) : storm.Db × Reply :=
  withUser userErr (db, ·) <|
    match raw with
    | none => (db, .dropped)
    | some id =>
        match Storage.delete storm fault db id with
        | .error err => (db, .status (errToStatus (some err)))
        | .ok db => (db, .status statusOK)

def robotsPostHandler (body : List Char) (db : storm.Db) : storm.Db × Reply :=
  withUser userErr (db, ·) <|
    match getRobot body with
    | none => (db, .status statusBadRequest)
    | some req =>
        if req.which.fields ≠ [] then (db, .status statusBadRequest)
        else
          match Storage.save storm fault db req.data with
          | .error _ => (db, .status statusInternalServerError)
          | .ok db => (db, .status statusCreated)

/-- The handler up to its first update of a field. -/
def robotPutByIDHandler (body : List Char) (db : storm.Db) : storm.Db × (Reply ⊕ PutHandler) :=
  withUser userErr (db, .inl ·) <|
    match getRobot body with
    | none => (db, .inl (.status statusBadRequest))
    | some req =>
        let fields := req.which.fields
        if fields = [] ∨ fields = allFields then
          match Storage.update storm fault db req.data with
          | .error _ => (db, .inl (.status statusInternalServerError))
          | .ok db => (db, .inl (.status statusOK))
        else if fields.contains "ID".toList then
          -- `Clean` looks at the name of the robot, which may be nil.
          (db, req.data.elim (.inl .dropped) fun robot =>
            if robot.hostName = [] then .inl (.status statusInternalServerError)
            else .inr { data := robot, fields })
        else (db, .inr { data := req.data, fields })

/-- The next field, or the reply after the last one. -/
def PutHandler.step (handler : PutHandler) (db : storm.Db) : storm.Db × (Reply ⊕ PutHandler) :=
  match handler.fields with
  | [] => (db, .inl (.status statusOK))
  | field :: fields =>
      match handler.data, RobotField.ofName field with
      | some robot, some field =>
          match RobotsBackend.updateField storm fault db robot field with
          | .error _ => (db, .inl (.status statusInternalServerError))
          | .ok db => (db, .inr { handler with fields })
      | _, _ => (db, .inl .dropped)

end

/-- The requests that `handle` gets.  No handler looks at the id in the path.  What the page
and its files contain is left open. -/
inductive Request where
  | getRobots
  | postRobot (body : List Char)
  | putRobot (id : Nat) (body : List Char)
  | getRobot (id : Nat)
  | deleteRobot (id : Nat)
  | setLeftSpeed (id : Nat) (body : List Char)
  | setRightSpeed (id : Nat) (body : List Char)
  | haltMotor (id : Nat) (body : List Char)
  | asset (answer : Reply)

/-- The arguments that the handler calls `SendEngineMessage` with. -/
def Request.engineMessage : Request → Option (UInt32 × UInt32)
  | .setLeftSpeed _ body => (robotSetLeftSpeedHandler body).2
  | .setRightSpeed _ _ => robotSetRightSpeedHandler.2
  | .haltMotor _ _ => robotHaltMotorHandler.2
  | .getRobots => none
  | .postRobot _ => none
  | .putRobot _ _ => none
  | .getRobot _ => none
  | .deleteRobot _ => none
  | .asset _ => none

/-- What the stores for the settings, the users and the robots report during a request. -/
structure Answers where
  settingsErr : Bool
  userErr : Bool
  fault : Option FileError
deriving DecidableEq

/-- Without the settings `log.Fatalf` ends the process.  The data that `fn` is given has no
`raw`. -/
def handle {R : Type} (settingsErr : Bool) (fn : Option UInt64 → R) : Option R :=
  if settingsErr then none else some (fn none)

/-- The database, and the reply or what is left to be done for it. -/
def Request.serve (storm : Storm) (answers : Answers) (db : storm.Db) (request : Request) :
    Option (storm.Db × (Reply ⊕ PutHandler)) :=
  let ⟨settingsErr, userErr, fault⟩ := answers
  handle settingsErr fun raw =>
    match request with
    | .getRobots => (db, .inl (robotsGetHandler userErr (Storage.gets storm fault db)))
    | .postRobot body => (robotsPostHandler storm userErr fault body db).map id .inl
    | .putRobot _ body => robotPutByIDHandler storm userErr fault body db
    | .getRobot _ => (db, .inl (robotGetByIDHandler storm userErr fault raw db))
    | .deleteRobot _ => (robotDeleteHandler storm userErr fault raw db).map id .inl
    | .setLeftSpeed _ body => (db, .inl (robotSetLeftSpeedHandler body).1)
    | .setRightSpeed _ _ => (db, .inl robotSetRightSpeedHandler.1)
    | .haltMotor _ _ => (db, .inl robotHaltMotorHandler.1)
    | .asset answer => (db, .inl answer)

/-! ## The requests for speeds

A number of the page's is not finite, `none`, or is converted to the text that it is
written as.
-/

def speedJson : Option (List Char) → Json
  | none => .null
  | some literal => .number literal

/-- The body that `ServerProxy.setLeftMotorSpeed` sends. -/
def setLeftMotorSpeed (speed : Option (List Char)) : List Char :=
  render (.object [("speed".toList, speedJson speed)])

theorem decodeMotorState_setLeftMotorSpeed {speed : Option (List Char)}
    (valid : ∀ literal ∈ speed, isNumber literal = true) (rest : List Char) :
    decodeMotorState (setLeftMotorSpeed speed ++ rest) =
      (readUint 32 0 (speedJson speed)).map fun value => { speed := .ofNat value } := by
  have readable : Readable maxNestingDepth 0 (.object [("speed".toList, speedJson speed)]) := by
    refine .object (by decide) ?_
    rw [List.forall_mem_singleton]
    cases speed with
    | none => exact .null
    | some literal => exact .number (valid literal rfl)
  have field : fieldFor motorStateFields "speed".toList = some "speed".toList := by decide
  have set : setMotorField { speed := 0 } ("speed".toList, speedJson speed) =
      (readUint 32 0 (speedJson speed)).map fun value => { speed := .ofNat value } := by
    simp only [setMotorField, field]
    rfl
  rw [decodeMotorState, decodeBody, setLeftMotorSpeed, firstValue_object readable,
    Option.bind_some, readStruct, List.foldlM_cons, set]
  exact bind_pure _

/-- What is typed on the page arrives as it is, or is refused; what is no number halts the
motor.  Nothing behind the body matters. -/
theorem speed_request_read (rest : List Char) :
    robotSetLeftSpeedHandler (setLeftMotorSpeed none ++ rest) = (.status statusOK, some (0, 0)) ∧
      (∀ value < 2 ^ 32,
        robotSetLeftSpeedHandler (setLeftMotorSpeed (some (Nat.toDigits 10 value)) ++ rest) =
          (.status statusOK, some (0, .ofNat value))) ∧
      ∀ literal, isNumber literal = true → (∀ value < 2 ^ 32, literal ≠ Nat.toDigits 10 value) →
        robotSetLeftSpeedHandler (setLeftMotorSpeed (some literal) ++ rest) =
          (.status statusBadRequest, none) := by
  have handled {speed : Option (List Char)} (valid : ∀ literal ∈ speed, isNumber literal = true) :
      robotSetLeftSpeedHandler (setLeftMotorSpeed speed ++ rest) =
        (readUint 32 0 (speedJson speed)).elim (.status statusBadRequest, none) fun value =>
          (.status statusOK, some (0, .ofNat value)) := by
    rw [robotSetLeftSpeedHandler, decodeMotorState_setLeftMotorSpeed valid]
    cases readUint 32 0 (speedJson speed) <;> rfl
  refine ⟨handled (by simp), fun value small => ?_, fun literal valid other => ?_⟩
  · rw [handled (by simp [isNumber_toDigits])]
    simp only [speedJson]
    rw [← natural, readUint_natural 0 small, Option.elim_some]
  · rw [handled (by simpa using valid)]
    have refused : readUint 32 0 (speedJson (some literal)) = none := by
      cases digits : digitsValue literal with
      | none => simp [speedJson, readUint, digits]
      | some value =>
          have large : ¬ value < 2 ^ 32 := fun small =>
            other value small (toDigits_digitsValue valid digits)
          simp only [speedJson, readUint, digits, Option.bind_some, if_neg large]
    rw [refused, Option.elim_none]

end ToySystem.Web
