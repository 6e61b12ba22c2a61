import ToySystem.Backend.Robots
import ToySystem.Data.JsonNumbers

namespace ToySystem.Web

open ToySystem.Data ToySystem.Data.Json ToySystem.Backend

/-! # The texts between the backend and the page

`BroadcastRobotState`, `Message` and `Robots` of `toy-be`, as package `encoding/json`
writes and reads them, and what `Socket.message`, `ServerProxy.getRobots` and the class
`Robot` of the page make of the texts.
-/

/-- The deepest that `encoding/json` goes. -/
def maxNestingDepth : Nat := 10000

/-- ASCII letters match in either case, and two other letters match theirs. -/
def foldChar (c : Char) : Char :=
  if c.toNat = 0x17f then 's' else if c.toNat = 0x212a then 'k' else c.toLower

/-- The field that a key in a text belongs to: that of its name, or else the first one
whose name differs in case only. -/
def fieldFor (names : List (List Char)) (key : List Char) : Option (List Char) :=
  if key ∈ names then some key
  else names.find? fun name => name.map foldChar = key.map foldChar

/-- An unsigned field after a value was read into it; `none` is a type error. -/
def readUint (bits current : Nat) : Json → Option Nat
  | .null => some current
  | .number literal =>
      (digitsValue literal).bind fun value => if value < 2 ^ bits then some value else none
  | _ => none

def readString (current : List Char) : Json → Option (List Char)
  | .null => some current
  | .string chars => some chars
  | _ => none

def robotJson (robot : RobotState) : Json :=
  .object [
    ("id".toList, natural robot.id.toNat),
    ("hostname".toList, .string robot.hostName),
    ("temperature".toList, .string robot.temperature),
    ("lmotor_speed".toList, natural robot.lMotorSpeed.toNat),
    ("rmotor_speed".toList, natural robot.rMotorSpeed.toNat),
    ("lmotor_state".toList, natural robot.lMotorState.toNat),
    ("rmotor_state".toList, natural robot.rMotorState.toNat)]

def broadcastJson (state : BroadcastRobotState) : Json :=
  .object [
    ("id".toList, natural state.robotId.toNat),
    ("hostname".toList, .string state.hostname),
    ("temperature".toList, .string state.temperature)]

/-- What `BroadcastRobot` marshals. -/
def marshalBroadcast (state : BroadcastRobotState) : List Char := render (broadcastJson state)

def broadcastFields : List (List Char) := ["id".toList, "hostname".toList, "temperature".toList]

def setBroadcastField (t : BroadcastRobotState) (field : List Char × Json) :
    Option BroadcastRobotState :=
  match fieldFor broadcastFields field.1 with
  | none => some t
  | some name =>
      if name = "id".toList then
        (readUint 64 t.robotId.toNat field.2).map fun id => { t with robotId := .ofNat id }
      else if name = "hostname".toList then
        (readString t.hostname field.2).map fun hostname => { t with hostname }
      else (readString t.temperature field.2).map fun temperature => { t with temperature }

/-- `json.Unmarshal(message, &t)`; `none` is an error. -/
def unmarshalBroadcast (message : List Char) (t : BroadcastRobotState) :
    Option BroadcastRobotState :=
  (parse maxNestingDepth message).bind fun value =>
    match value with
    | .null => some t
    | .object fields => fields.foldlM setBroadcastField t
    | _ => none

def statusJson (t : BroadcastRobotState) : Json :=
  .object [("name".toList, .string "status_change".toList), ("data".toList, broadcastJson t)]

/-- `socket.WriteJSON(Message{Name: "status_change", Data: t})`. -/
def statusText (t : BroadcastRobotState) : List Char := render (statusJson t) ++ ['\n']

def robotsJson (robots : List RobotState) : Json :=
  .object [
    ("count".toList, natural robots.length),
    ("next".toList, .string []),
    ("previous".toList, .string []),
    ("results".toList, .array (robots.map robotJson))]

/-- `renderJSON(w, r, pdata[0])` of `robotsGetHandler`. -/
def robotsText (robots : List RobotState) : List Char := render (robotsJson robots)

/-- `JSON.parse`, which has no limit; a text cannot be deeper than it is long. -/
def jsonParse (text : List Char) : Option Json := parse text.length text

/-- Of two fields with one name the later one counts. -/
def property (name : String) : Json → Option Json
  | .object fields => (fields.reverse.find? fun field => field.1 = name.toList).map Prod.snd
  | _ => none

def asNumber : Json → Option Nat
  | .number literal => (digitsValue literal).map double
  | _ => none

def asString : Json → Option (List Char)
  | .string chars => some chars
  | _ => none

def asArray : Json → Option (List Json)
  | .array items => some items
  | _ => none

/-- The arguments of `updateRobotState`. -/
structure StatusMessage where
  id : Nat
  hostname : List Char
  temperature : List Char
deriving DecidableEq

/-- `Socket.message` and `handleStatusChanged`; `none` where a text is not a message of
the server's. -/
def readStatus (text : List Char) : Option StatusMessage := do
  let message ← jsonParse text
  let name ← (property "name" message).bind asString
  let data ← property "data" message
  if name = "status_change".toList then
    let id ← (property "id" data).bind asNumber
    let hostname ← (property "hostname" data).bind asString
    let temperature ← (property "temperature" data).bind asString
    return { id, hostname, temperature }
  else none

/-- What a `Robot` of the page is constructed with. -/
structure RobotData where
  id : Nat
  hostname : List Char
  temperature : List Char
  lmotorSpeed : Nat
  rmotorSpeed : Nat
  lmotorState : Nat
  rmotorState : Nat
deriving DecidableEq

def readRobot (initialData : Json) : Option RobotData := do
  let id ← (property "id" initialData).bind asNumber
  let hostname ← (property "hostname" initialData).bind asString
  let temperature ← (property "temperature" initialData).bind asString
  let lmotorSpeed ← (property "lmotor_speed" initialData).bind asNumber
  let rmotorSpeed ← (property "rmotor_speed" initialData).bind asNumber
  let lmotorState ← (property "lmotor_state" initialData).bind asNumber
  let rmotorState ← (property "rmotor_state" initialData).bind asNumber
  return { id, hostname, temperature, lmotorSpeed, rmotorSpeed, lmotorState, rmotorState }

/-- `getRobots` and `robotsData.map`: the number of robots and the robots. -/
def readRobots (text : List Char) : Option (Nat × List RobotData) := do
  let data ← jsonParse text
  let count ← (property "count" data).bind asNumber
  let results ← (property "results" data).bind asArray
  return (count, ← results.mapM readRobot)

/-- What the page has of a robot. -/
def seen (robot : RobotState) : RobotData where
  id := double robot.id.toNat
  hostname := robot.hostName
  temperature := robot.temperature
  lmotorSpeed := robot.lMotorSpeed.toNat
  rmotorSpeed := robot.rMotorSpeed.toNat
  lmotorState := robot.lMotorState.toNat
  rmotorState := robot.rMotorState.toNat

def statusOf (state : BroadcastRobotState) : StatusMessage where
  id := double state.robotId.toNat
  hostname := state.hostname
  temperature := state.temperature

theorem broadcastJson_readable {limit level : Nat} (room : level < limit)
    (state : BroadcastRobotState) : Readable limit level (broadcastJson state) := by
  refine .object room ?_
  simp only [List.forall_mem_cons]
  exact ⟨natural_readable _ _ _, .string _, .string _, by simp⟩

theorem parse_marshal (state : BroadcastRobotState) :
    parse maxNestingDepth (marshalBroadcast state) = some (broadcastJson state) := by
  have readable : Readable maxNestingDepth 0 (broadcastJson state) :=
    broadcastJson_readable (by decide) state
  have noBlanks : ∀ c ∈ ([] : List Char), isSpace c = true := by simp
  have parsed := parse_render readable noBlanks
  rwa [List.append_nil] at parsed

theorem readUint_natural {bits value : Nat} (current : Nat) (small : value < 2 ^ bits) :
    readUint bits current (natural value) = some value := by
  rw [natural, readUint, digitsValue_toDigits, Option.bind_some, if_pos small]

theorem setBroadcastField_id (t : BroadcastRobotState) (value : Json) :
    setBroadcastField t ("id".toList, value) =
      (readUint 64 t.robotId.toNat value).map fun id => { t with robotId := .ofNat id } := by
  have field : fieldFor broadcastFields "id".toList = some "id".toList := by decide
  simp only [setBroadcastField, field, if_true]

theorem setBroadcastField_hostname (t : BroadcastRobotState) (value : Json) :
    setBroadcastField t ("hostname".toList, value) =
      (readString t.hostname value).map fun hostname => { t with hostname } := by
  have field : fieldFor broadcastFields "hostname".toList = some "hostname".toList := by decide
  have notId : "hostname".toList ≠ "id".toList := by decide
  simp only [setBroadcastField, field, if_neg notId, if_true]

theorem setBroadcastField_temperature (t : BroadcastRobotState) (value : Json) :
    setBroadcastField t ("temperature".toList, value) =
      (readString t.temperature value).map fun temperature => { t with temperature } := by
  have field : fieldFor broadcastFields "temperature".toList = some "temperature".toList := by
    decide
  have notId : "temperature".toList ≠ "id".toList := by decide
  have notHostname : "temperature".toList ≠ "hostname".toList := by decide
  simp only [setBroadcastField, field, if_neg notId, if_neg notHostname]

/-- Whatever `t` held before. -/
theorem unmarshal_marshal (state t : BroadcastRobotState) :
    unmarshalBroadcast (marshalBroadcast state) t = some state := by
  rw [unmarshalBroadcast, parse_marshal, Option.bind_some]
  simp only [broadcastJson, List.foldlM_cons, List.foldlM_nil, setBroadcastField_id,
    setBroadcastField_hostname, setBroadcastField_temperature,
    readUint_natural _ state.robotId.toNat_lt, readString, Option.map_some,
    UInt64.ofNat_toNat, Option.bind_eq_bind, Option.bind_some]
  rfl

theorem jsonParse_render {value : Json} {text blanks : List Char}
    (written : text = render value ++ blanks) (readable : Readable text.length 0 value)
    (blank : ∀ c ∈ blanks, isSpace c = true) : jsonParse text = some value := by
  have parsed := parse_render readable blank
  rwa [← written] at parsed

theorem asNumber_natural (value : Nat) : asNumber (natural value) = some (double value) := by
  rw [natural, asNumber, digitsValue_toDigits, Option.map_some]

theorem double_uint32 (value : UInt32) : double value.toNat = value.toNat := by
  have small : value.toNat < 2 ^ 32 := value.toNat_lt
  exact double_of_lt (by omega)

theorem readStatus_statusText (state : BroadcastRobotState) :
    readStatus (statusText state) = some (statusOf state) := by
  have readable : Readable (statusText state).length 0 (statusJson state) := by
    have long : 1 < (statusText state).length := by simp [statusText, statusJson, render, quote]
    refine .object (by omega) ?_
    simp only [List.forall_mem_cons]
    exact ⟨.string _, broadcastJson_readable long state, by simp⟩
  have parsed : jsonParse (statusText state) = some (statusJson state) :=
    jsonParse_render rfl readable (by simp [isSpace])
  have id : property "id" (broadcastJson state) = some (natural state.robotId.toNat) := rfl
  have hostname : property "hostname" (broadcastJson state) = some (.string state.hostname) := rfl
  have temperature : property "temperature" (broadcastJson state) =
      some (.string state.temperature) := rfl
  rw [readStatus, parsed]
  show (do
    let id ← (property "id" (broadcastJson state)).bind asNumber
    let hostname ← (property "hostname" (broadcastJson state)).bind asString
    let temperature ← (property "temperature" (broadcastJson state)).bind asString
    return ({ id, hostname, temperature } : StatusMessage)) = _
  simp only [id, hostname, temperature, Option.bind_some, asNumber_natural, asString,
    Option.bind_eq_bind]
  rfl

theorem robotJson_readable {limit level : Nat} (room : level < limit) (robot : RobotState) :
    Readable limit level (robotJson robot) := by
  refine .object room ?_
  simp only [List.forall_mem_cons]
  exact ⟨natural_readable _ _ _, .string _, .string _, natural_readable _ _ _,
    natural_readable _ _ _, natural_readable _ _ _, natural_readable _ _ _, by simp⟩

theorem readRobot_robotJson (robot : RobotState) : readRobot (robotJson robot) = some (seen robot) := by
  have id : property "id" (robotJson robot) = some (natural robot.id.toNat) := rfl
  have hostname : property "hostname" (robotJson robot) = some (.string robot.hostName) := rfl
  have temperature : property "temperature" (robotJson robot) =
      some (.string robot.temperature) := rfl
  have lmotorSpeed : property "lmotor_speed" (robotJson robot) =
      some (natural robot.lMotorSpeed.toNat) := rfl
  have rmotorSpeed : property "rmotor_speed" (robotJson robot) =
      some (natural robot.rMotorSpeed.toNat) := rfl
  have lmotorState : property "lmotor_state" (robotJson robot) =
      some (natural robot.lMotorState.toNat) := rfl
  have rmotorState : property "rmotor_state" (robotJson robot) =
      some (natural robot.rMotorState.toNat) := rfl
  simp only [readRobot, id, hostname, temperature, lmotorSpeed, rmotorSpeed, lmotorState,
    rmotorState, Option.bind_some, Option.bind_eq_bind, asNumber_natural, asString, double_uint32]
  rfl

theorem mapM_readRobot (robots : List RobotState) :
    (robots.map robotJson).mapM readRobot = some (robots.map seen) := by
  induction robots with
  | nil => rfl
  | cons robot rest ih =>
      rw [List.map_cons, List.mapM_cons, readRobot_robotJson, ih]
      rfl

theorem readRobots_robotsText (robots : List RobotState) :
    readRobots (robotsText robots) = some (double robots.length, robots.map seen) := by
  have long : 2 < (robotsText robots).length := by simp [robotsText, robotsJson, render, quote]
  have readable : Readable (robotsText robots).length 0 (robotsJson robots) := by
    refine .object (by omega) ?_
    simp only [List.forall_mem_cons]
    refine ⟨natural_readable _ _ _, .string _, .string _, .array (by omega) ?_, by simp⟩
    rw [List.forall_mem_map]
    exact fun robot _ => robotJson_readable (by omega) robot
  have parsed : jsonParse (robotsText robots) = some (robotsJson robots) :=
    jsonParse_render (List.append_nil _).symm readable (by simp)
  rw [readRobots, parsed]
  show (do
    let count ← asNumber (natural robots.length)
    return (count, ← (robots.map robotJson).mapM readRobot)) = _
  rw [asNumber_natural, mapM_readRobot]
  rfl

/-- The id in a message of the robot's is one of 32 bits, so the page never takes it
for another robot's, although it rounds the ids it has. -/
theorem double_id_eq_iff (robot : RobotState) (id : UInt32) :
    double robot.id.toNat = double id.toUInt64.toNat ↔ robot.id = id.toUInt64 := by
  have small : id.toUInt64.toNat < 2 ^ 53 := by
    have below : id.toNat < 2 ^ 32 := id.toNat_lt
    rw [UInt32.toNat_toUInt64]
    omega
  rw [double_eq_iff small, UInt64.toNat_inj]

/-- The hub and the page read the backend's texts as they were meant, whatever characters
the names and temperatures consist of. -/
theorem texts_read_back :
    (∀ state t, unmarshalBroadcast (marshalBroadcast state) t = some state) ∧
      (∀ state, readStatus (statusText state) = some (statusOf state)) ∧
      (∀ robots, readRobots (robotsText robots) =
        some (double robots.length, robots.map seen)) ∧
      ∀ robot id, (seen robot).id = double (UInt32.toUInt64 id).toNat ↔ robot.id = id.toUInt64 :=
  ⟨unmarshal_marshal, readStatus_statusText, readRobots_robotsText, double_id_eq_iff⟩

end ToySystem.Web
