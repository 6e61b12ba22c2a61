import ToySystem.Backend.Protocol
import ToySystem.Web.Api

namespace ToySystem.Web

open ToySystem.Backend ToySystem.Data ToySystem.Data.Json ToySystem.Message

/-! # The robots of the backend, from the start on

`InitRobots` of `toy-be/cmd/robots.go`, and after it all that changes the database:
`UpdateRobot`, which reads a robot and writes it back later, and the requests.
-/

/-- `strconv.ParseUint(id, 10, 64)`, whose error is ignored: a text that is no number is 0,
and a number that is too large is the largest one. -/
def parseUintFrom (value : Nat) : List Char → Nat
  | [] => value
  | c :: rest =>
      if c.isDigit then
        let next := value * 10 + (c.toNat - 48)
        if next < 2 ^ 64 then parseUintFrom next rest else 2 ^ 64 - 1
      else 0

def parseUint (id : List Char) : UInt64 := .ofNat (parseUintFrom 0 id)

/-- What the file of the database reports at the start.  `Gets` lists a robot once, so that
its id names the call of `Delete`. -/
structure InitFaults where
  gets : Option FileError
  delete : UInt64 → Option FileError
  save : Option FileError

/-- The robot that `InitRobots` saves. -/
def initialRobot (osHostname id : List Char) : RobotState where
  id := parseUint id
  hostName := osHostname
  temperature := "0.0".toList
  lMotorSpeed := 50
  rMotorSpeed := 30
  lMotorState := 1
  rMotorState := 1

/-- All errors are passed over; a list that `Gets` could not read is empty. -/
def initRobots (storm : Storm) (faults : InitFaults) (osHostname id : List Char)
    (db : storm.Db) : storm.Db :=
  let robotList := (Storage.gets storm faults.gets db).toOption.getD []
  let db := robotList.foldl
    (fun db p => (Storage.delete storm (faults.delete p.id) db p.id).toOption.getD db) db
  (Storage.save storm faults.save db (some (initialRobot osHostname id))).toOption.getD db

structure BackendState (storm : Storm) where
  db : storm.Db
  vars : RecvVars
  /-- `UpdateRobot` has got the robot, and has not updated it yet. -/
  updating : Option (UpdateCall × RobotState)
  puts : List PutHandler
  broadcasts : List BroadcastRobotState
  crashed : Bool

/-- The errors are those of the queue and of the stores. -/
inductive BackendEvent where
  | receive (msg : Memory) (err : Option GoError) (fault : Option FileError)
  | update (fault : Option FileError)
  | request (answers : Answers) (request : Request)
  | putField (index : Nat) (fault : Option FileError)

namespace BackendState

variable {storm : Storm}

def start (db : storm.Db) : BackendState storm where
  db := db
  vars := {
    msg := { cmd := 0, data := zeroBlock messageDataLen }
    robot := { id := 0, hostname := zeroBlock hostnameLen, temperature := 0 } }
  updating := none
  puts := []
  broadcasts := []
  crashed := false

def crash (state : BackendState storm) : BackendState storm := { state with crashed := true }

/-- `RecvMessageQ` up to the point where `UpdateRobot` has got the robot. -/
def receive (state : BackendState storm) (msg : Memory) (err : Option GoError)
    (fault : Option FileError) : BackendState storm :=
  match checkErr err with
  | none => state.crash
  | some _ =>
      match recvMessage (RobotMessage.send msg) state.vars with
      | (vars, none) => { state with vars }
      | (vars, some robot) =>
          match Storage.get storm fault state.db robot.call.id with
          | .error _ => state.crash
          | .ok p => { state with vars, updating := some (robot.call, p) }

/-- The rest of `UpdateRobot`. -/
def update (osHostname : List Char) (state : BackendState storm) (call : UpdateCall)
    (p : RobotState) (fault : Option FileError) : BackendState storm :=
  let (p, broadcast) := updateRobot osHostname p call.id call.temperature
  match Storage.update storm fault state.db (some p) with
  | .error _ => state.crash
  | .ok db => { state with db, updating := none, broadcasts := state.broadcasts ++ [broadcast] }

def serve (state : BackendState storm) (answers : Answers) (request : Request) :
    BackendState storm :=
  match request.serve storm answers state.db with
  | none => state.crash
  | some (db, .inl _) => { state with db }
  | some (db, .inr handler) => { state with db, puts := state.puts ++ [handler] }

def putField (state : BackendState storm) (index : Nat) (handler : PutHandler)
    (fault : Option FileError) : BackendState storm :=
  match handler.step storm fault state.db with
  | (db, .inl _) => { state with db, puts := state.puts.eraseIdx index }
  | (db, .inr handler) => { state with db, puts := state.puts.set index handler }

/-- Nothing happens after a crash. -/
def step (osHostname : List Char) (state : BackendState storm) (event : BackendEvent) :
    Option (BackendState storm) :=
  if state.crashed then none
  else
    match event with
    | .receive msg err fault =>
        if state.updating.isSome then none else some (state.receive msg err fault)
    | .update fault => state.updating.map fun (call, p) => state.update osHostname call p fault
    | .request answers request => some (state.serve answers request)
    | .putField index fault =>
        (state.puts[index]?).map fun handler => state.putField index handler fault

end BackendState

/-- The id under which a body's robot is stored. -/
def savedId (whole : List (List Char) → Bool) (body : List Char) : Option UInt64 :=
  (getRobot body).bind fun req => if whole req.which.fields then saveId req.data else none

def Request.saved : Request → Option UInt64
  | .postRobot body => savedId (fun fields => fields = []) body
  | .putRobot _ body => savedId (fun fields => fields = [] ∨ fields = allFields) body
  | _ => none

/-- The id that a request stores, if all that it needs works. -/
def BackendEvent.saved : BackendEvent → Option UInt64
  | .request answers req => if answers = ⟨false, false, none⟩ then req.saved else none
  | _ => none

/-- The process ends if the queue reports an error or the database one about a message, if
a message is about a robot that is not among those that are known, and if the settings
cannot be read for a request. -/
def BackendEvent.Fatal (known : Set UInt64) : BackendEvent → Prop
  | .receive msg err fault => err ≠ none ∨
      RobotMessage.id msg = Message.messageIdInfo ∧
        (fault ≠ none ∨ (RobotMessage.infoId msg).toUInt64 ∉ known)
  | .update fault => fault ≠ none
  | .request answers _ => answers.settingsErr = true
  | .putField _ _ => False

/-- The robots that are there from the start: the one with the id that was configured, and
of those that were there before all that were not deleted. -/
def startIds (storm : Storm) (faults : InitFaults) (id : List Char) (db : storm.Db) :
    Set UInt64 :=
  {other | other ∈ storm.ids db ∧ (faults.gets ≠ none ∨ other = 1 ∨ faults.delete other ≠ none) ∨
    faults.save = none ∧ parseUint id ≠ 0 ∧ other = parseUint id}

/-- The ids that the events store. -/
def savedIds (events : List BackendEvent) : Set UInt64 :=
  {id | id ∈ events.filterMap BackendEvent.saved}

section

variable {storm : Storm} {db : storm.Db} {userErr : Bool} {fault : Option FileError}
  {body : List Char} {id : UInt64}

theorem mem_post (documented : storm.Documented) :
    id ∈ storm.ids (robotsPostHandler storm userErr fault body db).1 ↔ id ∈ storm.ids db ∨
      userErr = false ∧ fault = none ∧ savedId (fun fields => fields = []) body = some id := by
  unfold robotsPostHandler savedId
  cases userErr with
  | true => simp [withUser]
  | false =>
      cases asked : getRobot body with
      | none => simp [withUser]
      | some req =>
          by_cases whole : req.which.fields = []
          · have ids := @Storage.mem_save storm db id fault documented req.data
            cases saved : Storage.save storm fault db req.data <;>
              simpa [withUser, whole, saved, Except.toOption] using ids
          · simp [withUser, whole]

/-- Nothing is stored before the first field. -/
theorem put_untouched {req : ModifyRobotRequest} (asked : getRobot body = some req)
    (parts : ¬ (req.which.fields = [] ∨ req.which.fields = allFields)) :
    (robotPutByIDHandler storm userErr fault body db).1 = db := by
  unfold robotPutByIDHandler withUser
  split
  · rfl
  · simp only [asked, if_neg parts]
    split <;> rfl

theorem mem_put (documented : storm.Documented) :
    id ∈ storm.ids (robotPutByIDHandler storm userErr fault body db).1 ↔ id ∈ storm.ids db ∨
      userErr = false ∧ fault = none ∧
        savedId (fun fields => fields = [] ∨ fields = allFields) body = some id := by
  cases asked : getRobot body with
  | none => cases userErr <;> simp [robotPutByIDHandler, withUser, savedId, asked]
  | some req =>
      by_cases whole : req.which.fields = [] ∨ req.which.fields = allFields
      · have ids := @Storage.mem_save storm db id fault documented req.data
        cases userErr with
        | true => simp [robotPutByIDHandler, withUser]
        | false =>
            have same : Storage.update storm fault db req.data =
              Storage.save storm fault db req.data := rfl
            cases saved : Storage.save storm fault db req.data <;>
              simpa [robotPutByIDHandler, withUser, savedId, asked, whole, same, saved,
                Except.toOption] using ids
      · rw [put_untouched asked whole]
        simp [savedId, asked, whole]

theorem mem_putField (documented : storm.Documented) {handler : PutHandler} :
    id ∈ storm.ids (handler.step storm fault db).1 ↔ id ∈ storm.ids db := by
  unfold PutHandler.step
  split
  · rfl
  · split
    · next robot field _ _ =>
        have ids := @RobotsBackend.mem_updateField storm db id fault documented robot field
        split
        · rfl
        · next updated =>
            rw [updated] at ids
            exact ids
    · rfl

/-- A request is served if the settings can be read; nothing but `Save` changes which ids are
stored, since the data that a handler is given has no id to delete. -/
theorem serve_cases (documented : storm.Documented) (answers : Answers) (request : Request) :
    answers.settingsErr = true ∧ request.serve storm answers db = none ∨
      answers.settingsErr = false ∧ ∃ after progress,
        request.serve storm answers db = some (after, progress) ∧
          ∀ id, id ∈ storm.ids after ↔
            id ∈ storm.ids db ∨ (BackendEvent.request answers request).saved = some id := by
  obtain ⟨settingsErr, userErr, fault⟩ := answers
  cases settingsErr with
  | true => exact .inl ⟨rfl, rfl⟩
  | false =>
      refine .inr ⟨rfl, ?_⟩
      -- A route that leaves the database as it was.
      have untouched (progress : Reply ⊕ PutHandler) (saves : request.saved = none)
          (served : request.serve storm ⟨false, userErr, fault⟩ db = some (db, progress)) :
          ∃ after progress, request.serve storm ⟨false, userErr, fault⟩ db = some (after, progress) ∧
            ∀ id, id ∈ storm.ids after ↔ id ∈ storm.ids db ∨
              (BackendEvent.request ⟨false, userErr, fault⟩ request).saved = some id :=
        ⟨db, progress, served, fun id => by simp [BackendEvent.saved, saves]⟩
      cases request with
      | getRobots => exact untouched _ rfl rfl
      | getRobot id => exact untouched _ rfl rfl
      | setLeftSpeed id body => exact untouched _ rfl rfl
      | setRightSpeed id body => exact untouched _ rfl rfl
      | haltMotor id body => exact untouched _ rfl rfl
      | asset answer => exact untouched _ rfl rfl
      | deleteRobot id =>
          cases userErr with
          | true => exact untouched _ rfl rfl
          | false => exact untouched _ rfl rfl
      | postRobot body =>
          refine ⟨_, _, rfl, fun id => (mem_post documented).trans (or_congr_right ?_)⟩
          cases userErr <;> cases fault <;> simp [BackendEvent.saved, Request.saved]
      | putRobot id body =>
          refine ⟨_, _, rfl, fun id => (mem_put documented).trans (or_congr_right ?_)⟩
          cases userErr <;> cases fault <;> simp [BackendEvent.saved, Request.saved]

end

/-- The process runs, and the ids that are stored are the known ones. -/
structure BackendState.Stores {storm : Storm} (known : Set UInt64) (state : BackendState storm) :
    Prop where
  alive : state.crashed = false
  ids : ∀ id, id ∈ storm.ids state.db ↔ id ∈ known
  updating : ∀ call p, state.updating = some (call, p) → p.id ∈ known

section

variable {storm : Storm} {osHostname : List Char} {known : Set UInt64}
  {state next : BackendState storm}

theorem BackendState.Stores.save {db : storm.Db} {saved : Option UInt64}
    (stores : state.Stores known)
    (ids : ∀ id, id ∈ storm.ids db ↔ id ∈ storm.ids state.db ∨ saved = some id)
    (puts : List PutHandler) :
    BackendState.Stores (known ∪ {id | saved = some id}) { state with db, puts } where
  alive := stores.alive
  ids id := by
    rw [ids, stores.ids]
    rfl
  updating call p updating := .inl (stores.updating call p updating)

theorem BackendState.Stores.unsaved {event : BackendEvent} (stores : state.Stores known)
    (unsaved : event.saved = none) : state.Stores (known ∪ {id | event.saved = some id}) := by
  have same : known ∪ {id | event.saved = some id} = known := by simp [unsaved]
  rwa [same]

theorem recvMessage_other {msg : Memory} (vars : RecvVars)
    (other : RobotMessage.id msg ≠ Message.messageIdInfo) :
    ∃ after, recvMessage (RobotMessage.send msg) vars = (after, none) := by
  obtain ⟨received, read, cmd, _⟩ := readSysmsg_send msg
  have notInfo : received.cmd ≠ Backend.messageIdInfo := by
    rw [cmd]
    exact other
  exact ⟨{ vars with msg := received }, by simp only [recvMessage, read, if_neg notInfo]⟩

/-- A message about a robot that is there begins an update. -/
theorem receive_stores (documented : storm.Documented) (stores : state.Stores known)
    (msg : Memory) (err : Option GoError) (fault : Option FileError) :
    (state.receive msg err fault).crashed = true ∧
        BackendEvent.Fatal known (.receive msg err fault) ∨
      ¬ BackendEvent.Fatal known (.receive msg err fault) ∧
        (state.receive msg err fault).Stores known := by
  cases err with
  | some err =>
      left
      simp [BackendState.receive, checkErr, BackendState.crash, BackendEvent.Fatal]
  | none =>
      by_cases info : RobotMessage.id msg = Message.messageIdInfo
      · obtain ⟨after, received, _, robot⟩ := recvMessage_send msg state.vars info
        have isId : after.robot.call.id = (RobotMessage.infoId msg).toUInt64 := by
          rw [robot]
          rfl
        rcases @Storage.get_returns storm state.db after.robot.call.id fault documented with
          ⟨p, got, works, found⟩ | ⟨err, failed, why⟩
        · right
          have member : after.robot.call.id ∈ known := by
            rw [← stores.ids, Storm.mem_ids, found]
            rfl
          have began : state.receive msg none fault =
              { state with vars := after, updating := some (after.robot.call, p) } := by
            simp [BackendState.receive, checkErr, received, got]
          refine ⟨by simp [BackendEvent.Fatal, works, ← isId, member], ?_⟩
          rw [began]
          refine ⟨stores.alive, stores.ids, ?_⟩
          rintro call q updating
          cases updating
          rwa [documented.keyed _ _ p found]
        · left
          have fatal : fault ≠ none ∨ (RobotMessage.infoId msg).toUInt64 ∉ known := by
            rwa [stores.ids, isId] at why
          refine ⟨by simp [BackendState.receive, checkErr, received, failed, BackendState.crash],
            .inr ⟨info, fatal⟩⟩
      · right
        obtain ⟨after, received⟩ := recvMessage_other state.vars info
        have ignored : state.receive msg none fault = { state with vars := after } := by
          simp [BackendState.receive, checkErr, received]
        refine ⟨by simp [BackendEvent.Fatal, info], ?_⟩
        rw [ignored]
        exact ⟨stores.alive, stores.ids, stores.updating⟩

theorem update_stores (documented : storm.Documented) (stores : state.Stores known)
    {call : UpdateCall} {p : RobotState} (updating : state.updating = some (call, p))
    (fault : Option FileError) :
    (state.update osHostname call p fault).crashed = true ∧ fault ≠ none ∨
      fault = none ∧ (state.update osHostname call p fault).Stores known := by
  have member := stores.updating call p updating
  have nonzero : p.id ≠ 0 := by
    intro zero
    rw [zero, ← stores.ids] at member
    exact documented.zero state.db member
  have updates : (updateRobot osHostname p call.id call.temperature).1.id = p.id := rfl
  cases fault with
  | some file =>
      left
      obtain ⟨err, refused⟩ := documented.save_refuses (some file) state.db
        (some (updateRobot osHostname p call.id call.temperature).1) (.inl (by simp))
      simp [BackendState.update, Storage.update, RobotsBackend.save, refused, Except.mapError,
        BackendState.crash]
  | none =>
      right
      obtain ⟨after, saved, changed⟩ := documented.save_stores state.db
        (updateRobot osHostname p call.id call.temperature).1 nonzero
      simp only [BackendState.update, Storage.update, RobotsBackend.save, saved, Except.mapError,
        true_and]
      refine ⟨stores.alive, fun id => ?_, fun _ _ idle => by cases idle⟩
      rw [ids_update changed, updates]
      split
      · next same => simp [same, member]
      · exact stores.ids id

theorem serve_stores (documented : storm.Documented) (stores : state.Stores known)
    (answers : Answers) (request : Request) :
    (state.serve answers request).crashed = true ∧ answers.settingsErr = true ∨
      answers.settingsErr = false ∧ (state.serve answers request).Stores
        (known ∪ {id | (BackendEvent.request answers request).saved = some id}) := by
  unfold BackendState.serve
  rcases @serve_cases storm state.db documented answers request with
    ⟨settings, ended⟩ | ⟨settings, db, progress, served, ids⟩
  · rw [ended]
    exact .inl ⟨rfl, settings⟩
  · rw [served]
    right
    cases progress with
    | inl reply => exact ⟨settings, stores.save ids _⟩
    | inr handler => exact ⟨settings, stores.save ids _⟩

theorem putField_stores (documented : storm.Documented) (stores : state.Stores known)
    (index : Nat) (handler : PutHandler) (fault : Option FileError) :
    (state.putField index handler fault).Stores known := by
  have ids (id : UInt64) := @mem_putField storm state.db fault id documented handler
  unfold BackendState.putField
  split
  · next db reply handled =>
      simp only [handled] at ids
      exact ⟨stores.alive, fun id => (ids id).trans (stores.ids id), stores.updating⟩
  · next db later handled =>
      simp only [handled] at ids
      exact ⟨stores.alive, fun id => (ids id).trans (stores.ids id), stores.updating⟩

/-- The inversion of a step: the process ends, or stores what the event saves. -/
theorem BackendState.Stores.step (documented : storm.Documented) {event : BackendEvent}
    (stores : state.Stores known) (stepped : state.step osHostname event = some next) :
    next.crashed = true ∧ event.Fatal known ∨
      ¬ event.Fatal known ∧ next.Stores (known ∪ {id | event.saved = some id}) := by
  unfold BackendState.step at stepped
  rw [if_neg (by simp [stores.alive])] at stepped
  cases event with
  | receive msg err fault =>
      simp only [Option.ite_none_left_eq_some, Option.some.injEq] at stepped
      obtain ⟨_, rfl⟩ := stepped
      rcases receive_stores documented stores msg err fault with ended | ⟨harmless, stores⟩
      · exact .inl ended
      · exact .inr ⟨harmless, stores.unsaved rfl⟩
  | update fault =>
      obtain ⟨⟨call, p⟩, updating, rfl⟩ := Option.map_eq_some_iff.mp stepped
      rcases @update_stores storm osHostname known state documented stores call p updating fault with
        ended | ⟨works, stores⟩
      · exact .inl ended
      · exact .inr ⟨absurd works, stores.unsaved rfl⟩
  | request answers req =>
      cases stepped
      rcases serve_stores documented stores answers req with ended | ⟨works, stores⟩
      · exact .inl ended
      · exact .inr ⟨by simp [BackendEvent.Fatal, works], stores⟩
  | putField index fault =>
      obtain ⟨handler, _, rfl⟩ := Option.map_eq_some_iff.mp stepped
      exact .inr ⟨id, (putField_stores documented stores index handler fault).unsaved rfl⟩

theorem mem_deleteAll (documented : storm.Documented) (faults : UInt64 → Option FileError)
    {robots : List RobotState} {db : storm.Db} {id : UInt64} :
    id ∈ storm.ids (robots.foldl
        (fun db p => (Storage.delete storm (faults p.id) db p.id).toOption.getD db) db) ↔
      id ∈ storm.ids db ∧ ((∃ p ∈ robots, p.id = id) → id = 1 ∨ faults id ≠ none) := by
  induction robots generalizing db with
  | nil => simp
  | cons p rest ih =>
      rw [List.foldl_cons, ih, Storage.mem_delete documented, and_assoc]
      refine and_congr_right fun _ => ?_
      by_cases same : p.id = id
      · subst same
        simp only [List.mem_cons, exists_eq_or_imp, true_or, true_implies, ne_eq,
          not_true_eq_false, false_or]
        exact ⟨And.left, fun left => ⟨left, fun _ => left⟩⟩
      · have other : id ≠ p.id := fun equal => same equal.symm
        simp [same, other]

/-- What `InitRobots` leaves in the database. -/
theorem initRobots_stores (documented : storm.Documented) (faults : InitFaults)
    (osHostname id : List Char) (db : storm.Db) :
    (BackendState.start (initRobots storm faults osHostname id db)).Stores
      (startIds storm faults id db) where
  alive := rfl
  ids other := by
    have saved : saveId (some (initialRobot osHostname id)) = some other ↔
        parseUint id ≠ 0 ∧ other = parseUint id := by
      by_cases zero : parseUint id = 0
      · simp [saveId, initialRobot, zero]
      · simp [saveId, initialRobot, zero, eq_comm]
    have left : other ∈ storm.ids (((Storage.gets storm faults.gets db).toOption.getD []).foldl
        (fun db p => (Storage.delete storm (faults.delete p.id) db p.id).toOption.getD db) db) ↔
          other ∈ storm.ids db ∧
            (faults.gets ≠ none ∨ other = 1 ∨ faults.delete other ≠ none) := by
      rw [mem_deleteAll documented]
      refine and_congr_right fun stored => ?_
      rcases @Storage.gets_returns storm db faults.gets documented with
        ⟨listed, got, works, members⟩ | ⟨err, failed, fault⟩
      · have here : ∃ p ∈ listed, p.id = other := by
          obtain ⟨p, found⟩ := Option.isSome_iff_exists.mp (Storm.mem_ids.mp stored)
          have same := documented.keyed db other p found
          exact ⟨p, (members p).mpr (by rw [same]; exact found), same⟩
        rw [got]
        simp [Except.toOption, here, works]
      · simp [failed, Except.toOption, fault]
    rw [BackendState.start, initRobots, Storage.mem_save documented, saved, left]
    rfl
  updating _ _ updating := by cases updating

end

section

variable {storm : Storm} {osHostname : List Char} {known : Set UInt64}
  {state final : BackendState storm} {events : List BackendEvent}

theorem savedIds_cons (event : BackendEvent) (rest : List BackendEvent) :
    {id | event.saved = some id} ∪ savedIds rest = savedIds (event :: rest) := by
  ext id
  cases saved : event.saved <;> simp [savedIds, saved, eq_comm]

theorem run_stores (documented : storm.Documented) (stores : state.Stores known)
    (ran : run (BackendState.step osHostname) state events = some final) :
    (final.crashed = true ∧ ∃ before event, events = before ++ [event] ∧
        event.Fatal (known ∪ savedIds before)) ∨
      final.Stores (known ∪ savedIds events) ∧
        ∀ before event after, events = before ++ event :: after →
          ¬ event.Fatal (known ∪ savedIds before) := by
  have nothing (known : Set UInt64) : known ∪ savedIds [] = known := by
    simp [savedIds]
  induction events generalizing state known with
  | nil =>
      cases ran
      rw [nothing]
      exact .inr ⟨stores, by simp⟩
  | cons event rest ih =>
      obtain ⟨next, stepped, later⟩ := Option.bind_eq_some_iff.mp ran
      rcases stores.step documented stepped with ⟨crashed, fatal⟩ | ⟨harmless, storesNext⟩
      · -- Nothing comes after the crash.
        left
        cases rest with
        | nil =>
            cases later
            exact ⟨crashed, [], event, rfl, by rwa [nothing]⟩
        | cons other rest =>
            obtain ⟨_, impossible, _⟩ := Option.bind_eq_some_iff.mp later
            simp [BackendState.step, crashed] at impossible
      · have saves (before : List BackendEvent) :
            known ∪ {id | event.saved = some id} ∪ savedIds before =
              known ∪ savedIds (event :: before) := by
          rw [Set.union_assoc, savedIds_cons]
        rcases ih storesNext later with ⟨crashed, before, last, rfl, fatal⟩ | ⟨stores, alive⟩
        · left
          rw [saves] at fatal
          exact ⟨crashed, event :: before, last, rfl, fatal⟩
        · right
          rw [saves] at stores
          refine ⟨stores, ?_⟩
          intro before last after same
          cases before with
          | nil =>
              cases same
              rwa [nothing]
          | cons first before =>
              obtain ⟨rfl, tail⟩ := List.cons.inj same
              rw [← saves]
              exact alive before last after tail

/-- The backend ends with the first message about a robot that was neither there at the
start nor stored by a request since, with an error that is reported while a message is
handled, or with a request for which the settings cannot be read, and never else. -/
theorem crashes_iff (documented : storm.Documented) (faults : InitFaults) (id : List Char)
    (db : storm.Db)
    (ran : run (BackendState.step osHostname)
      (.start (initRobots storm faults osHostname id db)) events = some final) :
    final.crashed = true ↔ ∃ before event, events = before ++ [event] ∧
      event.Fatal (startIds storm faults id db ∪ savedIds before) := by
  rcases run_stores documented (initRobots_stores documented faults osHostname id db) ran with
    ⟨crashed, last⟩ | ⟨stores, harmless⟩
  · exact ⟨fun _ => last, fun _ => crashed⟩
  · constructor
    · intro crashed
      rw [stores.alive] at crashed
      cases crashed
    · rintro ⟨before, event, rfl, fatal⟩
      exact absurd fatal (harmless before event [] rfl)

def infoMessage (id : UInt32) : Memory :=
  Memory.storeUInt32 RobotMessage.infoIdOffset id
    (Memory.storeUInt32 RobotMessage.idOffset Message.messageIdInfo fun _ => 0)

def postedRobot : List Char :=
  render (.object [("what".toList, .string "robot".toList),
    ("data".toList, .object [("id".toList, natural 5)])])

def noRobots : bucketStorm.Db :=
  ⟨{ ids := [], db := { robot := fun _ => none, keyed := by simp }, complete := by simp }, rfl⟩

def noFaults : InitFaults where
  gets := none
  delete _ := none
  save := none

def working : Answers := ⟨false, false, none⟩

def sampleBackendEvents : List BackendEvent :=
  [.receive (infoMessage 12341234) none none, .request working (.postRobot postedRobot),
    .update none, .request working (.deleteRobot 12341234),
    .request working (.putRobot 5 postedRobot), .request working (.getRobot 12341234),
    .request working (.haltMotor 12341234 []), .receive (infoMessage 12341234) none none,
    .update none]

theorem sampleBackendEvents_crash :
    ∃ final, run (BackendState.step "toy".toList)
        (.start (initRobots bucketStorm noFaults "toy".toList "12341234".toList noRobots))
        (sampleBackendEvents ++ [.receive (infoMessage 6) none none]) = some final ∧
      final.crashed = true := by
  have ran : (run (BackendState.step "toy".toList)
      (.start (initRobots bucketStorm noFaults "toy".toList "12341234".toList noRobots))
      (sampleBackendEvents ++ [.receive (infoMessage 6) none none])).isSome = true := by
    decide +kernel
  obtain ⟨final, isFinal⟩ := Option.isSome_iff_exists.mp ran
  have saved : sampleBackendEvents.filterMap BackendEvent.saved = [5, 5] := by decide +kernel
  have unknown : (6 : UInt64) ∉
      startIds bucketStorm noFaults "12341234".toList noRobots ∪ savedIds sampleBackendEvents := by
    have parsed : parseUint "12341234".toList = 12341234 := by decide +kernel
    rintro ((⟨stored, _⟩ | ⟨_, _, same⟩) | later)
    · cases stored
    · rw [parsed] at same
      cases same
    · change 6 ∈ sampleBackendEvents.filterMap BackendEvent.saved at later
      rw [saved] at later
      simp at later
  have named : (RobotMessage.infoId (infoMessage 6)).toUInt64 = 6 := by decide +kernel
  exact ⟨final, isFinal, (crashes_iff bucketStorm_documented noFaults _ noRobots isFinal).mpr
    ⟨_, _, rfl, .inr ⟨by decide +kernel, .inr (named ▸ unknown)⟩⟩⟩

/-- The id that `web_server` gives the backend. -/
def deviceId : List Char := "12341234".toList

/-- The id in the messages of `monitor_thread` and `toy_send_to_be`. -/
def robotId : UInt32 := 12341234

/-- No error is reported that ends the process, and the messages with information are the
robot's. -/
def BackendEvent.Ordinary : BackendEvent → Prop
  | .receive msg err fault => err = none ∧ fault = none ∧
      (RobotMessage.id msg = Message.messageIdInfo → RobotMessage.infoId msg = robotId)
  | .update fault => fault = none
  | .request answers _ => answers.settingsErr = false
  | .putField _ _ => True

/-- No request makes a backend fail that could save its robot at the start, or takes the
robot away from it. -/
theorem started_backend_survives (documented : storm.Documented) (faults : InitFaults)
    (saved : faults.save = none) (db : storm.Db)
    (ran : run (BackendState.step osHostname)
      (.start (initRobots storm faults osHostname deviceId db)) events = some final)
    (ordinary : ∀ event ∈ events, event.Ordinary) :
    final.crashed = false ∧ robotId.toUInt64 ∈ storm.ids final.db := by
  have present : robotId.toUInt64 ∈ startIds storm faults deviceId db := by
    have parsed : parseUint deviceId = robotId.toUInt64 := by decide +kernel
    have nonzero : robotId.toUInt64 ≠ 0 := by decide
    exact .inr ⟨saved, by rwa [parsed], parsed.symm⟩
  rcases run_stores documented (initRobots_stores documented faults osHostname _ db) ran with
    ⟨_, before, event, rfl, fatal⟩ | ⟨stores, _⟩
  · have works := ordinary event (by simp)
    cases event with
    | receive msg err fault =>
        obtain ⟨received, got, own⟩ := works
        rcases fatal with failed | ⟨info, failed | unknown⟩
        · exact absurd received failed
        · exact absurd got failed
        · rw [own info] at unknown
          exact absurd (.inl present) unknown
    | update fault => exact absurd works fatal
    | request answers req => exact absurd (works.symm.trans fatal) Bool.false_ne_true
    | putField index fault => exact fatal.elim
  · exact ⟨stores.alive, (stores.ids _).mpr (.inl present)⟩

theorem sampleBackendEvents_survive :
    ∃ final, run (BackendState.step "toy".toList)
        (.start (initRobots bucketStorm noFaults "toy".toList deviceId noRobots))
        sampleBackendEvents = some final ∧
      final.crashed = false ∧ robotId.toUInt64 ∈ bucketStorm.ids final.db := by
  have ran : (run (BackendState.step "toy".toList)
      (.start (initRobots bucketStorm noFaults "toy".toList deviceId noRobots))
      sampleBackendEvents).isSome = true := by
    decide +kernel
  obtain ⟨final, isFinal⟩ := Option.isSome_iff_exists.mp ran
  have own : RobotMessage.infoId (infoMessage 12341234) = robotId := by decide +kernel
  have ordinary : ∀ event ∈ sampleBackendEvents, event.Ordinary := by
    simp only [sampleBackendEvents, List.forall_mem_cons]
    exact ⟨⟨rfl, rfl, fun _ => own⟩, rfl, rfl, rfl, rfl, rfl, rfl, ⟨rfl, rfl, fun _ => own⟩, rfl,
      by simp⟩
  exact ⟨final, isFinal,
    started_backend_survives bucketStorm_documented noFaults rfl noRobots isFinal ordinary⟩

end

end ToySystem.Web
