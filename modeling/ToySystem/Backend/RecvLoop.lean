import ToySystem.Backend.Robots
import ToySystem.Data.Run

namespace ToySystem.Backend

open ToySystem.Data

/-! # The receiving loop of the backend

`RecvMessageQ` and `UpdateRobot` of `toy-be/pkg/robots/robots.go` with `checkErr`
of `broadcast.go` over the storage of `storage.go`.  A dereference of nil ends the
process, and so the run.
-/

inductive GoError where
  | receive
  | notExist
  | emptyRobotname
  | backend
deriving DecidableEq, Repr

/-- `errLog` is declared and never assigned: logging through it dereferences nil. -/
def checkErr : Option GoError → Option Unit
  | none => some ()
  | some _ => none

/-- The database; a robot is stored under its id. -/
structure Database where
  robot : UInt64 → Option RobotState
  keyed : ∀ id p, robot id = some p → p.id = id

def Database.save (db : Database) (p : RobotState) : Database where
  robot id := if id = p.id then some p else db.robot id
  keyed := by
    intro id q stored
    split at stored
    · next same => cases stored; exact same.symm
    · exact db.keyed id q stored

theorem Database.save_isSome {db : Database} {p : RobotState}
    (present : (db.robot p.id).isSome = true) (id : UInt64) :
    ((db.save p).robot id).isSome = (db.robot id).isSome := by
  unfold save
  dsimp only
  split
  · next same => rw [same, present]; rfl
  · rfl

def checkableFields : List String := ["Name", "Name"]

def RobotState.clean (p : RobotState) (fields : List String) : Option GoError :=
  let fields := if fields.isEmpty then checkableFields else fields
  if "ID" ∈ fields ∧ p.hostName = [] then some .emptyRobotname else none

/-- No field that the loop has checked is one that `Clean` knows. -/
theorem RobotState.clean_nil (p : RobotState) : p.clean [] = none := by
  simp [clean, checkableFields]

/-- `Storage.Get`, the robot and the error; `failure` is what the database reports. -/
def storageGet (db : Database) (failure : Option GoError) (id : UInt64) :
    Option RobotState × Option GoError :=
  match failure with
  | some err => (none, some err)
  | none =>
      match db.robot id with
      | none => (none, some .notExist)
      | some p =>
          match p.clean [] with
          | some err => (none, some err)
          | none => (some p, none)

def storageUpdate (db : Database) (failure : Option GoError) (p : RobotState) :
    Database × Option GoError :=
  match p.clean [] with
  | some err => (db, some err)
  | none =>
      match failure with
      | some err => (db, some err)
      | none => (db.save p, none)

/-- What one round meets: the result of `mq.Receive`, and what the database reports
if it is asked for a robot or to save one. -/
structure Round where
  rcv : List UInt8
  err : Option GoError
  getFailure : Option GoError
  updateFailure : Option GoError

structure UpdateCall where
  id : UInt64
  hostname : List UInt8
  temperature : List Char
deriving DecidableEq

def RobotInfo.call (robot : RobotInfo) : UpdateCall where
  id := robot.id.toUInt64
  hostname := robot.hostname.val
  temperature := sprint robot.temperature

structure RecvLoop where
  vars : RecvVars
  db : Database
  calls : List UpdateCall
  broadcasts : List BroadcastRobotState

/-- `UpdateRobot`: `p` is nil where `s.Get` reports an error. -/
def updateRobotInStore (osHostname : List Char) (round : Round) (call : UpdateCall)
    (db : Database) : Option (Database × BroadcastRobotState) :=
  let (p, err) := storageGet db round.getFailure call.id
  (checkErr err).bind fun _ =>
    p.bind fun p =>
      let (p, state) := updateRobot osHostname p call.id call.temperature
      let (db, err) := storageUpdate db round.updateFailure p
      (checkErr err).map fun _ => (db, state)

def recvRound (osHostname : List Char) (loop : RecvLoop) (round : Round) : Option RecvLoop :=
  (checkErr round.err).bind fun _ =>
    match recvMessage round.rcv loop.vars with
    | (vars, none) => some { loop with vars }
    | (vars, some robot) =>
        (updateRobotInStore osHostname round robot.call loop.db).map fun (db, state) =>
          { vars, db, calls := loop.calls ++ [robot.call], broadcasts := loop.broadcasts ++ [state] }

def RecvLoop.start (db : Database) : RecvLoop where
  vars := {
    msg := { cmd := 0, data := zeroBlock messageDataLen }
    robot := { id := 0, hostname := zeroBlock hostnameLen, temperature := 0 } }
  db := db
  calls := []
  broadcasts := []

/-- The information in a message that is as long as `Sysmsg` and an INFO. -/
def Round.info (round : Round) : Option RobotInfo :=
  if round.err = none then
    (readSysmsg round.rcv).bind fun msg =>
      if msg.cmd = messageIdInfo then readRobotInfo msg.data.val else none
  else none

def Round.call (round : Round) : Option UpdateCall := round.info.map RobotInfo.call

/-- Receive or the storage reports an error. -/
def Round.Fails (db : Database) (round : Round) : Prop :=
  round.err ≠ none ∨ ∃ robot, round.info = some robot ∧
    (db.robot robot.id.toUInt64 = none ∨ round.getFailure ≠ none ∨ round.updateFailure ≠ none)

/-- The loop survives, the calls are those for the messages, and a failed round
leaves the database as it was. -/
def AppliesOnce (osHostname : List Char) (db : Database) (rounds : List Round) : Prop :=
  ∃ final, run (recvRound osHostname) (.start db) rounds = some final ∧
    final.calls = rounds.filterMap Round.call ∧
    ∀ transition ∈ path (recvRound osHostname) (.start db) rounds,
      transition.event.Fails transition.before.db → transition.after.db = transition.before.db

/-- Rounds without an error, in which no short message comes after an INFO; `cmd`
is the command of the last message that was long enough. -/
def Orderly (db : Database) : UInt32 → List Round → Prop
  | _, [] => True
  | cmd, round :: rounds =>
      ¬ round.Fails db ∧
        match readSysmsg round.rcv with
        | none => cmd ≠ messageIdInfo ∧ Orderly db cmd rounds
        | some msg => Orderly db msg.cmd rounds

def SameRobots (one other : Database) : Prop :=
  ∀ id, (one.robot id).isSome = (other.robot id).isSome

theorem SameRobots.eq_none_iff {one other : Database} (same : SameRobots one other) (id : UInt64) :
    one.robot id = none ↔ other.robot id = none := by
  rw [← Option.not_isSome_iff_eq_none, ← Option.not_isSome_iff_eq_none, same id]

section

variable {osHostname : List Char} {round : Round} {call : UpdateCall} {db : Database}

theorem updateRobotInStore_cases {result : Database × BroadcastRobotState}
    (updated : updateRobotInStore osHostname round call db = some result) :
    (db.robot call.id ≠ none ∧ round.getFailure = none ∧ round.updateFailure = none) ∧
      SameRobots result.1 db := by
  cases asked : round.getFailure with
  | some err => simp [updateRobotInStore, storageGet, asked, checkErr] at updated
  | none =>
      cases found : db.robot call.id with
      | none => simp [updateRobotInStore, storageGet, asked, found, checkErr] at updated
      | some p =>
          cases saved : round.updateFailure with
          | some err =>
              simp [updateRobotInStore, storageGet, storageUpdate, asked, found, saved, checkErr,
                RobotState.clean_nil] at updated
          | none =>
              have stored : db.robot p.id ≠ none := by
                rw [db.keyed call.id p found, found]
                exact Option.some_ne_none p
              simp only [updateRobotInStore, storageGet, storageUpdate, asked, found, saved,
                checkErr, RobotState.clean_nil, updateRobot, Option.bind_some, Option.map_some,
                Option.some.injEq] at updated
              subst result
              exact ⟨⟨Option.some_ne_none p, rfl, rfl⟩,
                Database.save_isSome (Option.isSome_iff_ne_none.mpr stored)⟩

theorem updateRobotInStore_total (osHostname : List Char) (present : db.robot call.id ≠ none)
    (asked : round.getFailure = none) (saved : round.updateFailure = none) :
    ∃ result, updateRobotInStore osHostname round call db = some result := by
  obtain ⟨p, found⟩ := Option.ne_none_iff_exists'.mp present
  simp [updateRobotInStore, storageGet, storageUpdate, asked, found, saved, checkErr,
    RobotState.clean_nil]

end

theorem readRobotInfo_block (data : Block messageDataLen) :
    ∃ robot, readRobotInfo data.val = some robot := by
  have enough : 4 + hostnameLen + 4 ≤ data.val.length := by
    rw [data.property]
    decide
  rw [readRobotInfo, dif_pos enough]
  exact ⟨_, rfl⟩

/-- The message that a round dispatches: `msg` is the one before. -/
def Round.dispatched (round : Round) (msg : Sysmsg) : Sysmsg :=
  (readSysmsg round.rcv).getD msg

theorem recvMessage_eq (round : Round) (vars : RecvVars) :
    recvMessage round.rcv vars =
      if (round.dispatched vars.msg).cmd = messageIdInfo then
        match readRobotInfo (round.dispatched vars.msg).data.val with
        | none => ({ vars with msg := round.dispatched vars.msg }, none)
        | some robot => (⟨round.dispatched vars.msg, robot⟩, some robot)
      else ({ vars with msg := round.dispatched vars.msg }, none) := by
  unfold recvMessage Round.dispatched
  cases readSysmsg round.rcv with
  | none => rfl
  | some msg => rfl

/-- A round that dispatches an INFO, whether it has just been received or not. -/
structure Updates (db : Database) (round : Round) (msg : Sysmsg) (call : UpdateCall) :
    Prop where
  isInfo : (round.dispatched msg).cmd = messageIdInfo
  isCall : (readRobotInfo (round.dispatched msg).data.val).map RobotInfo.call = some call
  present : db.robot call.id ≠ none
  asked : round.getFailure = none
  saved : round.updateFailure = none

section

variable {osHostname : List Char} {loop next : RecvLoop} {round : Round}

theorem recvRound_cases (stepped : recvRound osHostname loop round = some next) :
    round.err = none ∧ next.vars.msg = round.dispatched loop.vars.msg ∧
      SameRobots next.db loop.db ∧
      ((∃ call, Updates loop.db round loop.vars.msg call ∧ next.calls = loop.calls ++ [call]) ∨
        (round.dispatched loop.vars.msg).cmd ≠ messageIdInfo ∧ next.calls = loop.calls) := by
  cases received : round.err with
  | some err => simp [recvRound, received, checkErr] at stepped
  | none =>
      simp only [recvRound, received, checkErr, Option.bind_some, recvMessage_eq] at stepped
      by_cases isInfo : (round.dispatched loop.vars.msg).cmd = messageIdInfo
      · obtain ⟨robot, read⟩ := readRobotInfo_block (round.dispatched loop.vars.msg).data
        simp only [if_pos isInfo, read, Option.map_eq_some_iff] at stepped
        obtain ⟨result, updated, rfl⟩ := stepped
        obtain ⟨⟨present, asked, saved⟩, same⟩ := updateRobotInStore_cases updated
        exact ⟨rfl, rfl, same, .inl ⟨robot.call, ⟨isInfo, by rw [read]; rfl, present, asked, saved⟩,
          rfl⟩⟩
      · simp only [if_neg isInfo, Option.some.injEq] at stepped
        subst next
        exact ⟨rfl, rfl, fun _ => rfl, .inr ⟨isInfo, rfl⟩⟩

theorem recvRound_update (osHostname : List Char) {call : UpdateCall} (received : round.err = none)
    (updates : Updates loop.db round loop.vars.msg call) :
    ∃ next, recvRound osHostname loop round = some next ∧ next.calls = loop.calls ++ [call] := by
  obtain ⟨robot, read, isCall⟩ := Option.map_eq_some_iff.mp updates.isCall
  subst call
  obtain ⟨result, updated⟩ :=
    updateRobotInStore_total osHostname updates.present updates.asked updates.saved
  refine ⟨⟨⟨round.dispatched loop.vars.msg, robot⟩, result.1, loop.calls ++ [robot.call],
    loop.broadcasts ++ [result.2]⟩, ?_, rfl⟩
  simp only [recvRound, received, checkErr, Option.bind_some, recvMessage_eq,
    if_pos updates.isInfo, read, updated, Option.map_some]

theorem recvRound_skip (osHostname : List Char) (received : round.err = none)
    (other : (round.dispatched loop.vars.msg).cmd ≠ messageIdInfo) :
    ∃ next, recvRound osHostname loop round = some next ∧ next.calls = loop.calls := by
  refine ⟨{ loop with vars := { loop.vars with msg := round.dispatched loop.vars.msg } }, ?_, rfl⟩
  simp only [recvRound, received, checkErr, Option.bind_some, recvMessage_eq, if_neg other]

end

section

variable {round : Round} {db : Database} {msg : Sysmsg}

theorem call_eq_none_of_short (short : readSysmsg round.rcv = none) : round.call = none := by
  simp [Round.call, Round.info, short]

theorem call_eq_none_of_other (decoded : readSysmsg round.rcv = some msg)
    (other : msg.cmd ≠ messageIdInfo) : round.call = none := by
  simp [Round.call, Round.info, decoded, other]

theorem call_eq_of_info (received : round.err = none) (decoded : readSysmsg round.rcv = some msg)
    (isInfo : msg.cmd = messageIdInfo) :
    round.call = (readRobotInfo msg.data.val).map RobotInfo.call := by
  simp [Round.call, Round.info, received, decoded, isInfo]

theorem not_fails_of_call_eq_none (received : round.err = none) (none : round.call = none) :
    ¬ round.Fails db := by
  intro fails
  rcases fails with failed | ⟨robot, isInfo, _⟩
  · exact failed received
  · simp [Round.call, isInfo] at none

theorem not_fails_iff {call : UpdateCall} (received : round.err = none)
    (isCall : round.call = some call) : ¬ round.Fails db ↔
      db.robot call.id ≠ none ∧ round.getFailure = none ∧ round.updateFailure = none := by
  obtain ⟨robot, isInfo, rfl⟩ := Option.map_eq_some_iff.mp isCall
  simp [Round.Fails, received, isInfo, RobotInfo.call]

theorem dispatched_of_complete (decoded : readSysmsg round.rcv = some msg) (before : Sysmsg) :
    round.dispatched before = msg := by
  rw [Round.dispatched, decoded, Option.getD_some]

theorem dispatched_of_short (short : readSysmsg round.rcv = none) (before : Sysmsg) :
    round.dispatched before = before := by
  rw [Round.dispatched, short, Option.getD_none]

end

section

variable {osHostname : List Char} {loop next final : RecvLoop} {round : Round}
  {rounds : List Round} {db : Database}

theorem recvRound_length (stepped : recvRound osHostname loop round = some next) :
    loop.calls.length + round.call.toList.length ≤ next.calls.length := by
  obtain ⟨received, _, _, doing⟩ := recvRound_cases stepped
  rcases doing with ⟨call, _, calls⟩ | ⟨other, calls⟩
  · have single : round.call.toList.length ≤ 1 := by cases round.call <;> simp
    rw [calls, List.length_append, List.length_singleton]
    omega
  · have none : round.call = none := by
      cases decoded : readSysmsg round.rcv with
      | none => exact call_eq_none_of_short decoded
      | some msg =>
          rw [dispatched_of_complete decoded] at other
          exact call_eq_none_of_other decoded other
    simp [none, calls]

theorem filterMap_call_cons :
    (round :: rounds).filterMap Round.call = round.call.toList ++ rounds.filterMap Round.call := by
  cases isCall : round.call with
  | none => simp [isCall]
  | some call => simp [isCall]

/-- No message is passed over. -/
theorem run_length (ran : run (recvRound osHostname) loop rounds = some final) :
    loop.calls.length + (rounds.filterMap Round.call).length ≤ final.calls.length := by
  induction rounds generalizing loop with
  | nil =>
      cases ran
      simp
  | cons round rounds ih =>
      cases stepped : recvRound osHostname loop round with
      | none => simp [run, stepped] at ran
      | some next =>
          rw [run_cons stepped] at ran
          have here := recvRound_length stepped
          have later := ih ran
          rw [filterMap_call_cons, List.length_append]
          omega

theorem orderly_of_run (loop : RecvLoop) (same : SameRobots loop.db db)
    (ran : run (recvRound osHostname) loop rounds = some final)
    (calls : final.calls = loop.calls ++ rounds.filterMap Round.call) :
    Orderly db loop.vars.msg.cmd rounds := by
  induction rounds generalizing loop with
  | nil => trivial
  | cons round rounds ih =>
      cases stepped : recvRound osHostname loop round with
      | none => simp [run, stepped] at ran
      | some next =>
          rw [run_cons stepped] at ran
          rw [filterMap_call_cons, ← List.append_assoc] at calls
          obtain ⟨received, msg, sameNext, doing⟩ := recvRound_cases stepped
          -- What this round calls cannot be made up for later.
          have grown := congrArg List.length calls
          have later := run_length ran
          simp only [List.length_append] at grown
          have follow : next.calls = loop.calls ++ round.call.toList →
              Orderly db (round.dispatched loop.vars.msg).cmd rounds := by
            intro called
            rw [← called] at calls
            have rest := ih next (fun id => (sameNext id).trans (same id)) ran calls
            rw [msg] at rest
            exact rest
          unfold Orderly
          cases decoded : readSysmsg round.rcv with
          | none =>
              have noCall := call_eq_none_of_short decoded
              rw [dispatched_of_short decoded] at doing follow
              rw [noCall] at grown follow
              rcases doing with ⟨call, _, called⟩ | ⟨other, called⟩
              · rw [called] at later
                simp only [Option.toList_none, List.length_nil, List.length_append,
                  List.length_singleton] at grown later
                omega
              · have rest := follow (called.trans (List.append_nil _).symm)
                exact ⟨not_fails_of_call_eq_none received noCall, other, rest⟩
          | some message =>
              rw [dispatched_of_complete decoded] at doing follow
              rcases doing with ⟨call, updates, called⟩ | ⟨other, called⟩
              · have isInfo := updates.isInfo
                have isCall := updates.isCall
                rw [dispatched_of_complete decoded] at isInfo isCall
                rw [← call_eq_of_info received decoded isInfo] at isCall
                rw [isCall] at follow
                have present := mt (same.eq_none_iff call.id).mpr updates.present
                exact ⟨(not_fails_iff received isCall).mpr ⟨present, updates.asked, updates.saved⟩,
                  follow called⟩
              · have noCall := call_eq_none_of_other decoded other
                rw [noCall] at follow
                have rest := follow (called.trans (List.append_nil _).symm)
                exact ⟨not_fails_of_call_eq_none received noCall, rest⟩

theorem run_of_orderly (loop : RecvLoop) (same : SameRobots loop.db db)
    (orderly : Orderly db loop.vars.msg.cmd rounds) :
    ∃ final, run (recvRound osHostname) loop rounds = some final ∧
      final.calls = loop.calls ++ rounds.filterMap Round.call := by
  induction rounds generalizing loop with
  | nil => exact ⟨loop, rfl, (List.append_nil _).symm⟩
  | cons round rounds ih =>
      obtain ⟨works, orderly⟩ := orderly
      have received : round.err = none := by
        by_contra failed
        exact works (.inl failed)
      -- The round is followed by one that starts from the message it dispatched.
      have follow : ∀ next, recvRound osHostname loop round = some next →
          next.calls = loop.calls ++ round.call.toList →
          Orderly db (round.dispatched loop.vars.msg).cmd rounds →
          ∃ final, run (recvRound osHostname) loop (round :: rounds) = some final ∧
            final.calls = loop.calls ++ (round :: rounds).filterMap Round.call := by
        intro next stepped called rest
        obtain ⟨_, msg, sameNext, _⟩ := recvRound_cases stepped
        rw [← msg] at rest
        obtain ⟨final, ran, calls⟩ := ih next (fun id => (sameNext id).trans (same id)) rest
        refine ⟨final, by rw [run_cons stepped, ran], ?_⟩
        rw [calls, called, filterMap_call_cons, List.append_assoc]
      cases decoded : readSysmsg round.rcv with
      | none =>
          rw [decoded] at orderly
          have skipped := dispatched_of_short decoded loop.vars.msg
          have noCall := call_eq_none_of_short decoded
          rw [← skipped] at orderly
          obtain ⟨next, stepped, called⟩ :=
            recvRound_skip osHostname received orderly.1
          exact follow next stepped (by simp [called, noCall]) orderly.2
      | some message =>
          rw [decoded] at orderly
          have complete := dispatched_of_complete decoded loop.vars.msg
          rw [← complete] at orderly
          by_cases isInfo : message.cmd = messageIdInfo
          · obtain ⟨robot, read⟩ := readRobotInfo_block message.data
            have isCall : round.call = some robot.call := by
              rw [call_eq_of_info received decoded isInfo, read]
              rfl
            obtain ⟨present, asked, saved⟩ := (not_fails_iff received isCall).mp works
            have updates : Updates loop.db round loop.vars.msg robot.call :=
              ⟨by rw [complete, isInfo], by rw [complete, read]; rfl,
                mt (same.eq_none_iff robot.call.id).mp present, asked, saved⟩
            obtain ⟨next, stepped, called⟩ := recvRound_update osHostname received updates
            exact follow next stepped (by simp [called, isCall]) orderly
          · have noCall := call_eq_none_of_other decoded isInfo
            rw [← complete] at isInfo
            obtain ⟨next, stepped, called⟩ := recvRound_skip osHostname received isInfo
            exact follow next stepped (by simp [called, noCall]) orderly

theorem Orderly.works {cmd : UInt32} (orderly : Orderly db cmd rounds) :
    ∀ round ∈ rounds, ¬ round.Fails db := by
  induction rounds generalizing cmd with
  | nil => simp
  | cons first rounds ih =>
      rw [List.forall_mem_cons]
      obtain ⟨works, orderly⟩ := orderly
      refine ⟨works, ?_⟩
      cases decoded : readSysmsg first.rcv with
      | none =>
          rw [decoded] at orderly
          exact ih orderly.2
      | some message =>
          rw [decoded] at orderly
          exact ih orderly

end

theorem SameRobots.fails_iff {one other : Database} (same : SameRobots one other) (round : Round) :
    round.Fails one ↔ round.Fails other := by
  unfold Round.Fails
  simp only [same.eq_none_iff]

/-- The robots that are stored stay the same. -/
theorem path_sameRobots (osHostname : List Char) (db : Database) (rounds : List Round) :
    ∀ transition ∈ path (recvRound osHostname) (.start db) rounds,
      SameRobots transition.before.db db := by
  have stays : ∀ before event after, SameRobots before.db db →
      recvRound osHostname before event = some after → SameRobots after.db db := by
    intro before event after same stepped
    obtain ⟨_, _, sameNext, _⟩ := recvRound_cases stepped
    exact fun id => (sameNext id).trans (same id)
  have initial : SameRobots (RecvLoop.start db).db db := fun _ => rfl
  exact @before_always _ _ _ (fun loop : RecvLoop => SameRobots loop.db db) _ _ initial stays

theorem appliesOnce_iff (osHostname : List Char) (db : Database) (rounds : List Round) :
    AppliesOnce osHostname db rounds ↔ Orderly db 0 rounds := by
  have same : SameRobots (RecvLoop.start db).db db := fun _ => rfl
  constructor
  · rintro ⟨final, ran, calls, _⟩
    exact orderly_of_run (.start db) same ran calls
  · intro orderly
    obtain ⟨final, ran, calls⟩ := run_of_orderly (.start db) same orderly
    refine ⟨final, ran, calls, ?_⟩
    intro transition member fails
    have works := orderly.works transition.event (event_mem_of_mem_path member)
    rw [(path_sameRobots osHostname db rounds transition member).fails_iff] at fails
    exact absurd fails works

/-- A receive that is interrupted. -/
def interrupted : Round where
  rcv := []
  err := some .receive
  getFailure := none
  updateFailure := none

theorem not_appliesOnce_interrupted :
    ¬ ∀ (osHostname : List Char) (db : Database) (rounds : List Round),
      AppliesOnce osHostname db rounds := by
  intro all
  have empty : Database := ⟨fun _ => none, fun _ _ stored => by cases stored⟩
  obtain ⟨final, ran, _⟩ := all [] empty [interrupted]
  cases ran

end ToySystem.Backend
