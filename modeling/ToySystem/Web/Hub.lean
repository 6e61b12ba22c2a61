import ToySystem.Data.Feed
import ToySystem.Web.Wire

namespace ToySystem.Web

open ToySystem.Data ToySystem.Backend

/-! # The hub of the web sockets

`hub.go`, `client.go` and `websocket.go` of `toy-be/pkg/robots` with `BroadcastRobot`.
The channels have no buffer: a goroutine waits at one until the hub takes what it sends,
and the hub takes something only between two turns of its loop.
-/

/-- A connection, for the `Client` that was allocated for it. -/
abbrev ClientId := Nat

/-- How far `Router.ServeHTTP` and `Client.Read` have come. -/
inductive Stage where
  | absent
  | registering
  | reading
  | unregistering
  | closed
deriving DecidableEq, Repr

structure Connection where
  stage : Stage
  /-- What was written to the socket. -/
  sent : List (List Char)
  /-- After a failed write the socket fails all others. -/
  broken : Bool

structure Writing where
  message : List Char
  t : BroadcastRobotState
  /-- The clients that are still to be written to, in the order of the map. -/
  rest : List ClientId

structure Hub where
  conns : ClientId → Connection
  clients : List ClientId
  writing : Option Writing
  /-- What `BroadcastRobotStateMessage` waits with. -/
  sending : Option (List Char)

inductive HubEvent where
  | connect (c : ClientId)
  | register (c : ClientId)
  /-- A message from the page. -/
  | message (c : ClientId)
  | readError (c : ClientId)
  | unregister (c : ClientId)
  | broadcastRobot (state : BroadcastRobotState)
  /-- The hub takes the message; the order is that of `range h.clients`. -/
  | take (order : List ClientId)
  | write (failed : Bool)

def Hub.start : Hub where
  conns _ := { stage := .absent, sent := [], broken := false }
  clients := []
  writing := none
  sending := none

def Hub.setStage (hub : Hub) (c : ClientId) (stage : Stage) : Hub :=
  { hub with conns := Function.update hub.conns c { hub.conns c with stage } }

def Connection.write (conn : Connection) (failed : Bool) (text : List Char) : Connection :=
  if failed ∨ conn.broken then { conn with broken := true }
  else { conn with sent := conn.sent ++ [text] }

/-- The variable `t` before the loop over the clients. -/
def zeroState : BroadcastRobotState := { robotId := 0, hostname := [], temperature := [] }

/-- The loop over the clients, or what follows it. -/
def writingTo (message : List Char) (t : BroadcastRobotState) (rest : List ClientId) :
    Option Writing :=
  if rest = [] then none else some { message, t, rest }

def Hub.written (hub : Hub) (failed : Bool) (message : List Char) (t : BroadcastRobotState)
    (c : ClientId) (rest : List ClientId) : Hub :=
  { hub with
    conns := Function.update hub.conns c ((hub.conns c).write failed (statusText t))
    writing := writingTo message t rest }

/-- Nothing handles a message from a page, as `FindHandler` looks for a rule that is
never set.  Where `json.Unmarshal` fails, `checkErr` dereferences nil. -/
def Hub.step (hub : Hub) (event : HubEvent) : Option Hub :=
  match event with
  | .connect c =>
      if (hub.conns c).stage = .absent then some (hub.setStage c .registering) else none
  | .register c =>
      if (hub.conns c).stage = .registering ∧ hub.writing.isNone then
        some { hub.setStage c .reading with clients := c :: hub.clients }
      else none
  | .message c => if (hub.conns c).stage = .reading then some hub else none
  | .readError c =>
      if (hub.conns c).stage = .reading then some (hub.setStage c .unregistering) else none
  | .unregister c =>
      if (hub.conns c).stage = .unregistering ∧ hub.writing.isNone then
        some { hub.setStage c .closed with clients := hub.clients.erase c }
      else none
  | .broadcastRobot state =>
      if hub.sending.isNone then some { hub with sending := some (marshalBroadcast state) }
      else none
  | .take order =>
      match hub.sending with
      | none => none
      | some message =>
          if hub.writing.isNone ∧ order.isPerm hub.clients then
            some { hub with writing := writingTo message zeroState order, sending := none }
          else none
  | .write failed =>
      match hub.writing with
      | none => none
      | some writing =>
          match writing.rest with
          | [] => none
          | c :: rest =>
              (unmarshalBroadcast writing.message writing.t).map fun t =>
                hub.written failed writing.message t c rest

def HubEvent.broadcast : HubEvent → Option BroadcastRobotState
  | .broadcastRobot state => some state
  | _ => none

/-- The states that were broadcast in a run. -/
def broadcasts (events : List HubEvent) : List BroadcastRobotState :=
  events.filterMap HubEvent.broadcast

section

variable {hub after : Hub} {event : HubEvent}

/-- What a step can do. -/
inductive HubStep (hub : Hub) : HubEvent → Hub → Prop where
  | connect (c : ClientId) (absent : (hub.conns c).stage = .absent) :
      HubStep hub (.connect c) (hub.setStage c .registering)
  | register (c : ClientId) (waits : (hub.conns c).stage = .registering)
      (idle : hub.writing = none) :
      HubStep hub (.register c) { hub.setStage c .reading with clients := c :: hub.clients }
  | message (c : ClientId) : HubStep hub (.message c) hub
  | readError (c : ClientId) (reads : (hub.conns c).stage = .reading) :
      HubStep hub (.readError c) (hub.setStage c .unregistering)
  | unregister (c : ClientId) (waits : (hub.conns c).stage = .unregistering)
      (idle : hub.writing = none) :
      HubStep hub (.unregister c)
        { hub.setStage c .closed with clients := hub.clients.erase c }
  | broadcastRobot (state : BroadcastRobotState) (free : hub.sending = none) :
      HubStep hub (.broadcastRobot state) { hub with sending := some (marshalBroadcast state) }
  | take (order : List ClientId) (message : List Char) (waits : hub.sending = some message)
      (idle : hub.writing = none) (all : order.Perm hub.clients) :
      HubStep hub (.take order)
        { hub with writing := writingTo message zeroState order, sending := none }
  | write (failed : Bool) (writing : Writing) (c : ClientId) (rest : List ClientId)
      (t : BroadcastRobotState) (writes : hub.writing = some writing)
      (next : writing.rest = c :: rest)
      (read : unmarshalBroadcast writing.message writing.t = some t) :
      HubStep hub (.write failed) (hub.written failed writing.message t c rest)

theorem Hub.step_cases (stepped : hub.step event = some after) : HubStep hub event after := by
  cases event with
  | connect c =>
      simp only [Hub.step] at stepped
      split at stepped
      · next absent => cases stepped; exact .connect c absent
      · cases stepped
  | register c =>
      simp only [Hub.step, Option.isNone_iff_eq_none] at stepped
      split at stepped
      · next ready => cases stepped; exact .register c ready.1 ready.2
      · cases stepped
  | message c =>
      simp only [Hub.step] at stepped
      split at stepped
      · cases stepped; exact .message c
      · cases stepped
  | readError c =>
      simp only [Hub.step] at stepped
      split at stepped
      · next reads => cases stepped; exact .readError c reads
      · cases stepped
  | unregister c =>
      simp only [Hub.step, Option.isNone_iff_eq_none] at stepped
      split at stepped
      · next ready => cases stepped; exact .unregister c ready.1 ready.2
      · cases stepped
  | broadcastRobot state =>
      simp only [Hub.step, Option.isNone_iff_eq_none] at stepped
      split at stepped
      · next free => cases stepped; exact .broadcastRobot state free
      · cases stepped
  | take order =>
      cases waits : hub.sending with
      | none => simp [Hub.step, waits] at stepped
      | some message =>
          simp only [Hub.step, waits, Option.isNone_iff_eq_none, List.isPerm_iff] at stepped
          split at stepped
          · next ready => cases stepped; exact .take order message waits ready.1 ready.2
          · cases stepped
  | write failed =>
      cases writes : hub.writing with
      | none => simp [Hub.step, writes] at stepped
      | some writing =>
          cases next : writing.rest with
          | nil => simp [Hub.step, writes, next] at stepped
          | cons c rest =>
              simp only [Hub.step, writes, next, Option.map_eq_some_iff] at stepped
              obtain ⟨t, read, rfl⟩ := stepped
              exact .write failed writing c rest t writes next read

@[simp]
theorem Hub.setStage_sent (hub : Hub) (c d : ClientId) (stage : Stage) :
    ((hub.setStage c stage).conns d).sent = (hub.conns d).sent := by
  by_cases same : d = c
  · subst same; simp [Hub.setStage]
  · simp [Hub.setStage, same]

@[simp]
theorem Hub.setStage_broken (hub : Hub) (c d : ClientId) (stage : Stage) :
    ((hub.setStage c stage).conns d).broken = (hub.conns d).broken := by
  by_cases same : d = c
  · subst same; simp [Hub.setStage]
  · simp [Hub.setStage, same]

@[simp]
theorem Hub.setStage_self (hub : Hub) (c : ClientId) (stage : Stage) :
    ((hub.setStage c stage).conns c).stage = stage := by
  simp [Hub.setStage]

theorem Hub.setStage_other (hub : Hub) {c d : ClientId} (other : d ≠ c) (stage : Stage) :
    (hub.setStage c stage).conns d = hub.conns d := by
  simp [Hub.setStage, other]

def Stage.Registered (stage : Stage) : Prop := stage = .reading ∨ stage = .unregistering

/-- What is still to be written to a client of the message that is being written. -/
def Hub.awaited (hub : Hub) (c : ClientId) : List (List Char) :=
  match hub.writing with
  | none => []
  | some writing =>
      if c ∈ writing.rest then
        ((unmarshalBroadcast writing.message writing.t).map statusText).toList
      else []

structure Connection.Account (taken : List (List Char)) (conn : Connection)
    (awaited : List (List Char)) : Prop where
  block : conn.sent <:+: taken
  fresh : conn.stage = .absent ∨ conn.stage = .registering → conn.sent = [] ∧ conn.broken = false
  follows : conn.stage.Registered → conn.broken = false → Follows taken conn.sent awaited

/-- The hub has taken the states `taken` of those that were broadcast. -/
structure Hub.Delivers (log taken : List BroadcastRobotState) (hub : Hub) : Prop where
  pending : hub.sending = none ∧ log = taken ∨
    ∃ state, hub.sending = some (marshalBroadcast state) ∧ log = taken ++ [state]
  nodup : hub.clients.Nodup
  member : ∀ c, c ∈ hub.clients ↔ (hub.conns c).stage.Registered
  writes : ∀ writing, hub.writing = some writing →
    writing.rest ≠ [] ∧ writing.rest.Nodup ∧ (∀ c ∈ writing.rest, c ∈ hub.clients) ∧
      ∃ state, writing.message = marshalBroadcast state
  account : ∀ c, (hub.conns c).Account (taken.map statusText) (hub.awaited c)

section

variable {log taken : List BroadcastRobotState}

theorem Hub.awaited_of_idle (idle : hub.writing = none) (c : ClientId) : hub.awaited c = [] := by
  simp [Hub.awaited, idle]

/-- A step of one connection that leaves what was sent and the message alone. -/
theorem Hub.Delivers.restage (delivers : hub.Delivers log taken) {c : ClientId} {stage : Stage}
    {clients : List ClientId} (nodup : clients.Nodup)
    (member : ∀ d, d ∈ clients ↔ ((hub.setStage c stage).conns d).stage.Registered)
    (writes : ∀ writing, hub.writing = some writing → ∀ d ∈ writing.rest, d ∈ clients)
    (fresh : stage = .absent ∨ stage = .registering →
      (hub.conns c).stage = .absent ∨ (hub.conns c).stage = .registering)
    (follows : stage.Registered → (hub.conns c).stage.Registered ∨
      (hub.conns c).stage = .registering ∧ hub.writing = none) :
    { hub.setStage c stage with clients }.Delivers log taken where
  pending := delivers.pending
  nodup := nodup
  member := member
  writes := by
    intro writing isWriting
    obtain ⟨some, once, _, marshalled⟩ := delivers.writes writing isWriting
    exact ⟨some, once, writes writing isWriting, marshalled⟩
  account := by
    intro d
    obtain ⟨block, before, ahead⟩ := delivers.account d
    by_cases same : d = c
    · subst same
      refine ⟨by simpa using block, by simpa using fun early => before (fresh early), ?_⟩
      intro registered unbroken
      simp only [setStage_self, setStage_sent, setStage_broken] at registered unbroken ⊢
      rcases follows registered with already | ⟨registering, idle⟩
      · exact ahead already unbroken
      · have awaited : Hub.awaited { hub.setStage d stage with clients } d = [] :=
          awaited_of_idle idle d
        rw [(before (.inr registering)).1, awaited]
        exact follows_start _
    · show ((hub.setStage c stage).conns d).Account _ (hub.awaited d)
      rw [hub.setStage_other same]
      exact ⟨block, before, ahead⟩

theorem Connection.Account.write {texts : List (List Char)} {conn : Connection} {text : List Char}
    (account : conn.Account texts [text]) (registered : conn.stage.Registered) (failed : Bool) :
    (conn.write failed text).Account texts [] := by
  obtain ⟨block, _, follows⟩ := account
  have old : ¬ (conn.stage = .absent ∨ conn.stage = .registering) := by
    rintro (early | early) <;> simp [Stage.Registered, early] at registered
  unfold Connection.write
  split
  · exact ⟨block, fun early => absurd early old, fun _ unbroken => by cases unbroken⟩
  · next works =>
      have unbroken : conn.broken = false := by
        simpa using fun broken => works (.inr broken)
      have ahead := (follows registered unbroken).deliver
      exact ⟨ahead.part, fun early => absurd early old, fun _ _ => ahead⟩

theorem Hub.awaited_of_writing {writing : Writing} {t : BroadcastRobotState}
    (isWriting : hub.writing = some writing) (marshalled : writing.message = marshalBroadcast t)
    (c : ClientId) : hub.awaited c = if c ∈ writing.rest then [statusText t] else [] := by
  simp only [awaited, isWriting, marshalled, unmarshal_marshal, Option.map_some,
    Option.toList_some]

theorem Hub.awaited_written (failed : Bool) (t : BroadcastRobotState) (c d : ClientId)
    (rest : List ClientId) :
    (hub.written failed (marshalBroadcast t) t c rest).awaited d =
      if d ∈ rest then [statusText t] else [] := by
  by_cases last : rest = []
  · have idle : (hub.written failed (marshalBroadcast t) t c rest).writing = none := by
      simp [written, writingTo, last]
    rw [awaited_of_idle idle, last, if_neg List.not_mem_nil]
  · have goesOn : (hub.written failed (marshalBroadcast t) t c rest).writing =
        some ⟨marshalBroadcast t, t, rest⟩ := by
      simp [written, writingTo, last]
    exact awaited_of_writing goesOn rfl d

theorem Connection.write_stage (conn : Connection) (failed : Bool) (text : List Char) :
    (conn.write failed text).stage = conn.stage := by
  unfold Connection.write
  split <;> rfl

theorem Hub.written_stage (failed : Bool) (message : List Char) (t : BroadcastRobotState)
    (c d : ClientId) (rest : List ClientId) :
    ((hub.written failed message t c rest).conns d).stage = (hub.conns d).stage := by
  by_cases same : d = c
  · subst same
    simp [written, Connection.write_stage]
  · simp [written, same]

theorem Hub.Delivers.write (delivers : hub.Delivers log taken) (failed : Bool) {writing : Writing}
    {c : ClientId} {rest : List ClientId} {t : BroadcastRobotState}
    (isWriting : hub.writing = some writing) (next : writing.rest = c :: rest)
    (read : unmarshalBroadcast writing.message writing.t = some t) :
    (hub.written failed writing.message t c rest).Delivers log taken := by
  obtain ⟨_, once, registered, state, marshalled⟩ := delivers.writes writing isWriting
  have decoded : t = state := by
    rw [marshalled, unmarshal_marshal] at read
    exact (Option.some.inj read).symm
  subst decoded
  rw [marshalled]
  rw [next, List.nodup_cons] at once
  rw [next, List.forall_mem_cons] at registered
  refine ⟨delivers.pending, delivers.nodup, fun d => ?_, ?_, fun d => ?_⟩
  · rw [written_stage]
    exact delivers.member d
  · intro later isLater
    by_cases last : rest = []
    · simp [written, writingTo, last] at isLater
    · simp only [written, writingTo, if_neg last, Option.some.injEq] at isLater
      subst later
      exact ⟨last, once.2, registered.2, t, rfl⟩
  · have before := delivers.account d
    rw [awaited_of_writing isWriting marshalled, next] at before
    rw [awaited_written]
    by_cases same : d = c
    · subst same
      rw [if_pos List.mem_cons_self] at before
      rw [if_neg once.1]
      have account := before.write ((delivers.member d).mp registered.1) failed
      simpa [written] using account
    · have sameRest : d ∈ c :: rest ↔ d ∈ rest := by simp [same]
      simp only [sameRest] at before
      simpa [written, same] using before

theorem Hub.Delivers.take (delivers : hub.Delivers log taken) {order : List ClientId}
    {message : List Char} (waits : hub.sending = some message) (idle : hub.writing = none)
    (all : order.Perm hub.clients) :
    ∃ state, Hub.Delivers log (taken ++ [state])
      { hub with writing := writingTo message zeroState order, sending := none } := by
  obtain ⟨free, _⟩ | ⟨state, sends, logged⟩ := delivers.pending
  · rw [waits] at free
    cases free
  · have same : message = marshalBroadcast state := by
      rw [waits] at sends
      exact Option.some.inj sends
    subst same
    have awaited (c : ClientId) : Hub.awaited
        { hub with writing := writingTo (marshalBroadcast state) zeroState order, sending := none } c
          = if c ∈ order then [statusText state] else [] := by
      by_cases nobody : order = []
      · simp [Hub.awaited, writingTo, nobody]
      · simp [Hub.awaited, writingTo, nobody, unmarshal_marshal]
    refine ⟨state, .inl ⟨rfl, logged⟩, delivers.nodup, delivers.member, ?_, fun c => ?_⟩
    · intro writing isWriting
      by_cases nobody : order = []
      · simp [writingTo, nobody] at isWriting
      · simp only [writingTo, if_neg nobody, Option.some.injEq] at isWriting
        subst writing
        exact ⟨nobody, all.nodup_iff.mpr delivers.nodup, fun c member => all.mem_iff.mp member,
          state, rfl⟩
    · obtain ⟨block, fresh, follows⟩ := delivers.account c
      rw [awaited, List.map_append, List.map_singleton]
      refine ⟨part_publish block _, fresh, ?_⟩
      intro registered unbroken
      have ahead := (follows registered unbroken).publish (statusText state)
      rw [awaited_of_idle idle, List.nil_append] at ahead
      have served : c ∈ order := all.mem_iff.mpr ((delivers.member c).mpr registered)
      rw [if_pos served]
      exact ahead

theorem Hub.Delivers.step (delivers : hub.Delivers log taken) (stepped : HubStep hub event after) :
    ∃ taken, after.Delivers (log ++ event.broadcast.toList) taken := by
  have served := fun writing isWriting => (delivers.writes writing isWriting).2.2.1
  cases stepped with
  | connect c absent =>
      have member (d : ClientId) : d ∈ hub.clients ↔
          ((hub.setStage c .registering).conns d).stage.Registered := by
        by_cases same : d = c
        · subst same
          simp [delivers.member, Stage.Registered, absent]
        · rw [hub.setStage_other same]
          exact delivers.member d
      refine ⟨taken, ?_⟩
      show Hub.Delivers (log ++ []) taken _
      rw [List.append_nil]
      exact delivers.restage delivers.nodup member served (fun _ => .inl absent)
        (fun early => by simp [Stage.Registered] at early)
  | register c waits idle =>
      have new : c ∉ hub.clients := by simp [delivers.member, Stage.Registered, waits]
      have member (d : ClientId) : d ∈ c :: hub.clients ↔
          ((hub.setStage c .reading).conns d).stage.Registered := by
        by_cases same : d = c
        · subst same
          simp [Stage.Registered]
        · rw [hub.setStage_other same, ← delivers.member d]
          simp [same]
      refine ⟨taken, ?_⟩
      show Hub.Delivers (log ++ []) taken _
      rw [List.append_nil]
      exact delivers.restage (List.nodup_cons.mpr ⟨new, delivers.nodup⟩) member
        (fun writing isWriting => by rw [idle] at isWriting; cases isWriting)
        (fun _ => .inr waits) (fun _ => .inr ⟨waits, idle⟩)
  | message c =>
      refine ⟨taken, ?_⟩
      show hub.Delivers (log ++ []) taken
      rwa [List.append_nil]
  | readError c reads =>
      have member (d : ClientId) : d ∈ hub.clients ↔
          ((hub.setStage c .unregistering).conns d).stage.Registered := by
        by_cases same : d = c
        · subst same
          simp [delivers.member, Stage.Registered, reads]
        · rw [hub.setStage_other same]
          exact delivers.member d
      refine ⟨taken, ?_⟩
      show Hub.Delivers (log ++ []) taken _
      rw [List.append_nil]
      exact delivers.restage delivers.nodup member served (fun early => by simp at early)
        (fun _ => .inl (.inl reads))
  | unregister c waits idle =>
      have member (d : ClientId) : d ∈ hub.clients.erase c ↔
          ((hub.setStage c .closed).conns d).stage.Registered := by
        rw [delivers.nodup.mem_erase_iff]
        by_cases same : d = c
        · subst same
          simp [Stage.Registered]
        · rw [hub.setStage_other same, ← delivers.member d]
          simp [same]
      refine ⟨taken, ?_⟩
      show Hub.Delivers (log ++ []) taken _
      rw [List.append_nil]
      exact delivers.restage (delivers.nodup.erase c) member
        (fun writing isWriting => by rw [idle] at isWriting; cases isWriting)
        (fun early => by simp at early) (fun early => by simp [Stage.Registered] at early)
  | broadcastRobot state free =>
      obtain ⟨_, rfl⟩ | ⟨_, sends, _⟩ := delivers.pending
      · exact ⟨log, .inr ⟨state, rfl, rfl⟩, delivers.nodup, delivers.member, delivers.writes,
          delivers.account⟩
      · rw [free] at sends
        cases sends
  | take order message waits idle all =>
      obtain ⟨state, later⟩ := delivers.take waits idle all
      refine ⟨taken ++ [state], ?_⟩
      show Hub.Delivers (log ++ []) (taken ++ [state]) _
      rw [List.append_nil]
      exact later
  | write failed writing c rest t isWriting next read =>
      refine ⟨taken, ?_⟩
      show Hub.Delivers (log ++ []) taken _
      rw [List.append_nil]
      exact delivers.write failed isWriting next read

theorem start_delivers : Hub.start.Delivers [] [] where
  pending := .inl ⟨rfl, rfl⟩
  nodup := List.nodup_nil
  member c := by simp [Hub.start, Stage.Registered]
  writes := by simp [Hub.start]
  account c := ⟨List.infix_refl _, fun _ => ⟨rfl, rfl⟩, fun _ _ => follows_start _⟩

theorem foldl_broadcasts (log : List BroadcastRobotState) (events : List HubEvent) :
    events.foldl (fun log event => log ++ event.broadcast.toList) log = log ++ broadcasts events := by
  induction events generalizing log with
  | nil => simp [broadcasts]
  | cons event rest ih =>
      rw [List.foldl_cons, ih]
      cases sent : event.broadcast <;> simp [broadcasts, sent]

theorem run_delivers {events : List HubEvent} (ran : run Hub.step .start events = some hub) :
    ∃ taken, hub.Delivers (broadcasts events) taken := by
  have simulates : ∀ (log : List BroadcastRobotState) (before : Hub) (event : HubEvent)
      (after : Hub), (∃ taken, before.Delivers log taken) → True →
        before.step event = some after →
          ∃ taken, after.Delivers (log ++ event.broadcast.toList) taken := by
    rintro log before event after ⟨taken, delivers⟩ _ stepped
    exact delivers.step (Hub.step_cases stepped)
  have simulated := run_simulates simulates ⟨[], start_delivers⟩ ran (fun _ _ => trivial)
  rwa [foldl_broadcasts, List.nil_append] at simulated

end

/-- A socket is written to only while its client is registered. -/
theorem HubStep.sent_of_unregistered {log taken : List BroadcastRobotState}
    (delivers : hub.Delivers log taken) (stepped : HubStep hub event after) {c : ClientId}
    (unregistered : c ∉ hub.clients) : (after.conns c).sent = (hub.conns c).sent := by
  cases stepped with
  | connect d absent => exact hub.setStage_sent d c _
  | register d waits idle => exact hub.setStage_sent d c _
  | message d => rfl
  | readError d reads => exact hub.setStage_sent d c _
  | unregister d waits idle => exact hub.setStage_sent d c _
  | broadcastRobot state free => rfl
  | take order message waits idle all => rfl
  | write failed writing d rest t isWriting next read =>
      have other : c ≠ d := by
        rintro rfl
        have served := (delivers.writes writing isWriting).2.2.1
        rw [next, List.forall_mem_cons] at served
        exact unregistered served.1
      simp [Hub.written, other]

end

/-- What `BroadcastRobotStateMessage` waits with, as the clients will get it. -/
def Hub.waiting (hub : Hub) : List (List Char) :=
  ((hub.sending.bind fun message => unmarshalBroadcast message zeroState).map statusText).toList

theorem Hub.Delivers.follows_log {hub : Hub} {log taken : List BroadcastRobotState}
    (delivers : hub.Delivers log taken) {c : ClientId} (registered : c ∈ hub.clients)
    (unbroken : (hub.conns c).broken = false) :
    Follows (log.map statusText) (hub.conns c).sent (hub.awaited c ++ hub.waiting) := by
  have ahead := (delivers.account c).follows ((delivers.member c).mp registered) unbroken
  obtain ⟨free, rfl⟩ | ⟨state, sends, rfl⟩ := delivers.pending
  · simpa [waiting, free] using ahead
  · rw [List.map_append, List.map_singleton]
    have later := ahead.publish (statusText state)
    simpa [waiting, sends, unmarshal_marshal] using later

/-- However the goroutines interleave, in whatever order the map is gone through and
whichever writes fail: every client gets a part of the broadcasts without gaps, in their
order and each once; while it is registered and no write failed, what it got and is still
to get are the last broadcasts; nothing is written to it before the hub took its
registration or after it took the opposite; and the hub never stops at a message. -/
theorem hub_delivers (events : List HubEvent) (hub : Hub)
    (ran : run Hub.step .start events = some hub) :
    (∀ c, (hub.conns c).sent <:+: (broadcasts events).map statusText) ∧
      (∀ c ∈ hub.clients, (hub.conns c).broken = false →
        Follows ((broadcasts events).map statusText) (hub.conns c).sent
          (hub.awaited c ++ hub.waiting)) ∧
      (∀ transition ∈ path Hub.step .start events, ∀ c, c ∉ transition.before.clients →
        (transition.after.conns c).sent = (transition.before.conns c).sent) ∧
      (hub.writing.isSome → ∀ failed, (hub.step (.write failed)).isSome) := by
  obtain ⟨taken, delivers⟩ := run_delivers ran
  refine ⟨fun c => ?_, fun c => delivers.follows_log, ?_, ?_⟩
  · have block := (delivers.account c).block
    obtain ⟨_, same⟩ | ⟨state, _, same⟩ := delivers.pending
    · rwa [same]
    · rw [same, List.map_append, List.map_singleton]
      exact part_publish block _
  · have preserved : ∀ before event after, (∃ log taken, Hub.Delivers log taken before) → True →
        Hub.step before event = some after → (∃ log taken, Hub.Delivers log taken after) ∧
          ∀ c, c ∉ before.clients → (after.conns c).sent = (before.conns c).sent := by
      rintro before event after ⟨log, taken, delivers⟩ _ stepped
      exact ⟨⟨_, delivers.step (Hub.step_cases stepped)⟩,
        fun c unregistered => (Hub.step_cases stepped).sent_of_unregistered delivers unregistered⟩
    exact path_forall ⟨[], [], start_delivers⟩ preserved (fun _ _ => trivial)
  · intro busy failed
    obtain ⟨writing, isWriting⟩ := Option.isSome_iff_exists.mp busy
    obtain ⟨some, _, _, state, marshalled⟩ := delivers.writes writing isWriting
    cases next : writing.rest with
    | nil => exact absurd next some
    | cons c rest =>
        simp [Hub.step, isWriting, next, marshalled, unmarshal_marshal]

def warmState : BroadcastRobotState where
  robotId := 7
  hostname := "toy".toList
  temperature := "25".toList

/-- The write to client 1 fails, and it leaves; client 0 gets the first state and waits for
the second one. -/
def sampleHubEvents : List HubEvent := [
  .connect 0, .register 0, .connect 1, .broadcastRobot warmState, .register 1, .take [1, 0],
  .write true, .write false, .readError 1, .unregister 1, .broadcastRobot zeroState]

theorem sampleHubEvents_delivered :
    ∃ hub, run Hub.step .start sampleHubEvents = some hub ∧ 0 ∈ hub.clients ∧
      (hub.conns 0).sent = [statusText warmState] ∧
      Follows [statusText warmState, statusText zeroState] (hub.conns 0).sent
        (hub.awaited 0 ++ hub.waiting) ∧
      (hub.conns 1).sent <:+: [statusText warmState, statusText zeroState] := by
  have runs : (run Hub.step .start sampleHubEvents).any (fun hub =>
      decide (0 ∈ hub.clients) && !(hub.conns 0).broken &&
        decide ((hub.conns 0).sent = [statusText warmState])) = true := by
    decide +kernel
  obtain ⟨hub, ran, checks⟩ := (Option.any_eq_true _ _).mp runs
  simp only [Bool.and_eq_true, decide_eq_true_eq, Bool.not_eq_true'] at checks
  obtain ⟨⟨registered, unbroken⟩, sent⟩ := checks
  obtain ⟨parts, follow, _⟩ := hub_delivers sampleHubEvents hub ran
  exact ⟨hub, ran, registered, sent, follow 0 registered unbroken, parts 1⟩

end ToySystem.Web
