import ToySystem.Web.Api
import ToySystem.Web.Hub
import ToySystem.Web.Page

namespace ToySystem.Web

open ToySystem.Data ToySystem.Data.Json ToySystem.Backend

/-! # From the robot's messages to the pages

`RecvMessageQ`, the hub, `robotsGetHandler` and any number of pages at once.  Each of
them makes its steps when it likes; the answer to a page's request and the messages for it
travel on two connections.
-/

structure Browser where
  tab : Tab
  /-- The answer with the robots, while it is on its way. -/
  response : Option (List Char)
  /-- The texts that `Socket.message` was called with. -/
  handled : List (List Char)
  /-- For the statements: the robots of the answer, and the number of texts before it. -/
  fetched : List RobotData
  early : Nat

def Browser.new : Browser where
  tab := .new
  response := none
  handled := []
  fetched := []
  early := 0

/-- The messages that came after the robots. -/
def Browser.late (browser : Browser) : List StatusMessage :=
  (browser.handled.drop browser.early).filterMap readStatus

structure Dashboard where
  loop : RecvLoop
  hub : Hub
  browsers : ClientId → Browser

inductive DashboardEvent where
  | receive (round : Round)
  | hub (event : HubEvent)
  | serve (c : ClientId)
  | answer (c : ClientId)
  | status (c : ClientId)
  | page (c : ClientId) (event : TabEvent)

def Dashboard.start (db : Database) : Dashboard where
  loop := .start db
  hub := .start
  browsers _ := .new

def Dashboard.setBrowser (dash : Dashboard) (c : ClientId) (browser : Browser) : Dashboard :=
  { dash with browsers := Function.update dash.browsers c browser }

/-- What a page does of itself, apart from the answer and the messages.  A page is mounted
once here: to fetch again it would open a socket of its own. -/
def Browser.mayStep (browser : Browser) : TabEvent → Bool
  | .mount => browser.tab.fetch = .unsent
  | .fetchFailed | .editSpeed | .speedSet | .speedFailed => true
  | .robots _ _ | .status _ => false

def Browser.answer (browser : Browser) : Option Browser :=
  browser.response.bind fun text =>
    (readRobots text).bind fun (count, robots) =>
      (browser.tab.step (.robots robots count)).map fun tab =>
        { browser with
          tab, response := none, fetched := robots, early := browser.handled.length }

/-- `Socket.message`; a text that is not a status message reaches no handler. -/
def Browser.message (browser : Browser) (text : List Char) : Option Browser :=
  match readStatus text with
  | none => some { browser with handled := browser.handled ++ [text] }
  | some status =>
      (browser.tab.step (.status status)).map fun tab =>
        { browser with tab, handled := browser.handled ++ [text] }

/-- The loop of `RecvMessageQ` cannot go on while `BroadcastRobotStateMessage` waits. -/
def Dashboard.step (osHostname : List Char) (ids : List UInt64) (dash : Dashboard)
    (event : DashboardEvent) : Option Dashboard :=
  match event with
  | .receive round =>
      if dash.hub.sending.isSome then none
      else (recvRound osHostname dash.loop round).bind fun loop =>
        match loop.broadcasts.drop dash.loop.broadcasts.length with
        | [] => some { dash with loop }
        | state :: _ =>
            (dash.hub.step (.broadcastRobot state)).map fun hub => { dash with loop, hub }
  | .hub event =>
      if event.broadcast.isSome then none
      else (dash.hub.step event).map fun hub => { dash with hub }
  | .serve c =>
      let browser := dash.browsers c
      if browser.tab.fetch = .sent ∧ browser.response = none then
        match robotsGetHandler false (.ok (ids.filterMap dash.loop.db.robot)) with
        | .json response => some (dash.setBrowser c { browser with response := some response })
        | _ => none
      else none
  | .answer c => (dash.browsers c).answer.map (dash.setBrowser c)
  | .status c =>
      ((dash.hub.conns c).sent[(dash.browsers c).handled.length]?).bind fun text =>
        ((dash.browsers c).message text).map (dash.setBrowser c)
  | .page c event =>
      if (dash.browsers c).mayStep event then
        ((dash.browsers c).tab.step event).map fun tab =>
          dash.setBrowser c { dash.browsers c with tab }
      else none

/-- The states that are broadcast are those of the robots in the database, whose ids have
32 bits in a message. -/
structure Published (loop : RecvLoop) : Prop where
  ids : ∀ state ∈ loop.broadcasts, ∃ id : UInt32, state.robotId = id.toUInt64
  stored : ∀ id, ∀ state ∈ (loop.broadcasts.filter fun state => state.robotId = id).getLast?,
    ∃ p, loop.db.robot id = some p ∧ p.temperature = state.temperature

theorem updateRobotInStore_saves {osHostname : List Char} {round : Round} {call : UpdateCall}
    {db : Database} {result : Database × BroadcastRobotState}
    (updated : updateRobotInStore osHostname round call db = some result) :
    ∃ p, result.1 = db.save p ∧ p.id = call.id ∧ result.2.robotId = call.id ∧
      p.temperature = result.2.temperature := by
  cases asked : round.getFailure with
  | some err => simp [updateRobotInStore, storageGet, asked, checkErr] at updated
  | none =>
      cases found : db.robot call.id with
      | none => simp [updateRobotInStore, storageGet, asked, found, checkErr] at updated
      | some p =>
          cases saved : round.updateFailure with
          | some err =>
              simp [updateRobotInStore, storageGet, storageUpdate, asked, found, saved, checkErr,
                RobotState.clean_nil] at updated
          | none =>
              simp only [updateRobotInStore, storageGet, storageUpdate, asked, found, saved,
                checkErr, RobotState.clean_nil, updateRobot, Option.bind_some, Option.map_some,
                Option.some.injEq] at updated
              subst result
              exact ⟨_, rfl, db.keyed call.id p found, rfl, rfl⟩

theorem recvRound_saves {osHostname : List Char} {loop next : RecvLoop} {round : Round}
    (stepped : recvRound osHostname loop round = some next) :
    next.broadcasts = loop.broadcasts ∧ next.db = loop.db ∨
      ∃ state p, next.broadcasts = loop.broadcasts ++ [state] ∧ next.db = loop.db.save p ∧
        p.id = state.robotId ∧ p.temperature = state.temperature ∧
        ∃ id : UInt32, state.robotId = id.toUInt64 := by
  cases received : round.err with
  | some err => simp [recvRound, received, checkErr] at stepped
  | none =>
      simp only [recvRound, received, checkErr, Option.bind_some] at stepped
      obtain ⟨vars, decoded⟩ | ⟨vars, robot, decoded⟩ :
          (∃ vars, recvMessage round.rcv loop.vars = (vars, none)) ∨
            ∃ vars robot, recvMessage round.rcv loop.vars = (vars, some robot) := by
        rcases recvMessage round.rcv loop.vars with ⟨vars, _ | robot⟩
        · exact .inl ⟨vars, rfl⟩
        · exact .inr ⟨vars, robot, rfl⟩
      · simp only [decoded, Option.some.injEq] at stepped
        subst next
        exact .inl ⟨rfl, rfl⟩
      · simp only [decoded, Option.map_eq_some_iff] at stepped
        obtain ⟨result, updated, rfl⟩ := stepped
        obtain ⟨p, db, id, robotId, temperature⟩ := updateRobotInStore_saves updated
        exact .inr ⟨result.2, p, rfl, db, id.trans robotId.symm, temperature, robot.id, robotId⟩

theorem Published.recvRound {osHostname : List Char} {loop next : RecvLoop} {round : Round}
    (published : Published loop) (stepped : recvRound osHostname loop round = some next) :
    Published next := by
  obtain ⟨sameLog, sameDb⟩ | ⟨state, p, log, db, same, temperature, id⟩ := recvRound_saves stepped
  · exact ⟨by rw [sameLog]; exact published.ids, by rw [sameLog, sameDb]; exact published.stored⟩
  · refine ⟨?_, ?_⟩
    · rw [log]
      intro other member
      rcases List.mem_append.mp member with old | new
      · exact published.ids other old
      · rw [List.mem_singleton.mp new]
        exact id
    · intro robotId last isLast
      rw [log, List.filter_append] at isLast
      rw [db]
      by_cases here : state.robotId = robotId
      · have new : last = state := by simpa [here] using isLast.symm
        subst new
        exact ⟨p, by simp [Database.save, same, here], temperature⟩
      · have other : last ∈ (loop.broadcasts.filter fun state => state.robotId = robotId).getLast? := by
          simpa [here] using isLast
        obtain ⟨stored, found, equal⟩ := published.stored robotId last other
        refine ⟨stored, ?_, equal⟩
        have untouched : robotId ≠ p.id := by
          rw [same]
          exact fun equal => here equal.symm
        simpa [Database.save, untouched] using found

theorem start_published (db : Database) : Published (.start db) := by
  constructor <;> simp [RecvLoop.start]

/-- All robots that are stored, in the order of their ids. -/
structure Listed (ids : List UInt64) (robots : List RobotState) : Prop where
  sorted : robots.Pairwise fun one other => one.id ≤ other.id
  member : ∀ robot ∈ robots, robot.id ∈ ids
  all : ∀ id ∈ ids, ∃ robot ∈ robots, robot.id = id

theorem sortById_listed {ids : List UInt64} {db : Database}
    (complete : ∀ id, id ∈ ids ↔ (db.robot id).isSome = true) :
    Listed ids (sortById (ids.filterMap db.robot)) where
  sorted := by
    have transitive (one other third : RobotState) (first : decide (one.id ≤ other.id) = true)
        (second : decide (other.id ≤ third.id) = true) : decide (one.id ≤ third.id) = true := by
      simp only [decide_eq_true_eq] at first second ⊢
      exact UInt64.le_trans first second
    have total (one other : RobotState) :
        (decide (one.id ≤ other.id) || decide (other.id ≤ one.id)) = true := by
      simpa using UInt64.le_total one.id other.id
    simpa [sortById] using List.pairwise_mergeSort transitive total (ids.filterMap db.robot)
  member := by
    intro robot listed
    rw [sortById, List.mem_mergeSort, List.mem_filterMap] at listed
    obtain ⟨id, member, found⟩ := listed
    rwa [db.keyed id robot found]
  all := by
    intro id member
    obtain ⟨robot, found⟩ := Option.isSome_iff_exists.mp ((complete id).mp member)
    refine ⟨robot, ?_, db.keyed id robot found⟩
    rw [sortById, List.mem_mergeSort, List.mem_filterMap]
    exact ⟨id, member, found⟩

/-- The temperature in the last message for a robot, or else the one that was fetched. -/
def lastTemperature (late : List StatusMessage) (robot : RobotData) : List Char :=
  ((late.filter fun status => status.id = robot.id).getLast?.map fun status =>
    status.temperature).getD robot.temperature

def Shows (fetched : List RobotData) (late : List StatusMessage) (current : List PageRobot) :
    Prop :=
  current.map (fun robot => (robot.instanceId, robot.state.temperature)) =
    fetched.map fun robot => (robot.id, lastTemperature late robot)

theorem shows_fetched (robots : List RobotData) : Shows robots [] (robots.map fetchedRobot) := by
  simp [Shows, lastTemperature, fetchedRobot, PageRobotState.temperature, Function.comp_def]

theorem Shows.status {fetched : List RobotData} {late : List StatusMessage} {store : RobotsState}
    (shows : Shows fetched late store.current) (status : StatusMessage) :
    Shows fetched (late ++ [status]) (reducer store (.updateRobotState status)).current := by
  -- What the message does to a robot's id and temperature.
  let update : Nat × List Char → Nat × List Char := fun pair =>
    if pair.1 = status.id then (pair.1, status.temperature) else pair
  have updated : (reducer store (.updateRobotState status)).current.map
      (fun robot => (robot.instanceId, robot.state.temperature)) =
        (store.current.map fun robot => (robot.instanceId, robot.state.temperature)).map update := by
    simp only [reducer, List.map_map]
    apply List.map_congr_left
    intro robot _
    by_cases same : robot.instanceId = status.id <;>
      simp [update, same, PageRobotState.temperature]
  rw [Shows, updated, shows, List.map_map]
  apply List.map_congr_left
  intro robot _
  by_cases same : status.id = robot.id
  · simp [update, lastTemperature, same]
  · have other : robot.id ≠ status.id := fun equal => same equal.symm
    simp [update, lastTemperature, same, other]

/-- What holds of a page to whose socket `sent` was written. -/
structure Browser.Keeps (ids : List UInt64) (sent : List (List Char)) (browser : Browser) :
    Prop where
  read : browser.handled <+: sent
  early : browser.early ≤ browser.handled.length
  unfetched : browser.tab.fetch ≠ .answered → browser.fetched = []
  listed : browser.fetched ≠ [] → ∃ robots, Listed ids robots ∧ browser.fetched = robots.map seen
  response : ∀ text ∈ browser.response, ∃ robots, Listed ids robots ∧ text = robotsText robots
  shows : Shows browser.fetched browser.late browser.tab.store.current

theorem new_keeps (ids : List UInt64) : Browser.new.Keeps ids [] := by
  refine ⟨List.prefix_refl _, Nat.le_refl _, fun _ => rfl, ?_, ?_, ?_⟩
  · simp [Browser.new]
  · simp [Browser.new]
  · simp [Browser.new, Tab.new, RobotsState.default, Shows]

section

variable {ids : List UInt64} {sent : List (List Char)} {browser next : Browser}

theorem Browser.Keeps.more (keeps : browser.Keeps ids sent) {later : List (List Char)}
    (more : sent <+: later) : browser.Keeps ids later :=
  { keeps with read := keeps.read.trans more }

theorem Browser.Keeps.serve (keeps : browser.Keeps ids sent) {robots : List RobotState}
    (listed : Listed ids robots) :
    Browser.Keeps ids sent { browser with response := some (robotsText robots) } where
  read := keeps.read
  early := keeps.early
  unfetched := keeps.unfetched
  listed := keeps.listed
  response text isText := ⟨robots, listed, by simpa using isText.symm⟩
  shows := keeps.shows

theorem Browser.Keeps.answer (keeps : browser.Keeps ids sent)
    (answered : browser.answer = some next) : next.Keeps ids sent := by
  cases isText : browser.response with
  | none => simp [Browser.answer, isText] at answered
  | some text =>
      obtain ⟨robots, listed, rfl⟩ := keeps.response text isText
      simp only [Browser.answer, isText, Option.bind_some, readRobots_robotsText,
        Option.map_eq_some_iff] at answered
      obtain ⟨tab, stepped, rfl⟩ := answered
      cases Tab.step_cases stepped
      refine ⟨keeps.read, Nat.le_refl _, fun waits => absurd rfl waits,
        fun _ => ⟨robots, listed, rfl⟩, by simp, ?_⟩
      have late : Browser.late {
          browser with
          tab := { browser.tab with
            store := reducer browser.tab.store
              (.getRobotsSuccess (robots.map seen) (double robots.length))
            fetch := .answered }
          response := none
          fetched := robots.map seen
          early := browser.handled.length } = [] := by
        simp [Browser.late]
      rw [late]
      exact shows_fetched _

theorem Browser.late_handled (early : browser.early ≤ browser.handled.length) (text : List Char)
    (tab : Tab) :
    Browser.late { browser with tab, handled := browser.handled ++ [text] } =
      browser.late ++ (readStatus text).toList := by
  unfold Browser.late
  dsimp only
  rw [List.drop_append_of_le_length early, List.filterMap_append]
  cases read : readStatus text <;> simp [read]

theorem Browser.Keeps.message (keeps : browser.Keeps ids sent) {text : List Char}
    (unread : sent[browser.handled.length]? = some text)
    (handled : browser.message text = some next) : next.Keeps ids sent := by
  have read : browser.handled ++ [text] <+: sent := by
    obtain ⟨rest, rfl⟩ := keeps.read
    rw [List.getElem?_append_right (Nat.le_refl _), Nat.sub_self] at unread
    cases rest with
    | nil => cases unread
    | cons first rest =>
        cases unread
        exact ⟨rest, by simp⟩
  have early : browser.early ≤ (browser.handled ++ [text]).length := by
    have := keeps.early
    rw [List.length_append]
    omega
  cases isStatus : readStatus text with
  | none =>
      simp only [Browser.message, isStatus, Option.some.injEq] at handled
      subst next
      refine ⟨read, early, keeps.unfetched, keeps.listed, keeps.response, ?_⟩
      have late := browser.late_handled keeps.early text browser.tab
      rw [isStatus, Option.toList_none, List.append_nil] at late
      rw [late]
      exact keeps.shows
  | some status =>
      simp only [Browser.message, isStatus, Option.map_eq_some_iff] at handled
      obtain ⟨tab, stepped, rfl⟩ := handled
      cases Tab.step_cases stepped
      refine ⟨read, early, keeps.unfetched, keeps.listed, keeps.response, ?_⟩
      rw [browser.late_handled keeps.early, isStatus]
      exact keeps.shows.status status

theorem Browser.Keeps.page (keeps : browser.Keeps ids sent) {event : TabEvent} {tab : Tab}
    (own : browser.mayStep event = true) (stepped : browser.tab.step event = some tab) :
    Browser.Keeps ids sent { browser with tab } := by
  have shows := keeps.shows
  cases Tab.step_cases stepped with
  | mount empty idle =>
      have unsent : browser.tab.fetch = .unsent := of_decide_eq_true own
      have nothing := keeps.unfetched (by simp [unsent])
      refine ⟨keeps.read, keeps.early, fun _ => nothing, keeps.listed, keeps.response, ?_⟩
      show Shows browser.fetched _ []
      rw [nothing]
      rfl
  | remount => exact keeps
  | robots array count sent => cases own
  | fetchFailed sent =>
      have nothing := keeps.unfetched (by simp [sent])
      exact ⟨keeps.read, keeps.early, fun _ => nothing, keeps.listed, keeps.response, shows⟩
  | status status => cases own
  | editSpeed robot first usable =>
      exact ⟨keeps.read, keeps.early, keeps.unfetched, keeps.listed, keeps.response, shows⟩
  | speedSet robotId setting =>
      refine ⟨keeps.read, keeps.early, keeps.unfetched, keeps.listed, keeps.response, ?_⟩
      have same : (reducer browser.tab.store (.setLeftMotorSpeedSuccess robotId)).current =
          browser.tab.store.current := by
        have kept (robot : PageRobot) : (if robot.instanceId = robotId then
            { robot with instanceId := robotId } else robot) = robot := by
          split
          · next equal => rw [← equal]
          · rfl
        simp [reducer, kept]
      show Shows browser.fetched browser.late
        (reducer browser.tab.store (.setLeftMotorSpeedSuccess robotId)).current
      rw [same]
      exact shows
  | speedFailed setting =>
      exact ⟨keeps.read, keeps.early, keeps.unfetched, keeps.listed, keeps.response, shows⟩

end

theorem HubStep.sent_grows {hub after : Hub} {event : HubEvent} (stepped : HubStep hub event after)
    (c : ClientId) : (hub.conns c).sent <+: (after.conns c).sent := by
  cases stepped with
  | connect d absent => rw [hub.setStage_sent]
  | register d waits idle =>
      show _ <+: ((hub.setStage d .reading).conns c).sent
      rw [hub.setStage_sent]
  | message d => exact List.prefix_refl _
  | readError d reads => rw [hub.setStage_sent]
  | unregister d waits idle =>
      show _ <+: ((hub.setStage d .closed).conns c).sent
      rw [hub.setStage_sent]
  | broadcastRobot state free => exact List.prefix_refl _
  | take order message waits idle all => exact List.prefix_refl _
  | write failed writing d rest t isWriting next read =>
      by_cases same : c = d
      · subst same
        simp only [Hub.written, Function.update_self, Connection.write]
        split
        · exact List.prefix_refl _
        · exact List.prefix_append _ _
      · simp [Hub.written, same]

structure Dashboard.Valid (bucket : Bucket) (dash : Dashboard) : Prop where
  published : Published dash.loop
  same : SameRobots dash.loop.db bucket.db
  delivers : ∃ taken, dash.hub.Delivers dash.loop.broadcasts taken
  browsers : ∀ c, (dash.browsers c).Keeps bucket.ids (dash.hub.conns c).sent

section

variable {osHostname : List Char} {bucket : Bucket} {dash after : Dashboard}

theorem start_valid (bucket : Bucket) : (Dashboard.start bucket.db).Valid bucket where
  published := start_published bucket.db
  same _ := rfl
  delivers := ⟨[], start_delivers⟩
  browsers _ := new_keeps bucket.ids

theorem Dashboard.Valid.complete (valid : dash.Valid bucket) (id : UInt64) :
    id ∈ bucket.ids ↔ (dash.loop.db.robot id).isSome = true := by
  rw [bucket.complete, valid.same id]

theorem Dashboard.Valid.setBrowser (valid : dash.Valid bucket) {c : ClientId} {browser : Browser}
    (keeps : browser.Keeps bucket.ids (dash.hub.conns c).sent) :
    (dash.setBrowser c browser).Valid bucket where
  published := valid.published
  same := valid.same
  delivers := valid.delivers
  browsers d := by
    by_cases same : d = c
    · subst same
      simpa [Dashboard.setBrowser] using keeps
    · simpa [Dashboard.setBrowser, same] using valid.browsers d

theorem Dashboard.Valid.hubStep (valid : dash.Valid bucket) {event : HubEvent} {hub : Hub}
    {loop : RecvLoop} (published : Published loop) (same : SameRobots loop.db bucket.db)
    (log : loop.broadcasts = dash.loop.broadcasts ++ event.broadcast.toList)
    (stepped : dash.hub.step event = some hub) :
    Dashboard.Valid bucket { dash with loop, hub } where
  published := published
  same := same
  delivers := by
    obtain ⟨taken, delivers⟩ := valid.delivers
    rw [log]
    exact delivers.step (Hub.step_cases stepped)
  browsers c := (valid.browsers c).more ((Hub.step_cases stepped).sent_grows c)

theorem Dashboard.Valid.step {event : DashboardEvent} (valid : dash.Valid bucket)
    (stepped : dash.step osHostname bucket.ids event = some after) : after.Valid bucket := by
  cases event with
  | receive round =>
      simp only [Dashboard.step] at stepped
      split at stepped
      · cases stepped
      obtain ⟨loop, received, stepped⟩ := Option.bind_eq_some_iff.mp stepped
      have published := valid.published.recvRound received
      have same : SameRobots loop.db bucket.db := fun id =>
        ((recvRound_cases received).2.2.1 id).trans (valid.same id)
      obtain ⟨log, _⟩ | ⟨state, _, log, _⟩ := recvRound_saves received
      · simp only [log, List.drop_length, Option.some.injEq] at stepped
        subst after
        refine ⟨published, same, ?_, valid.browsers⟩
        obtain ⟨taken, delivers⟩ := valid.delivers
        exact ⟨taken, by rwa [log]⟩
      · simp only [log, List.drop_left, Option.map_eq_some_iff] at stepped
        obtain ⟨hub, sent, rfl⟩ := stepped
        have logged : loop.broadcasts =
            dash.loop.broadcasts ++ (HubEvent.broadcastRobot state).broadcast.toList := log
        exact valid.hubStep published same logged sent
  | hub event =>
      simp only [Dashboard.step] at stepped
      split at stepped
      · cases stepped
      · next quiet =>
          obtain ⟨hub, sent, rfl⟩ := Option.map_eq_some_iff.mp stepped
          have nothing : event.broadcast = none := by simpa using quiet
          exact valid.hubStep valid.published valid.same (by simp [nothing]) sent
  | serve c =>
      simp only [Dashboard.step] at stepped
      split at stepped
      · cases stepped
        exact valid.setBrowser ((valid.browsers c).serve (sortById_listed valid.complete))
      · cases stepped
  | answer c =>
      obtain ⟨browser, answered, rfl⟩ := Option.map_eq_some_iff.mp stepped
      exact valid.setBrowser ((valid.browsers c).answer answered)
  | status c =>
      obtain ⟨text, unread, stepped⟩ := Option.bind_eq_some_iff.mp stepped
      obtain ⟨browser, handled, rfl⟩ := Option.map_eq_some_iff.mp stepped
      exact valid.setBrowser ((valid.browsers c).message unread handled)
  | page c event =>
      simp only [Dashboard.step] at stepped
      split at stepped
      · next own =>
          obtain ⟨tab, moved, rfl⟩ := Option.map_eq_some_iff.mp stepped
          exact valid.setBrowser ((valid.browsers c).page own moved)
      · cases stepped

/-- All that was broadcast has reached the page. -/
structure Dashboard.AtRest (dash : Dashboard) (c : ClientId) : Prop where
  registered : c ∈ dash.hub.clients
  unbroken : (dash.hub.conns c).broken = false
  idle : dash.hub.writing = none
  free : dash.hub.sending = none
  read : (dash.browsers c).handled = (dash.hub.conns c).sent

theorem filterMap_readStatus (states : List BroadcastRobotState) :
    (states.map statusText).filterMap readStatus = states.map statusOf := by
  rw [List.filterMap_map]
  induction states with
  | nil => rfl
  | cons state rest ih =>
      rw [List.filterMap_cons, List.map_cons, ← ih]
      simp [readStatus_statusText]

/-- What came to a page at rest after the robots is the last part of the broadcasts. -/
theorem Dashboard.Valid.late (valid : dash.Valid bucket) {c : ClientId} (rest : dash.AtRest c) :
    ∃ states, states <:+ dash.loop.broadcasts ∧ (dash.browsers c).late = states.map statusOf := by
  obtain ⟨taken, delivers⟩ := valid.delivers
  have follows := delivers.follows_log rest.registered rest.unbroken
  rw [Hub.awaited_of_idle rest.idle, Hub.waiting, rest.free, List.nil_append] at follows
  have suffix : (dash.browsers c).handled.drop (dash.browsers c).early <:+
      dash.loop.broadcasts.map statusText := by
    rw [rest.read]
    exact (List.drop_suffix _ _).trans (by simpa [Follows] using follows)
  obtain ⟨states, among, same⟩ := List.suffix_map_iff.mp suffix
  exact ⟨states, among, by rw [Browser.late, same, filterMap_readStatus]⟩

theorem Listed.head {robots : List RobotState} {first : RobotState} {ids : List UInt64}
    (listed : Listed ids robots) (head : first ∈ robots.head?) :
    first.id ∈ ids ∧ ∀ id ∈ ids, first.id ≤ id := by
  cases robots with
  | nil => cases head
  | cons robot rest =>
      have same : robot = first := Option.some.inj head
      subst same
      refine ⟨listed.member robot List.mem_cons_self, ?_⟩
      intro id member
      obtain ⟨other, among, rfl⟩ := listed.all id member
      rcases List.mem_cons.mp among with rfl | later
      · exact UInt64.le_refl _
      · exact (List.pairwise_cons.mp listed.sorted).1 other later

theorem Shows.head {fetched : List RobotData} {late : List StatusMessage}
    {current : List PageRobot} {robot : PageRobot} (shows : Shows fetched late current)
    (first : robot ∈ current.head?) :
    ∃ data ∈ fetched.head?, robot.instanceId = data.id ∧
      robot.state.temperature = lastTemperature late data := by
  have heads := congrArg List.head? shows
  rw [List.head?_map, List.head?_map, first, Option.map_some] at heads
  obtain ⟨data, isHead, same⟩ := Option.map_eq_some_iff.mp heads.symm
  exact ⟨data, isHead, (congrArg Prod.fst same).symm, (congrArg Prod.snd same).symm⟩

theorem statuses_of_robot {states : List BroadcastRobotState} (p : RobotState)
    (short : ∀ state ∈ states, ∃ id : UInt32, state.robotId = id.toUInt64) :
    ((states.map statusOf).filter fun status => status.id = (seen p).id) =
      (states.filter fun state => state.robotId = p.id).map statusOf := by
  rw [List.filter_map]
  congr 1
  apply List.filter_congr
  intro state member
  obtain ⟨id, isShort⟩ := short state member
  have agrees := double_id_eq_iff p id
  simp only [Function.comp_apply, statusOf, seen, isShort, decide_eq_decide]
  rw [eq_comm, agrees, eq_comm]

end

theorem run_valid {osHostname : List Char} {bucket : Bucket} {events : List DashboardEvent}
    {dash : Dashboard}
    (ran : run (Dashboard.step osHostname bucket.ids) (.start bucket.db) events = some dash) :
    dash.Valid bucket :=
  @run_invariant _ _ _ (Dashboard.Valid bucket) _ _ _ (start_valid bucket)
    (fun _ _ _ valid stepped => valid.step stepped) ran

/-- A page that is connected and has nothing left to come shows the robot with the lowest
id, and it shows the temperature that is stored for that robot exactly if a message for it
came after the robots had been fetched, or if what was fetched is still stored. -/
theorem page_current_iff (osHostname : List Char) (bucket : Bucket) (events : List DashboardEvent)
    (dash : Dashboard)
    (ran : run (Dashboard.step osHostname bucket.ids) (.start bucket.db) events = some dash)
    (c : ClientId) (rest : dash.AtRest c) (robot : PageRobot)
    (first : robot ∈ (dash.browsers c).tab.store.current.head?) :
    ∃ id ∈ bucket.ids, (∀ other ∈ bucket.ids, id ≤ other) ∧ robot.instanceId = double id.toNat ∧
      ∃ data ∈ (dash.browsers c).fetched.head?, ∃ p, dash.loop.db.robot id = some p ∧
        (robot.state.temperature = p.temperature ↔
          (∃ status ∈ (dash.browsers c).late, status.id = robot.instanceId) ∨
            data.temperature = p.temperature) := by
  have valid := run_valid ran
  have keeps := valid.browsers c
  obtain ⟨data, head, sameId, shown⟩ := keeps.shows.head first
  obtain ⟨robots, listed, fetched⟩ := keeps.listed (by rintro nothing; simp [nothing] at head)
  rw [fetched, List.head?_map] at head
  obtain ⟨listedRobot, isHead, rfl⟩ := Option.map_eq_some_iff.mp head
  obtain ⟨member, least⟩ := listed.head isHead
  obtain ⟨p, stored⟩ := Option.isSome_iff_exists.mp ((valid.complete _).mp member)
  obtain ⟨states, among, late⟩ := valid.late rest
  have short : ∀ state ∈ states, ∃ id : UInt32, state.robotId = id.toUInt64 :=
    fun state inside => valid.published.ids state (among.subset inside)
  have messages := statuses_of_robot listedRobot short
  refine ⟨listedRobot.id, member, least, sameId, seen listedRobot, ?_, p, stored, ?_⟩
  · rw [fetched, List.head?_map]
    exact head
  rw [shown, sameId, late]
  unfold lastTemperature
  rw [messages]
  have messageCame : (∃ status ∈ states.map statusOf, status.id = (seen listedRobot).id) ↔
      (states.filter fun state => state.robotId = listedRobot.id) ≠ [] := by
    have mapped : (states.filter fun state => state.robotId = listedRobot.id).map statusOf ≠ [] ↔
        (states.filter fun state => state.robotId = listedRobot.id) ≠ [] :=
      not_congr List.map_eq_nil_iff
    rw [← mapped, ← messages]
    simp [List.filter_eq_nil_iff]
  rw [messageCame]
  by_cases noMessage : (states.filter fun state => state.robotId = listedRobot.id) = []
  · simp [noMessage]
  · have follows : Follows dash.loop.broadcasts states [] := by
      rw [Follows, List.append_nil]
      exact among
    have last := follows.getLast?_filter noMessage
    cases isLast : (states.filter fun state => state.robotId = listedRobot.id).getLast? with
    | none => exact absurd (List.getLast?_eq_none_iff.mp isLast) noMessage
    | some state =>
        obtain ⟨q, found, temperature⟩ := valid.published.stored listedRobot.id state
          (last ▸ isLast)
        have same : q = p := Option.some.inj (found.symm.trans stored)
        subst same
        rw [List.getLast?_map, isLast]
        simp [statusOf, temperature, noMessage]

def sampleRobot : RobotState where
  id := 12341234
  hostName := "toy".toList
  temperature := "0.0".toList
  lMotorSpeed := 50
  rMotorSpeed := 30
  lMotorState := 1
  rMotorState := 1

def sampleBucket : Bucket where
  ids := [12341234]
  db := { robot := fun id => if id = 12341234 then some sampleRobot else none
          keyed := by
            intro id p found
            split at found
            · next same => cases found; exact same.symm
            · cases found }
  complete := by simp

/-- The robot says that it has 25 degrees. -/
def sampleRound : Round where
  rcv := uint32Bytes 1 ++ uint32Bytes 12341234 ++ List.replicate 32 0 ++ uint32Bytes 25 ++
    List.replicate 10 0
  err := none
  getFailure := none
  updateFailure := none

/-- A page fetches the robots before the message comes. -/
def sampleDashboardEvents : List DashboardEvent := [
  .page 0 .mount, .hub (.connect 0), .hub (.register 0), .serve 0, .answer 0,
  .receive sampleRound, .hub (.take [0]), .hub (.write false), .status 0]

theorem sampleDashboardEvents_current :
    ∃ dash, run (Dashboard.step "toy".toList sampleBucket.ids) (.start sampleBucket.db)
        sampleDashboardEvents = some dash ∧
      ∃ robot ∈ (dash.browsers 0).tab.store.current.head?,
        ∃ p, dash.loop.db.robot 12341234 = some p ∧ robot.state.temperature = p.temperature := by
  have runs : (run (Dashboard.step "toy".toList sampleBucket.ids) (.start sampleBucket.db)
      sampleDashboardEvents).any (fun dash =>
        decide (0 ∈ dash.hub.clients) && !(dash.hub.conns 0).broken && dash.hub.writing.isNone &&
          dash.hub.sending.isNone &&
          decide ((dash.browsers 0).handled = (dash.hub.conns 0).sent) &&
          (dash.browsers 0).tab.store.current.head?.any fun robot =>
            (dash.browsers 0).late.any fun status => status.id = robot.instanceId) = true := by
    decide +kernel
  obtain ⟨dash, ran, checks⟩ := (Option.any_eq_true _ _).mp runs
  simp only [Bool.and_eq_true, decide_eq_true_eq, Bool.not_eq_true', Option.isNone_iff_eq_none,
    Option.any_eq_true, List.any_eq_true] at checks
  obtain ⟨⟨⟨⟨⟨registered, unbroken⟩, idle⟩, free⟩, read⟩, robot, first, came⟩ := checks
  obtain ⟨id, member, _, _, _, _, p, stored, current⟩ := page_current_iff _ sampleBucket _ dash ran
    0 ⟨registered, unbroken, idle, free, read⟩ robot first
  have same : id = 12341234 := by simpa [sampleBucket] using member
  subst same
  exact ⟨dash, ran, robot, first, p, stored, current.mpr (.inl came)⟩

/-! ## A write that does not return

`writeWait` is declared and no deadline is ever set.
-/

/-- Whether the backend can still hand over a state. -/
def Hub.room (hub : Hub) : Nat := if hub.sending.isNone then 1 else 0

/-- What stays while the hub is in a write. -/
structure Stalled (before after : Dashboard) : Prop where
  writing : after.hub.writing = before.hub.writing
  clients : after.hub.clients = before.hub.clients
  sent : ∀ c, (after.hub.conns c).sent = (before.hub.conns c).sent
  room : after.loop.broadcasts.length + after.hub.room =
    before.loop.broadcasts.length + before.hub.room

section

variable {osHostname : List Char} {ids : List UInt64} {dash after final : Dashboard}

theorem Stalled.refl (dash : Dashboard) : Stalled dash dash := ⟨rfl, rfl, fun _ => rfl, rfl⟩

theorem Stalled.trans (first : Stalled dash after) (second : Stalled after final) :
    Stalled dash final where
  writing := second.writing.trans first.writing
  clients := second.clients.trans first.clients
  sent c := (second.sent c).trans (first.sent c)
  room := second.room.trans first.room

theorem stalled_hub {event : HubEvent} {hub : Hub} (busy : dash.hub.writing.isSome = true)
    (noWrite : ∀ failed, event ≠ .write failed) (quiet : event.broadcast = none)
    (stepped : HubStep dash.hub event hub) : Stalled dash { dash with hub } := by
  obtain ⟨writing, isWriting⟩ := Option.isSome_iff_exists.mp busy
  cases stepped with
  | connect c absent => exact ⟨rfl, rfl, fun d => dash.hub.setStage_sent c d _, rfl⟩
  | register c waits idle => rw [isWriting] at idle; cases idle
  | message c => exact ⟨rfl, rfl, fun _ => rfl, rfl⟩
  | readError c reads => exact ⟨rfl, rfl, fun d => dash.hub.setStage_sent c d _, rfl⟩
  | unregister c waits idle => rw [isWriting] at idle; cases idle
  | broadcastRobot state free => cases quiet
  | take order message waits idle all => rw [isWriting] at idle; cases idle
  | write failed writing c rest t writes next read => exact absurd rfl (noWrite failed)

theorem stalled_step {event : DashboardEvent} (busy : dash.hub.writing.isSome = true)
    (noWrite : ∀ failed, event ≠ .hub (.write failed))
    (stepped : dash.step osHostname ids event = some after) : Stalled dash after := by
  cases event with
  | receive round =>
      simp only [Dashboard.step] at stepped
      split at stepped
      · cases stepped
      obtain ⟨loop, received, stepped⟩ := Option.bind_eq_some_iff.mp stepped
      obtain ⟨log, _⟩ | ⟨state, _, log, _⟩ := recvRound_saves received
      · simp only [log, List.drop_length, Option.some.injEq] at stepped
        subst after
        exact ⟨rfl, rfl, fun _ => rfl, by rw [log]⟩
      · simp only [log, List.drop_left, Option.map_eq_some_iff] at stepped
        obtain ⟨hub, sent, rfl⟩ := stepped
        cases Hub.step_cases sent with
        | broadcastRobot state free =>
            exact ⟨rfl, rfl, fun _ => rfl, by simp [log, Hub.room, free]⟩
  | hub event =>
      simp only [Dashboard.step] at stepped
      split at stepped
      · cases stepped
      · next quiet =>
          obtain ⟨hub, moved, rfl⟩ := Option.map_eq_some_iff.mp stepped
          have other : ∀ failed, event ≠ .write failed := by
            rintro failed rfl
            exact noWrite failed rfl
          exact stalled_hub busy other (by simpa using quiet) (Hub.step_cases moved)
  | serve c =>
      simp only [Dashboard.step] at stepped
      split at stepped
      · cases stepped
        exact ⟨rfl, rfl, fun _ => rfl, rfl⟩
      · cases stepped
  | answer c =>
      obtain ⟨browser, _, rfl⟩ := Option.map_eq_some_iff.mp stepped
      exact ⟨rfl, rfl, fun _ => rfl, rfl⟩
  | status c =>
      obtain ⟨text, _, stepped⟩ := Option.bind_eq_some_iff.mp stepped
      obtain ⟨browser, _, rfl⟩ := Option.map_eq_some_iff.mp stepped
      exact ⟨rfl, rfl, fun _ => rfl, rfl⟩
  | page c event =>
      simp only [Dashboard.step] at stepped
      split at stepped
      · obtain ⟨tab, _, rfl⟩ := Option.map_eq_some_iff.mp stepped
        exact ⟨rfl, rfl, fun _ => rfl, rfl⟩
      · cases stepped

theorem run_stalled {events : List DashboardEvent} (busy : dash.hub.writing.isSome = true)
    (noWrite : ∀ failed, .hub (.write failed) ∉ events)
    (ran : run (Dashboard.step osHostname ids) dash events = some final) : Stalled dash final := by
  induction events generalizing dash with
  | nil =>
      cases ran
      exact Stalled.refl _
  | cons event rest ih =>
      cases stepped : dash.step osHostname ids event with
      | none => simp [run, stepped] at ran
      | some next =>
          rw [run_cons stepped] at ran
          have here : Stalled dash next := stalled_step busy
            (fun failed same => noWrite failed (by simp [same])) stepped
          have later := ih (by rw [here.writing]; exact busy)
            (fun failed member => noWrite failed (List.mem_cons_of_mem _ member)) ran
          exact here.trans later

end

/-- As long as one client's socket does not take what the hub writes to it, no client gets
anything or is registered, and the backend broadcasts at most one more state, after which
it no longer receives messages of the robot's. -/
theorem stalled_write_stops_all (osHostname : List Char) (ids : List UInt64)
    (dash final : Dashboard) (events : List DashboardEvent)
    (busy : dash.hub.writing.isSome = true) (noWrite : ∀ failed, .hub (.write failed) ∉ events)
    (ran : run (Dashboard.step osHostname ids) dash events = some final) :
    (∀ c, (final.hub.conns c).sent = (dash.hub.conns c).sent) ∧
      final.hub.clients = dash.hub.clients ∧
      final.loop.broadcasts.length ≤ dash.loop.broadcasts.length + 1 ∧
      (dash.loop.broadcasts.length < final.loop.broadcasts.length →
        ∀ round, final.step osHostname ids (.receive round) = none) := by
  obtain ⟨_, clients, sent, room⟩ := run_stalled busy noWrite ran
  refine ⟨sent, clients, ?_, ?_⟩
  · have : dash.hub.room ≤ 1 := by
      unfold Hub.room
      split <;> omega
    omega
  · intro more round
    have waits : final.hub.sending.isSome = true := by
      cases sending : final.hub.sending with
      | some message => rfl
      | none =>
          have free : final.hub.room = 1 := by simp [Hub.room, sending]
          have : dash.hub.room ≤ 1 := by
            unfold Hub.room
            split <;> omega
          omega
    simp [Dashboard.step, waits]

/-- The hub writes the robot's first temperature to client 0. -/
def stalledEvents : List DashboardEvent := [
  .hub (.connect 0), .hub (.register 0), .receive sampleRound, .hub (.take [0])]

theorem stalledEvents_stop :
    ∃ dash final, run (Dashboard.step "toy".toList sampleBucket.ids) (.start sampleBucket.db)
        stalledEvents = some dash ∧ 0 ∈ dash.hub.clients ∧
      run (Dashboard.step "toy".toList sampleBucket.ids) dash [.receive sampleRound] =
        some final ∧
      ∀ round, final.step "toy".toList sampleBucket.ids (.receive round) = none := by
  have runs : (run (Dashboard.step "toy".toList sampleBucket.ids) (.start sampleBucket.db)
      stalledEvents).any (fun dash => dash.hub.writing.isSome && decide (0 ∈ dash.hub.clients) &&
        (run (Dashboard.step "toy".toList sampleBucket.ids) dash [.receive sampleRound]).any
          fun final => dash.loop.broadcasts.length < final.loop.broadcasts.length) = true := by
    decide +kernel
  obtain ⟨dash, ran, checks⟩ := (Option.any_eq_true _ _).mp runs
  simp only [Bool.and_eq_true, decide_eq_true_eq, Option.any_eq_true] at checks
  obtain ⟨⟨busy, registered⟩, final, later, more⟩ := checks
  obtain ⟨_, _, _, stops⟩ := stalled_write_stops_all "toy".toList sampleBucket.ids dash final
    [.receive sampleRound] busy (by simp) later
  exact ⟨dash, final, ran, registered, later, stops more⟩

end ToySystem.Web
