import ToySystem.Web.Wire

namespace ToySystem.Web

open ToySystem.Data

/-! # The page of the robot

`robots-reducer.ts` with the actions of `robots-actions.ts` that change its store, and
`robot-page.tsx`, which shows the first robot in the store whatever its id.
-/

/-- `RobotsState` over the type of the robots in it. -/
structure Store (Robot : Type) where
  initialized : Bool
  fetching : Bool
  updating : Bool
  hideEmpty : Bool
  count : Nat
  current : List Robot

/-- A robot in the store, with the id of its instance, which never changes. -/
structure StoredRobot (State : Type) where
  instanceId : Nat
  state : State

/-- The state of a robot: as it was fetched, or `{ ...state, id, hostname, temperature }`,
where `state` is the whole store. -/
inductive PageRobotState where
  | fetched (id : Nat) (hostname temperature : List Char)
  | spread (state : Store (StoredRobot PageRobotState)) (id : Nat)
      (hostname temperature : List Char)

def PageRobotState.temperature : PageRobotState → List Char
  | .fetched _ _ temperature => temperature
  | .spread _ _ _ temperature => temperature

abbrev PageRobot := StoredRobot PageRobotState
abbrev RobotsState := Store PageRobot

def RobotsState.default : RobotsState where
  initialized := false
  fetching := false
  updating := false
  hideEmpty := false
  count := 0
  current := []

inductive Action where
  | getRobots
  | getRobotsSuccess (array : List RobotData) (count : Nat)
  | getRobotsFailed
  | updateRobot
  | updateRobotSuccess (robot : Option RobotData) (robotID : Nat)
  | updateRobotFailed (robot : RobotData)
  | updateRobotState (status : StatusMessage)
  | setLeftMotorSpeed
  | setLeftMotorSpeedSuccess (robotId : Nat)
  | setLeftMotorSpeedFailed

def fetchedRobot (robot : RobotData) : PageRobot where
  instanceId := robot.id
  state := .fetched robot.id robot.hostname robot.temperature

/-- `updating` stays set when a speed could not be set. -/
def reducer (state : RobotsState) : Action → RobotsState
  | .getRobots =>
      { state with initialized := false, fetching := true, hideEmpty := true, count := 0, current := [] }
  | .getRobotsSuccess array count =>
      { state with
        initialized := true
        fetching := false
        count := count
        current := array.map fetchedRobot }
  | .getRobotsFailed => { state with initialized := true, fetching := false }
  | .updateRobot => { state with updating := true }
  | .updateRobotSuccess none robotID =>
      { state with
        updating := false
        current := state.current.filter fun robot => robot.instanceId ≠ robotID }
  | .updateRobotSuccess (some robot) _ =>
      { state with
        updating := false
        current := state.current.map fun old =>
          if old.instanceId = robot.id then fetchedRobot robot else old }
  | .updateRobotFailed robot =>
      { state with
        updating := false
        current := state.current.map fun old =>
          if old.instanceId = robot.id then { old with instanceId := robot.id } else old }
  | .updateRobotState status =>
      { state with
        current := state.current.map fun robot =>
          if robot.instanceId = status.id then
            { robot with state := .spread state status.id status.hostname status.temperature }
          else robot }
  | .setLeftMotorSpeed => { state with updating := true }
  | .setLeftMotorSpeedSuccess robotId =>
      { state with
        updating := false
        current := state.current.map fun robot =>
          if robot.instanceId = robotId then { robot with instanceId := robotId } else robot }
  | .setLeftMotorSpeedFailed => { state with updating := true }

/-- What `RobotPageComponent` shows. -/
inductive View where
  | spinner
  | details (hidden : Bool) (temperature : List Char)
deriving DecidableEq

def view (state : RobotsState) : View :=
  match state.current with
  | [] => .spinner
  | robot :: _ => .details state.updating robot.state.temperature

/-- The last request for the robots. -/
inductive Fetching where
  | unsent
  | sent
  | answered
  | failed
deriving DecidableEq

structure Tab where
  store : RobotsState
  fetch : Fetching
  /-- The robot whose speed `setLeftMotorSpeed` waits to hear about. -/
  setting : Option Nat

inductive TabEvent where
  /-- `componentDidMount`. -/
  | mount
  | robots (array : List RobotData) (count : Nat)
  | fetchFailed
  | status (status : StatusMessage)
  /-- The user edits the speed, which works only on details that are shown. -/
  | editSpeed
  | speedSet
  | speedFailed

def Tab.new : Tab := { store := .default, fetch := .unsent, setting := none }

def Tab.step (tab : Tab) (event : TabEvent) : Option Tab :=
  match event with
  | .mount =>
      if tab.store.current = [] ∧ tab.store.fetching = false then
        some { tab with store := reducer tab.store .getRobots, fetch := .sent }
      else some tab
  | .robots array count =>
      if tab.fetch = .sent then
        some { tab with
          store := reducer tab.store (.getRobotsSuccess array count)
          fetch := .answered }
      else none
  | .fetchFailed =>
      if tab.fetch = .sent then
        some { tab with store := reducer tab.store .getRobotsFailed, fetch := .failed }
      else none
  | .status status => some { tab with store := reducer tab.store (.updateRobotState status) }
  | .editSpeed =>
      match tab.store.current with
      | [] => none
      | robot :: _ =>
          if tab.store.updating then none
          else some { tab with
            store := reducer tab.store .setLeftMotorSpeed
            setting := some robot.instanceId }
  | .speedSet =>
      tab.setting.map fun robotId =>
        { tab with
          store := reducer tab.store (.setLeftMotorSpeedSuccess robotId), setting := none }
  | .speedFailed =>
      if tab.setting.isSome then
        some { tab with store := reducer tab.store .setLeftMotorSpeedFailed, setting := none }
      else none

section

variable {tab after final : Tab} {event : TabEvent} {events : List TabEvent}

/-- What a step can do. -/
inductive TabStep (tab : Tab) : TabEvent → Tab → Prop where
  | mount (empty : tab.store.current = []) (idle : tab.store.fetching = false) :
      TabStep tab .mount { tab with store := reducer tab.store .getRobots, fetch := .sent }
  | remount : TabStep tab .mount tab
  | robots (array : List RobotData) (count : Nat) (sent : tab.fetch = .sent) :
      TabStep tab (.robots array count)
        { tab with
          store := reducer tab.store (.getRobotsSuccess array count)
          fetch := .answered }
  | fetchFailed (sent : tab.fetch = .sent) :
      TabStep tab .fetchFailed
        { tab with store := reducer tab.store .getRobotsFailed, fetch := .failed }
  | status (status : StatusMessage) :
      TabStep tab (.status status)
        { tab with store := reducer tab.store (.updateRobotState status) }
  | editSpeed (robot : PageRobot) (first : robot ∈ tab.store.current.head?)
      (usable : tab.store.updating = false) :
      TabStep tab .editSpeed
        { tab with
          store := reducer tab.store .setLeftMotorSpeed
          setting := some robot.instanceId }
  | speedSet (robotId : Nat) (setting : tab.setting = some robotId) :
      TabStep tab .speedSet
        { tab with
          store := reducer tab.store (.setLeftMotorSpeedSuccess robotId), setting := none }
  | speedFailed (setting : tab.setting.isSome = true) :
      TabStep tab .speedFailed
        { tab with store := reducer tab.store .setLeftMotorSpeedFailed, setting := none }

theorem Tab.step_cases (stepped : tab.step event = some after) : TabStep tab event after := by
  cases event with
  | mount =>
      simp only [Tab.step] at stepped
      split at stepped
      · next guard => cases stepped; exact .mount guard.1 guard.2
      · cases stepped; exact .remount
  | robots array count =>
      simp only [Tab.step] at stepped
      split at stepped
      · next sent => cases stepped; exact .robots array count sent
      · cases stepped
  | fetchFailed =>
      simp only [Tab.step] at stepped
      split at stepped
      · next sent => cases stepped; exact .fetchFailed sent
      · cases stepped
  | status status =>
      cases stepped
      exact .status status
  | editSpeed =>
      cases current : tab.store.current with
      | nil => simp [Tab.step, current] at stepped
      | cons robot rest =>
          simp only [Tab.step, current] at stepped
          split at stepped
          · cases stepped
          · next usable =>
              cases stepped
              exact .editSpeed robot (by simp [current]) (by simpa using usable)
  | speedSet =>
      simp only [Tab.step, Option.map_eq_some_iff] at stepped
      obtain ⟨robotId, setting, rfl⟩ := stepped
      exact .speedSet robotId setting
  | speedFailed =>
      simp only [Tab.step] at stepped
      split at stepped
      · next setting => cases stepped; exact .speedFailed setting
      · cases stepped

/-- What a page depends on: whether it got robots and whether a speed could not be set. -/
structure Tab.Depends (got failed : Prop) (tab : Tab) : Prop where
  shown : tab.store.current ≠ [] ↔ got
  answered : got → tab.fetch = .answered
  updating : tab.store.updating = true ↔ tab.setting.isSome = true ∨ failed
  stuck : failed → tab.setting = none

def TabEvent.GetsRobots (event : TabEvent) : Prop :=
  ∃ array count, event = .robots array count ∧ array ≠ []

theorem new_depends : Tab.new.Depends False False := by
  refine ⟨?_, ?_, ?_, ?_⟩ <;> simp [Tab.new, RobotsState.default]

theorem Tab.Depends.step {got failed : Prop} (depends : tab.Depends got failed)
    (stepped : TabStep tab event after) :
    after.Depends (got ∨ event.GetsRobots) (failed ∨ event = .speedFailed) := by
  obtain ⟨shown, answered, updating, stuck⟩ := depends
  cases stepped with
  | mount empty idle =>
      have notGot : ¬ got := fun got => shown.mpr got empty
      refine ⟨?_, ?_, ?_, ?_⟩
      · simp [reducer, TabEvent.GetsRobots, notGot]
      · simp [TabEvent.GetsRobots, notGot]
      · simpa [reducer] using updating
      · simpa using stuck
  | remount =>
      refine ⟨?_, ?_, ?_, ?_⟩
      · simpa [TabEvent.GetsRobots] using shown
      · simpa [TabEvent.GetsRobots] using answered
      · simpa using updating
      · simpa using stuck
  | robots array count sent =>
      have notGot : ¬ got := fun got => by
        have := answered got
        rw [sent] at this
        cases this
      refine ⟨?_, ?_, ?_, ?_⟩
      · simp [reducer, TabEvent.GetsRobots, notGot]
      · simp
      · simpa [reducer] using updating
      · simpa using stuck
  | fetchFailed sent =>
      have notGot : ¬ got := fun got => by
        have := answered got
        rw [sent] at this
        cases this
      refine ⟨?_, ?_, ?_, ?_⟩
      · simpa [reducer, TabEvent.GetsRobots] using shown
      · simp [TabEvent.GetsRobots, notGot]
      · simpa [reducer] using updating
      · simpa using stuck
  | status status =>
      refine ⟨?_, ?_, ?_, ?_⟩
      · simpa [reducer, TabEvent.GetsRobots] using shown
      · simpa [TabEvent.GetsRobots] using answered
      · simpa [reducer] using updating
      · simpa using stuck
  | editSpeed robot first usable =>
      have works : ¬ failed := fun failed => by
        have := updating.mpr (.inr failed)
        rw [usable] at this
        cases this
      refine ⟨?_, ?_, ?_, ?_⟩
      · simpa [reducer, TabEvent.GetsRobots] using shown
      · simpa [TabEvent.GetsRobots] using answered
      · simp [reducer]
      · simp [works]
  | speedSet robotId setting =>
      have works : ¬ failed := fun failed => by
        have := stuck failed
        rw [setting] at this
        cases this
      refine ⟨?_, ?_, ?_, ?_⟩
      · simpa [reducer, TabEvent.GetsRobots] using shown
      · simpa [TabEvent.GetsRobots] using answered
      · simp [reducer, works]
      · simp
  | speedFailed setting =>
      refine ⟨?_, ?_, ?_, ?_⟩
      · simpa [reducer, TabEvent.GetsRobots] using shown
      · simpa [TabEvent.GetsRobots] using answered
      · simp [reducer]
      · simp

theorem Tab.Depends.congr {got failed got' failed' : Prop} (depends : tab.Depends got failed)
    (sameGot : got ↔ got') (sameFailed : failed ↔ failed') : tab.Depends got' failed' := by
  rwa [← propext sameGot, ← propext sameFailed]

theorem run_depends {got failed : Prop} (depends : tab.Depends got failed)
    (ran : run Tab.step tab events = some final) :
    final.Depends (got ∨ ∃ event ∈ events, event.GetsRobots)
      (failed ∨ .speedFailed ∈ events) := by
  induction events generalizing tab got failed with
  | nil =>
      cases ran
      exact depends.congr (by simp) (by simp)
  | cons event rest ih =>
      cases stepped : tab.step event with
      | none => simp [run, stepped] at ran
      | some next =>
          rw [run_cons stepped] at ran
          refine (ih (depends.step (Tab.step_cases stepped)) ran).congr ?_ ?_
          · simp [or_assoc]
          · simp [or_assoc, eq_comm]

/-- The details of a robot are shown exactly if a request for the robots was answered with
some, no request for a speed is under way and none has ever failed: a page on which one
failed stays without details until it is loaded anew. -/
theorem details_shown_iff (events : List TabEvent) (tab : Tab)
    (ran : run Tab.step .new events = some tab) :
    (∃ temperature, view tab.store = .details false temperature) ↔
      (∃ event ∈ events, event.GetsRobots) ∧ tab.setting = none ∧ .speedFailed ∉ events := by
  obtain ⟨shown, _, updating, _⟩ := run_depends new_depends ran
  rw [false_or] at shown updating
  rw [← shown]
  have usable : tab.store.updating = false ↔ tab.setting = none ∧ .speedFailed ∉ events := by
    rw [← Bool.not_eq_true, updating]
    cases tab.setting <;> simp
  rw [← usable]
  cases current : tab.store.current with
  | nil => simp [view, current]
  | cons robot rest => simp [view, current]

def sampleRobotData : RobotData := ⟨12341234, "toy".toList, "0.0".toList, 50, 30, 1, 1⟩

/-- The robots are fetched when the page is mounted again, and the speed is set once. -/
def sampleTabEvents : List TabEvent := [
  .mount, .fetchFailed, .mount, .robots [sampleRobotData] 1, .editSpeed, .speedSet, .mount]

theorem sampleTabEvents_hidden :
    (∃ tab, run Tab.step .new sampleTabEvents = some tab ∧
        ∃ temperature, view tab.store = .details false temperature) ∧
      ∃ tab, run Tab.step .new (sampleTabEvents ++ [.editSpeed, .speedFailed]) = some tab ∧
        ¬ ∃ temperature, view tab.store = .details false temperature := by
  refine ⟨⟨_, rfl, ?_⟩, _, rfl, ?_⟩
  · rw [details_shown_iff sampleTabEvents _ rfl]
    have got : (TabEvent.robots [sampleRobotData] 1).GetsRobots :=
      ⟨[sampleRobotData], 1, rfl, by simp⟩
    exact ⟨⟨_, by simp [sampleTabEvents], got⟩, rfl, by simp [sampleTabEvents]⟩
  · rw [details_shown_iff (sampleTabEvents ++ [.editSpeed, .speedFailed]) _ rfl]
    rintro ⟨_, _, never⟩
    exact never (by simp)

/-- A store that can be reached from the state of a robot. -/
inductive PageRobotState.Holds : PageRobotState → RobotsState → Prop where
  | last (store : RobotsState) (id : Nat) (hostname temperature : List Char) :
      Holds (.spread store id hostname temperature) store
  | earlier {store older : RobotsState} {robot : PageRobot} (id : Nat)
      (hostname temperature : List Char) (member : robot ∈ store.current)
      (holds : Holds robot.state older) : Holds (.spread store id hostname temperature) older

def Tab.Holds (tab : Tab) (store : RobotsState) : Prop :=
  ∃ robot ∈ tab.store.current, robot.state.Holds store

/-- A status message for a robot that the page has. -/
def Tab.Updates (tab : Tab) (event : TabEvent) : Prop :=
  ∃ status, event = .status status ∧ ∃ robot ∈ tab.store.current, robot.instanceId = status.id

theorem Tab.holds_status {status : StatusMessage} {robot : PageRobot}
    (member : robot ∈ tab.store.current) (same : robot.instanceId = status.id)
    {store : RobotsState}
    (holds : (PageRobotState.spread tab.store status.id status.hostname status.temperature).Holds
      store) :
    Tab.Holds { tab with store := reducer tab.store (.updateRobotState status) } store := by
  refine ⟨_, List.mem_map_of_mem member, ?_⟩
  rw [if_pos same]
  exact holds

theorem Tab.Updates.holds (updates : tab.Updates event) (stepped : TabStep tab event after) :
    after.Holds tab.store := by
  obtain ⟨status, rfl, robot, member, same⟩ := updates
  cases stepped
  exact Tab.holds_status member same (.last _ _ _ _)

/-- A page that has robots was given them by the last answer. -/
def Tab.Settled (tab : Tab) : Prop := tab.store.current ≠ [] → tab.fetch = .answered

theorem Tab.Settled.step (settled : tab.Settled) (stepped : TabStep tab event after) :
    after.Settled := by
  cases stepped with
  | mount empty idle => exact fun some => absurd rfl some
  | remount => exact settled
  | robots array count sent => exact fun _ => rfl
  | fetchFailed sent =>
      intro some
      have answered := settled some
      rw [sent] at answered
      cases answered
  | status status =>
      intro some
      exact settled fun empty => some (by simp [reducer, empty])
  | editSpeed robot first usable => exact settled
  | speedSet robotId setting =>
      intro some
      exact settled fun empty => some (by simp [reducer, empty])
  | speedFailed setting => exact settled

theorem Tab.Holds.step {store : RobotsState} (holds : tab.Holds store) (settled : tab.Settled)
    (stepped : TabStep tab event after) : after.Holds store := by
  obtain ⟨robot, member, reaches⟩ := holds
  have fetched : tab.fetch = .answered := settled (List.ne_nil_of_mem member)
  cases stepped with
  | mount empty idle => simp [empty] at member
  | remount => exact ⟨robot, member, reaches⟩
  | robots array count sent => simp [fetched] at sent
  | fetchFailed sent => simp [fetched] at sent
  | status status =>
      by_cases same : robot.instanceId = status.id
      · exact Tab.holds_status member same (.earlier _ _ _ member reaches)
      · refine ⟨_, List.mem_map_of_mem member, ?_⟩
        rw [if_neg same]
        exact reaches
  | editSpeed first head usable => exact ⟨robot, member, reaches⟩
  | speedSet robotId setting =>
      refine ⟨_, List.mem_map_of_mem member, ?_⟩
      split
      · exact reaches
      · exact reaches
  | speedFailed setting => exact ⟨robot, member, reaches⟩

theorem run_holds {store : RobotsState} (holds : tab.Holds store) (settled : tab.Settled)
    (ran : run Tab.step tab events = some final) : final.Holds store := by
  have preserved : ∀ before event after, before.Holds store ∧ before.Settled →
      Tab.step before event = some after → after.Holds store ∧ after.Settled :=
    fun before event after holds stepped =>
      ⟨holds.1.step holds.2 (Tab.step_cases stepped), holds.2.step (Tab.step_cases stepped)⟩
  exact (@run_invariant _ _ _ (fun tab : Tab => tab.Holds store ∧ tab.Settled) _ _ _
    ⟨holds, settled⟩ preserved ran).1

theorem path_holds (settled : tab.Settled) (ran : run Tab.step tab events = some final) :
    ∀ transition ∈ path Tab.step tab events,
      transition.before.Updates transition.event → final.Holds transition.before.store := by
  induction events generalizing tab with
  | nil => simp [path]
  | cons event rest ih =>
      cases stepped : tab.step event with
      | none => simp [run, stepped] at ran
      | some next =>
          have caused := Tab.step_cases stepped
          rw [run_cons stepped] at ran
          rw [path_cons stepped, List.forall_mem_cons]
          exact ⟨fun updates => run_holds (updates.holds caused) (settled.step caused) ran,
            ih (settled.step caused) ran⟩

/-- Every store that a status message for a robot of the page has replaced can still be
reached from the page's store, however many messages have come since: the page never
lets go of one. -/
theorem stores_never_released (events : List TabEvent) (tab : Tab)
    (ran : run Tab.step .new events = some tab) :
    ∀ transition ∈ path Tab.step .new events,
      transition.before.Updates transition.event → tab.Holds transition.before.store :=
  path_holds (fun some => absurd rfl some) ran

/-- Two messages for the robot that was fetched. -/
def sampleStatusEvents : List TabEvent := [
  .mount, .robots [sampleRobotData] 1,
  .status ⟨12341234, "toy".toList, "25".toList⟩, .status ⟨12341234, "toy".toList, "26".toList⟩]

theorem sampleStatusEvents_kept :
    ∃ tab, run Tab.step .new sampleStatusEvents = some tab ∧
      ∀ transition ∈ path Tab.step .new sampleStatusEvents,
        transition.before.Updates transition.event → tab.Holds transition.before.store :=
  ⟨_, rfl, stores_never_released sampleStatusEvents _ rfl⟩

end

end ToySystem.Web
