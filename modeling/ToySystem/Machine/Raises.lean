import ToySystem.Machine.Ownership

namespace ToySystem.Machine

open ToySystem.Data

/-! # Events raised by guard, exit and entry functions

`engine/README.md` says that these functions cannot call `InternalEvent` without a
runtime error; `StateEngine(const StateMapRowEx*)` asserts that no event was raised
when the state has changed.
-/

namespace StateMachine

variable {Data : Type} (noEventData : Data) (machine : StateMachine Data)

theorem raise_eventGenerated (call : Raise Data) :
    (machine.raise noEventData call).eventGenerated = true := by
  cases data : call.pData with
  | none => rw [raise, data]; rfl
  | some payload => rw [raise, data]; rfl

theorem raise_newState (call : Raise Data) :
    (machine.raise noEventData call).newState = call.newState := by
  cases data : call.pData with
  | none => rw [raise, data]; rfl
  | some payload => rw [raise, data]; rfl

theorem raise_currentState (call : Raise Data) :
    (machine.raise noEventData call).currentState = machine.currentState := by
  cases data : call.pData with
  | none => rw [raise, data]; rfl
  | some payload => rw [raise, data]; rfl

end StateMachine

namespace Config

variable {Self Data : Type} (noEventData : Data) (config : Config Self Data) (self : Self)

/-- An event once raised stays raised, whatever is called. -/
theorem returned_eventGenerated {raises : List (Raise Data)}
    (raised : config.machine.eventGenerated = true ∨ raises ≠ []) :
    (config.returned noEventData self raises).machine.eventGenerated = true := by
  induction raises generalizing config with
  | nil =>
      rcases raised with before | some
      · exact before
      · exact absurd rfl some
  | cons call raises ih =>
      have first := StateMachine.raise_eventGenerated noEventData config.machine call
      exact ih { config with machine := config.machine.raise noEventData call } (.inl first)

theorem returned_currentState (raises : List (Raise Data)) :
    (config.returned noEventData self raises).machine.currentState =
      config.machine.currentState := by
  induction raises generalizing config with
  | nil => rfl
  | cons call raises ih =>
      have first := StateMachine.raise_currentState noEventData config.machine call
      exact (ih { config with machine := config.machine.raise noEventData call }).trans first

/-- The last call decides which state is asked for. -/
theorem returned_newState {raises : List (Raise Data)} {last : Raise Data}
    (isLast : raises.getLast? = some last) :
    (config.returned noEventData self raises).machine.newState = last.newState := by
  obtain ⟨calls, rfl⟩ := List.getLast?_eq_some_iff.mp isLast
  rw [returned, List.foldl_append]
  exact StateMachine.raise_newState noEventData _ last

end Config

section

variable {Self Data : Type} (derived : Derived Self Data) (build : Build)

/-- What the guard of the target answers, leaves and raises. -/
def guardCall (row : StateMapRowEx Self Data) (config : Config Self Data) :
    Option (Int × Self × List (Raise Data)) :=
  row.guard.bind fun guard =>
    config.machine.pEventData.bind fun data => guard config.self data.payload

/-- The guard allowed the round to go on, and it goes to another state. -/
def Moves (row : StateMapRowEx Self Data) (config after : Config Self Data) : Prop :=
  guardResult derived row config.machine.pEventData (config.update StateMachine.takeEvent) =
    .ok (1, after) ∧ after.machine.newState ≠ after.machine.currentState

/-- One of the three functions calls `InternalEvent` in the round. -/
inductive RoundRaises (row current : StateMapRowEx Self Data) (config : Config Self Data) :
    Prop where
  | guard {result : Int} {self : Self} {raises : List (Raise Data)}
      (called : guardCall row config = some (result, self, raises)) (raised : raises ≠ [])
  | exit {after : Config Self Data} {exit : ExitBase Self Data}
      (moves : Moves derived row config after) (present : current.exit = some exit)
      (raised : (exit after.self).2 ≠ [])
  | entry {after : Config Self Data} {entry : EntryBase Self Data} {data : EventData Data}
      {self : Self} {raises : List (Raise Data)}
      (moves : Moves derived row config after) (present : row.entry = some entry)
      (event : config.machine.pEventData = some data)
      (called : entry (leaveState derived current after).self data.payload = some (self, raises))
      (raised : raises ≠ [])

/-- The two rows of a round. -/
structure Rows (stateMap : List (StateMapRowEx Self Data)) (config : Config Self Data)
    (row current : StateMapRowEx Self Data) : Prop where
  valid : config.machine.newState < derived.maxStates
  target : stateMap[config.machine.newState.toNat]? = some row
  source : stateMap[config.machine.currentState.toNat]? = some current

def NoticesRaises (stateMap : List (StateMapRowEx Self Data)) (externalEvent : Bool)
    (config : Config Self Data) : Prop :=
  ∀ row current, Rows derived stateMap config row current →
    RoundRaises derived row current config →
      stateEngineRoundEx derived build stateMap externalEvent config = .error .fault

/-- The state function is missing, or the event data is not of its type. -/
def StateFails (row : StateMapRowEx Self Data) (self : Self) (pData : Option (EventData Data)) :
    Prop :=
  ∀ state ∈ row.state, ∀ data ∈ pData, state self data.payload = none

/-- A guard that raises an event answers `TRUE`, and the state it asks for last is not
the current one (or the state function faults on its own). -/
def GuardNoticed (row : StateMapRowEx Self Data) (config : Config Self Data) : Prop :=
  ∀ result self raises last, guardCall row config = some (result, self, raises) →
    raises.getLast? = some last →
      result = 1 ∧ (last.newState ≠ config.machine.currentState ∨
        StateFails row self config.machine.pEventData)

section

variable {derived : Derived Self Data} {build : Build} {row current : StateMapRowEx Self Data}
  {config after : Config Self Data} {pData : Option (EventData Data)}

theorem invokeStateAction_failed {state : StateBase Self Data} {data : EventData Data}
    (called : state config.self data.payload = none) :
    invokeStateAction derived state (some data) config = .error .fault := by
  have same : state (config.update (.note (.use data.address))).self data.payload = none := called
  simp only [invokeStateAction, same]

theorem invokeStateAction_called {state : StateBase Self Data} {data : EventData Data}
    {outcome : Self × List (Raise Data)}
    (called : state config.self data.payload = some outcome) :
    ∃ after, invokeStateAction derived state (some data) config = .ok after := by
  have same : state (config.update (.note (.use data.address))).self data.payload =
    some outcome := called
  simp only [invokeStateAction, same]
  exact ⟨_, rfl⟩

theorem invokeStateAction_fault {state : StateBase Self Data} {halt : Halt}
    (failed : invokeStateAction derived state pData config = .error halt) : halt = .fault := by
  cases pData with
  | none => exact (Except.error.inj failed).symm
  | some data =>
      cases called : state config.self data.payload with
      | none =>
          rw [invokeStateAction_failed called] at failed
          exact (Except.error.inj failed).symm
      | some outcome =>
          obtain ⟨after, ran⟩ := @invokeStateAction_called _ _ derived config state data _ called
          rw [ran] at failed
          cases failed

theorem leaveState_eventGenerated
    (raised : config.machine.eventGenerated = true ∨
      ∃ exit, current.exit = some exit ∧ (exit config.self).2 ≠ []) :
    (leaveState derived current config).machine.eventGenerated = true := by
  unfold leaveState
  split
  · rename_i absent
    rcases raised with before | ⟨exit, present, _⟩
    · exact before
    · rw [absent] at present
      cases present
  · rename_i exit present
    refine Config.returned_eventGenerated _ _ _ ?_
    rcases raised with before | ⟨other, isExit, some⟩
    · exact .inl before
    · rw [present] at isExit
      cases isExit
      exact .inr some

theorem enterState_eventGenerated
    (raised : config.machine.eventGenerated = true ∨
      ∃ entry data self raises, row.entry = some entry ∧ pData = some data ∧
        entry config.self data.payload = some (self, raises) ∧ raises ≠ [])
    (entered : enterState derived row pData config = .ok after) :
    after.machine.eventGenerated = true := by
  unfold enterState at entered
  split at entered
  · rename_i absent
    cases entered
    rcases raised with before | ⟨entry, _, _, _, present, _⟩
    · exact before
    · rw [absent] at present
      cases present
  · rename_i entry present
    obtain ⟨data, self, raises, event, called, rfl⟩ := invokeStateAction_cases entered
    refine Config.returned_eventGenerated _ _ _ ?_
    rcases raised with before | ⟨_, _, _, _, isEntry, isData, call, some⟩
    · exact .inl before
    · rw [present] at isEntry
      rw [event] at isData
      cases isEntry
      cases isData
      rw [called] at call
      cases call
      exact .inr some

/-- Once a state is left, every raise up to the entry is noticed. -/
theorem performTransition_raised
    (moves : config.machine.newState ≠ config.machine.currentState)
    (raised : config.machine.eventGenerated = true ∨
      (∃ exit, current.exit = some exit ∧ (exit config.self).2 ≠ []) ∨
      ∃ entry data self raises, row.entry = some entry ∧ pData = some data ∧
        entry (leaveState derived current config).self data.payload = some (self, raises) ∧
          raises ≠ []) :
    performTransition derived row current pData config = .error .fault := by
  have faults : changeState derived row current pData config = .error .fault := by
    rw [changeState, if_neg moves]
    cases entered : enterState derived row pData (leaveState derived current config) with
    | error halt =>
        have fault : halt = .fault := by
          unfold enterState at entered
          split at entered
          · cases entered
          · exact invokeStateAction_fault entered
        rw [fault]
    | ok next =>
        have left : (leaveState derived current config).machine.eventGenerated = true ∨
            ∃ entry data self raises, row.entry = some entry ∧ pData = some data ∧
              entry (leaveState derived current config).self data.payload = some (self, raises) ∧
                raises ≠ [] := by
          rcases raised with before | exit | entry
          · exact .inl (leaveState_eventGenerated (.inl before))
          · exact .inl (leaveState_eventGenerated (.inr exit))
          · exact .inr entry
        have pending := enterState_eventGenerated left entered
        simp only [pending, if_true]
  rw [performTransition, faults]

/-- Where the state stays, the state function is all that is left. -/
theorem performTransition_stays
    (stays : config.machine.newState = config.machine.currentState) {data : EventData Data} :
    performTransition derived row current (some data) config = .error .fault ↔
      StateFails row config.self (some data) := by
  have unchanged : changeState derived row current (some data) config = .ok config := by
    rw [changeState, if_pos stays]
  rw [performTransition, unchanged]
  cases present : row.state with
  | none =>
      refine iff_of_true rfl ?_
      intro state isState
      rw [present] at isState
      cases isState
  | some state =>
      have fails : StateFails row config.self (some data) ↔
          state config.self data.payload = none := by
        constructor
        · exact fun all => all state present data rfl
        · intro none other isState event isEvent
          rw [present] at isState
          cases isState
          cases isEvent
          exact none
      rw [fails]
      cases called : state config.self data.payload with
      | none => exact iff_of_true (invokeStateAction_failed called) rfl
      | some outcome =>
          obtain ⟨next, ran⟩ := @invokeStateAction_called _ _ derived config.setCurrentState state
            data outcome called
          refine iff_of_false ?_ (Option.some_ne_none outcome)
          simp only [ran]
          intro same
          cases same

theorem stateEngineRoundEx_rows {stateMap : List (StateMapRowEx Self Data)} {externalEvent : Bool}
    (rows : Rows derived stateMap config row current) :
    stateEngineRoundEx derived build stateMap externalEvent config =
      (guardResult derived row config.machine.pEventData
          (config.update StateMachine.takeEvent)).bind fun guarded =>
        (if guarded.1 = 1 then
            performTransition derived row current config.machine.pEventData guarded.2
          else .ok guarded.2).map
            (Config.discard build externalEvent config.machine.pEventData) := by
  simp only [stateEngineRoundEx, if_pos rows.valid, rows.target, rows.source]
  cases guardResult derived row config.machine.pEventData
      (config.update StateMachine.takeEvent) with
  | error halt => rfl
  | ok guarded => rfl

theorem guardResult_called {result : Int} {self : Self} {raises : List (Raise Data)}
    (called : guardCall row config = some (result, self, raises)) :
    ∃ data, config.machine.pEventData = some data ∧
      guardResult derived row config.machine.pEventData (config.update StateMachine.takeEvent) =
        .ok (result, ((config.update StateMachine.takeEvent).update
          (.note (.use data.address))).returned derived.noEventData self raises) := by
  obtain ⟨guard, present, rest⟩ := Option.bind_eq_some_iff.mp called
  obtain ⟨data, event, evaluated⟩ := Option.bind_eq_some_iff.mp rest
  have same : guard ((config.update StateMachine.takeEvent).update
      (.note (.use data.address))).self data.payload = some (result, self, raises) := evaluated
  refine ⟨data, event, ?_⟩
  simp only [guardResult, present, event, invokeGuardCondition, same]

theorem raised_of_last {raises : List (Raise Data)} {last : Raise Data}
    (isLast : raises.getLast? = some last) : raises ≠ [] := by
  intro none
  rw [none] at isLast
  cases isLast

/-- The configuration that such a guard leaves. -/
theorem guard_raised {result : Int} {self : Self} {raises : List (Raise Data)} {last : Raise Data}
    (called : guardCall row config = some (result, self, raises))
    (isLast : raises.getLast? = some last) :
    ∃ data next, config.machine.pEventData = some data ∧ next.self = self ∧
      next.machine.eventGenerated = true ∧ next.machine.newState = last.newState ∧
      next.machine.currentState = config.machine.currentState ∧
      guardResult derived row config.machine.pEventData (config.update StateMachine.takeEvent) =
        .ok (result, next) := by
  obtain ⟨data, event, evaluated⟩ := @guardResult_called _ _ derived row config _ _ _ called
  have raised := raised_of_last isLast
  refine ⟨data, _, event, rfl, ?_, ?_, ?_, evaluated⟩
  · exact Config.returned_eventGenerated _ _ _ (.inr raised)
  · exact Config.returned_newState _ _ _ isLast
  · exact Config.returned_currentState _ _ _ raises

/-- The round faults exactly if the guard's answer lets it reach an assertion. -/
theorem guard_faults_iff {stateMap : List (StateMapRowEx Self Data)} {externalEvent : Bool}
    (rows : Rows derived stateMap config row current) {result : Int} {self : Self}
    {raises : List (Raise Data)} {last : Raise Data}
    (called : guardCall row config = some (result, self, raises))
    (isLast : raises.getLast? = some last) :
    stateEngineRoundEx derived build stateMap externalEvent config = .error .fault ↔
      result = 1 ∧ (last.newState ≠ config.machine.currentState ∨
        StateFails row self config.machine.pEventData) := by
  obtain ⟨data, next, event, isSelf, pending, asked, stayed, evaluated⟩ :=
    @guard_raised _ _ derived row config _ _ _ _ called isLast
  rw [stateEngineRoundEx_rows rows, evaluated]
  by_cases allowed : result = 1
  · have faults : performTransition derived row current config.machine.pEventData next =
        .error .fault ↔ last.newState ≠ config.machine.currentState ∨
          StateFails row self config.machine.pEventData := by
      by_cases moves : last.newState = config.machine.currentState
      · have stays : next.machine.newState = next.machine.currentState := by
          rw [asked, stayed, moves]
        rw [event, performTransition_stays stays, isSelf]
        exact (or_iff_right (fun other => other moves)).symm
      · have leaves : next.machine.newState ≠ next.machine.currentState := by
          rw [asked, stayed]
          exact moves
        exact iff_of_true (performTransition_raised leaves (.inl pending)) (.inl moves)
    rw [← faults]
    simp only [Except.bind, if_pos allowed]
    cases performed : performTransition derived row current config.machine.pEventData next with
    | error halt => simp [Except.map, allowed]
    | ok after => simp [Except.map]
  · simp only [Except.bind, if_neg allowed]
    refine iff_of_false ?_ (fun both => allowed both.1)
    intro same
    cases same

/-- Raises of the exit and the entry function are always noticed, those of a guard
under its condition. -/
theorem noticesRaises_iff (derived : Derived Self Data) (build : Build)
    (stateMap : List (StateMapRowEx Self Data)) (externalEvent : Bool)
    (config : Config Self Data) :
    NoticesRaises derived build stateMap externalEvent config ↔
      ∀ row current, Rows derived stateMap config row current → GuardNoticed row config := by
  constructor
  · intro notices row current rows result self raises last called isLast
    have raised := raised_of_last isLast
    exact (guard_faults_iff rows called isLast).mp
      (notices row current rows (.guard called raised))
  · intro noticed row current rows raises
    have transition {next : Config Self Data} (moves : Moves derived row config next)
        (raised : (∃ exit, current.exit = some exit ∧ (exit next.self).2 ≠ []) ∨
          ∃ entry data self raises, row.entry = some entry ∧
            config.machine.pEventData = some data ∧
            entry (leaveState derived current next).self data.payload = some (self, raises) ∧
              raises ≠ []) :
        stateEngineRoundEx derived build stateMap externalEvent config = .error .fault := by
      obtain ⟨allowed, leaves⟩ := moves
      rw [stateEngineRoundEx_rows rows, allowed]
      simp only [Except.bind, if_true, performTransition_raised leaves (.inr raised)]
      rfl
    cases raises with
    | @guard result self raises called raised =>
        have isLast := List.getLast?_eq_some_getLast raised
        exact (guard_faults_iff rows called isLast).mpr
          (noticed row current rows result self raises _ called isLast)
    | exit moves present raised => exact transition moves (.inl ⟨_, present, raised⟩)
    | entry moves present event called raised =>
        exact transition moves (.inr ⟨_, _, _, _, present, event, called, raised⟩)

/-- The target's guard asks for the current state and answers `TRUE`. -/
def askingGuard : GuardBase Unit Unit := fun self _ => some (1, self, [⟨0, none⟩])

def plainRow : StateMapRowEx Unit Unit where
  state := some fun self _ => some (self, [])
  guard := none
  entry := none
  exit := none

def askingRow : StateMapRowEx Unit Unit := { plainRow with guard := some askingGuard }

def askingMap : List (StateMapRowEx Unit Unit) := [plainRow, askingRow]

def askingClass : Derived Unit Unit where
  maxStates := 2
  noEventData := ()
  getStateMap := none
  getStateMapEx := some askingMap

/-- An event to state 1 while state 0 is the current one. -/
def askedConfig : Config Unit Unit where
  machine := (StateMachine.initial 0).internalEvent () 1 none
  self := ()

/-- The state function of state 1 runs in state 0, and the event is left for the
next round. -/
theorem not_noticesRaises_asking :
    ¬ ∀ (Self Data : Type) (derived : Derived Self Data) (build : Build)
      (stateMap : List (StateMapRowEx Self Data)) (externalEvent : Bool)
      (config : Config Self Data), NoticesRaises derived build stateMap externalEvent config := by
  intro all
  have rows : Rows askingClass askingMap askedConfig askingRow plainRow := ⟨by decide, rfl, rfl⟩
  have called : guardCall askingRow askedConfig = some (1, (), [⟨0, none⟩]) := rfl
  have raises : RoundRaises askingClass askingRow plainRow askedConfig :=
    .guard called (List.cons_ne_nil _ [])
  have faults := all Unit Unit askingClass .heapData askingMap true askedConfig _ _ rows raises
  have goesOn : ∃ after, stateEngineRoundEx askingClass .heapData askingMap true askedConfig =
      .ok after := ⟨_, rfl⟩
  obtain ⟨after, ran⟩ := goesOn
  rw [ran] at faults
  cases faults

end

end

end ToySystem.Machine
