import ToySystem.Data.Lifecycle

namespace ToySystem.Machine

open ToySystem.Data

/-! # The state engine

`engine/StateMachine.h` and `engine/StateMachine.cpp`.  A derived class is given
by its state map and the functions in it.  A function of the map receives the
members of the derived class (`Self`) and the event data, and returns the new
members together with the `InternalEvent` calls it made, in order; its result
is `none` where the `dynamic_cast` of the event data fails.
-/

def eventIgnored : UInt8 := 0xFE
def cannotHappen : UInt8 := 0xFF

/-- The two preprocessor symbols the source tests.  The second one is spelt as
in `ExternalEvent`, and nothing defines it. -/
inductive Symbol where
  | externalEventNoHeapData
  | exeternalEventNoHeapData
deriving DecidableEq, Repr

abbrev Build := Symbol → Bool

def Build.heapData : Build := fun _ => false

def Build.noHeapData : Build
  | .externalEventNoHeapData => true
  | .exeternalEventNoHeapData => false

/- Event data objects, by where they come from: handed in by a caller of
   `ExternalEvent`, the local `EventData data` there, or made inside the engine. -/
inductive Address where
  | client (index : Nat)
  | localData (index : Nat)
  | internal (index : Nat)
deriving DecidableEq, Repr

structure EventData (Data : Type) where
  address : Address
  payload : Data
deriving DecidableEq, Repr

structure Raise (Data : Type) where
  newState : UInt8
  pData : Option Data
deriving DecidableEq, Repr

abbrev StateBase (Self Data : Type) := Self → Data → Option (Self × List (Raise Data))
abbrev GuardBase (Self Data : Type) := Self → Data → Option (Int × Self × List (Raise Data))
abbrev EntryBase (Self Data : Type) := Self → Data → Option (Self × List (Raise Data))
abbrev ExitBase (Self Data : Type) := Self → Self × List (Raise Data)

structure StateMapRow (Self Data : Type) where
  state : Option (StateBase Self Data)

structure StateMapRowEx (Self Data : Type) where
  state : Option (StateBase Self Data)
  guard : Option (GuardBase Self Data)
  entry : Option (EntryBase Self Data)
  exit : Option (ExitBase Self Data)

structure Derived (Self Data : Type) where
  maxStates : UInt8
  noEventData : Data
  getStateMap : Option (List (StateMapRow Self Data))
  getStateMapEx : Option (List (StateMapRowEx Self Data))

/-- `FaultHandler` traps its thread; `outOfFuel` is the model's own bound on the
rounds of the engine loop. -/
inductive Halt where
  | fault
  | outOfFuel
deriving DecidableEq, Repr

/- The members of `StateMachine`, the allocation counter and, as a history
   variable, what happened to the event data objects so far. -/
structure StateMachine (Data : Type) where
  currentState : UInt8
  newState : UInt8
  eventGenerated : Bool
  pEventData : Option (EventData Data)
  nextAddress : Nat
  history : List (Operation Address)
deriving DecidableEq, Repr

structure Config (Self Data : Type) where
  machine : StateMachine Data
  self : Self
deriving DecidableEq, Repr

namespace StateMachine

variable {Data : Type}

def initial (initialState : UInt8) : StateMachine Data where
  currentState := initialState
  newState := 0
  eventGenerated := false
  pEventData := none
  nextAddress := 0
  history := []

def note (operation : Operation Address) (machine : StateMachine Data) : StateMachine Data :=
  { machine with history := machine.history ++ [operation] }

def allocate (payload : Data) (machine : StateMachine Data) : EventData Data × StateMachine Data :=
  let address := Address.internal machine.nextAddress
  (⟨address, payload⟩,
    { machine with nextAddress := machine.nextAddress + 1 }.note (.acquire address))

def internalEvent (noEventData : Data) (newState : UInt8) (pData : Option (EventData Data))
    (machine : StateMachine Data) : StateMachine Data :=
  let (data, machine) :=
    match pData with
    | none => machine.allocate noEventData
    | some data => (data, machine)
  { machine with pEventData := some data, eventGenerated := true, newState }

def raise (noEventData : Data) (machine : StateMachine Data) (call : Raise Data) :
    StateMachine Data :=
  match call.pData with
  | none => machine.internalEvent noEventData call.newState none
  | some payload =>
      let (data, machine) := machine.allocate payload
      machine.internalEvent noEventData call.newState (some data)

def takeEvent (machine : StateMachine Data) : StateMachine Data :=
  { machine with pEventData := none, eventGenerated := false }

end StateMachine

namespace Config

variable {Self Data : Type}

def update (change : StateMachine Data → StateMachine Data) (config : Config Self Data) :
    Config Self Data :=
  { config with machine := change config.machine }

@[simp]
theorem update_machine (change : StateMachine Data → StateMachine Data)
    (config : Config Self Data) : (config.update change).machine = change config.machine := rfl

def returned (noEventData : Data) (config : Config Self Data) (self : Self)
    (raises : List (Raise Data)) : Config Self Data where
  machine := raises.foldl (StateMachine.raise noEventData) config.machine
  self := self

def setCurrentState (config : Config Self Data) : Config Self Data :=
  config.update fun machine => { machine with currentState := machine.newState }

def discard (build : Build) (externalEvent : Bool) (pDataTemp : Option (EventData Data))
    (config : Config Self Data) : Config Self Data :=
  match pDataTemp with
  | none => config
  | some data =>
      if build .externalEventNoHeapData && externalEvent then config
      else config.update (.note (.delete data.address))

end Config

section

variable {Self Data : Type} (derived : Derived Self Data) (build : Build)

def invokeStateAction (state : StateBase Self Data) (pData : Option (EventData Data))
    (config : Config Self Data) : Except Halt (Config Self Data) :=
  match pData with
  | none => .error .fault
  | some data =>
      let config := config.update (.note (.use data.address))
      match state config.self data.payload with
      | none => .error .fault
      | some (self, raises) => .ok (config.returned derived.noEventData self raises)

def invokeGuardCondition (guard : GuardBase Self Data) (pData : Option (EventData Data))
    (config : Config Self Data) : Except Halt (Int × Config Self Data) :=
  match pData with
  | none => .error .fault
  | some data =>
      let config := config.update (.note (.use data.address))
      match guard config.self data.payload with
      | none => .error .fault
      | some (result, self, raises) => .ok (result, config.returned derived.noEventData self raises)

/-- `EntryAction` repeats `StateAction` word for word. -/
def invokeEntryAction (entry : EntryBase Self Data) (pData : Option (EventData Data))
    (config : Config Self Data) : Except Halt (Config Self Data) :=
  invokeStateAction derived entry pData config

def invokeExitAction (exit : ExitBase Self Data) (config : Config Self Data) : Config Self Data :=
  let (self, raises) := exit config.self
  config.returned derived.noEventData self raises

/-- One round of `StateEngine(const StateMapRow*)`.  An index outside the map
is counted as a fault. -/
def stateEngineRound (stateMap : List (StateMapRow Self Data)) (externalEvent : Bool)
    (config : Config Self Data) : Except Halt (Config Self Data) :=
  if config.machine.newState < derived.maxStates then
    match stateMap[config.machine.newState.toNat]? with
    | some { state := some state } =>
        let pDataTemp := config.machine.pEventData
        let config := (config.update StateMachine.takeEvent).setCurrentState
        (invokeStateAction derived state pDataTemp config).map
          (Config.discard build externalEvent pDataTemp)
    | _ => .error .fault
  else .error .fault

def leaveState (current : StateMapRowEx Self Data) (config : Config Self Data) :
    Config Self Data :=
  match current.exit with
  | none => config
  | some exit => invokeExitAction derived exit config

def enterState (row : StateMapRowEx Self Data) (pDataTemp : Option (EventData Data))
    (config : Config Self Data) : Except Halt (Config Self Data) :=
  match row.entry with
  | none => .ok config
  | some entry => invokeEntryAction derived entry pDataTemp config

/-- The block of `if(m_newState != m_currentState)`. -/
def changeState (row current : StateMapRowEx Self Data) (pDataTemp : Option (EventData Data))
    (config : Config Self Data) : Except Halt (Config Self Data) :=
  if config.machine.newState = config.machine.currentState then .ok config
  else
    match enterState derived row pDataTemp (leaveState derived current config) with
    | .error halt => .error halt
    | .ok config => if config.machine.eventGenerated then .error .fault else .ok config

/-- The guard of a row; a missing one is `TRUE`. -/
def guardResult (row : StateMapRowEx Self Data) (pDataTemp : Option (EventData Data))
    (config : Config Self Data) : Except Halt (Int × Config Self Data) :=
  match row.guard with
  | none => .ok (1, config)
  | some guard => invokeGuardCondition derived guard pDataTemp config

/-- What a round does once the guard allowed it.  The new state is read again
from the member, which a guard could have changed. -/
def performTransition (row current : StateMapRowEx Self Data)
    (pDataTemp : Option (EventData Data)) (config : Config Self Data) :
    Except Halt (Config Self Data) :=
  match changeState derived row current pDataTemp config with
  | .error halt => .error halt
  | .ok config =>
      match row.state with
      | none => .error .fault
      | some state => invokeStateAction derived state pDataTemp config.setCurrentState

/-- One round of `StateEngine(const StateMapRowEx*)`. -/
def stateEngineRoundEx (stateMap : List (StateMapRowEx Self Data)) (externalEvent : Bool)
    (config : Config Self Data) : Except Halt (Config Self Data) :=
  if config.machine.newState < derived.maxStates then
    match stateMap[config.machine.newState.toNat]?, stateMap[config.machine.currentState.toNat]? with
    | some row, some current =>
        let pDataTemp := config.machine.pEventData
        match guardResult derived row pDataTemp (config.update StateMachine.takeEvent) with
        | .error halt => .error halt
        | .ok (result, config) =>
            (if result = 1 then performTransition derived row current pDataTemp config
              else .ok config).map (Config.discard build externalEvent pDataTemp)
    | _, _ => .error .fault
  else .error .fault

/-- `while(m_eventGenerated)`; the flag `externalEvent` is true in the first
round only. -/
def stateEngineLoop (round : Bool → Config Self Data → Except Halt (Config Self Data)) :
    Nat → Bool → Config Self Data → Except Halt (Config Self Data)
  | 0, _, config => if config.machine.eventGenerated then .error .outOfFuel else .ok config
  | fuel + 1, externalEvent, config =>
      if config.machine.eventGenerated then
        match round externalEvent config with
        | .error halt => .error halt
        | .ok config => stateEngineLoop round fuel false config
      else .ok config

def stateEngine (fuel : Nat) (config : Config Self Data) : Except Halt (Config Self Data) :=
  match derived.getStateMap, derived.getStateMapEx with
  | some stateMap, _ => stateEngineLoop (stateEngineRound derived build stateMap) fuel true config
  | none, some stateMapEx =>
      stateEngineLoop (stateEngineRoundEx derived build stateMapEx) fuel true config
  | none, none => .error .fault

def handOver (pData : Option (EventData Data)) (config : Config Self Data) : Config Self Data :=
  match pData with
  | none => config
  | some data => config.update (.note (.acquire data.address))

/-- `EventData data; if(pData == NULL) pData = &data;` in the build without
heap data. -/
def defaultData (pData : Option (EventData Data)) (config : Config Self Data) :
    Option (EventData Data) × Config Self Data :=
  match build .externalEventNoHeapData, pData with
  | true, none =>
      (some ⟨.localData config.machine.nextAddress, derived.noEventData⟩,
        config.update fun machine => { machine with nextAddress := machine.nextAddress + 1 })
  | _, _ => (pData, config)

def externalEvent (fuel : Nat) (newState : UInt8) (pData : Option (EventData Data))
    (config : Config Self Data) : Except Halt (Config Self Data) :=
  let config := handOver pData config
  if newState = eventIgnored then
    match build .exeternalEventNoHeapData, pData with
    | false, some data => .ok (config.update (.note (.delete data.address)))
    | _, _ => .ok config
  else
    let (pData, config) := defaultData derived build pData config
    stateEngine derived build fuel
      (config.update (.internalEvent derived.noEventData newState pData))

end

end ToySystem.Machine
