import ToySystem.Machine.StateMachine

namespace ToySystem.Machine

open ToySystem.Data

/-! # Who deletes event data

The engine owns the objects it makes itself, and in the build with heap data
also those its clients hand in.  The invariant is an account of the history of
all objects: between two rounds of the engine loop the only live object that
the engine owns is the one of the pending event.
-/

def Owned (build : Build) : Address → Prop
  | .internal _ => True
  | .client _ | .localData _ => build .externalEventNoHeapData = false

structure EventDataKept (build : Build) (history : List (Operation Address)) : Prop where
  released : ∀ address, Owned build address → .acquire address ∈ history → Released address history
  untouched : ∀ address, ¬ Owned build address → .delete address ∉ history

def RaisesAtMost {Self Data : Type} (count : Nat) (state : StateBase Self Data) : Prop :=
  ∀ self data after raises, state self data = some (after, raises) → raises.length ≤ count

/-- State functions raise at most one event; guard, entry and exit functions none. -/
structure Disciplined {Self Data : Type} (derived : Derived Self Data) : Prop where
  states : ∀ rows, derived.getStateMap = some rows → ∀ row ∈ rows, ∀ state,
    row.state = some state → RaisesAtMost 1 state
  statesEx : ∀ rows, derived.getStateMapEx = some rows → ∀ row ∈ rows, ∀ state,
    row.state = some state → RaisesAtMost 1 state
  guards : ∀ rows, derived.getStateMapEx = some rows → ∀ row ∈ rows, ∀ guard,
    row.guard = some guard → ∀ self data result after raises,
      guard self data = some (result, after, raises) → raises = []
  entries : ∀ rows, derived.getStateMapEx = some rows → ∀ row ∈ rows, ∀ entry,
    row.entry = some entry → RaisesAtMost 0 entry
  exits : ∀ rows, derived.getStateMapEx = some rows → ∀ row ∈ rows, ∀ exit,
    row.exit = some exit → ∀ self, (exit self).2 = []

section

variable {Self Data : Type} {derived : Derived Self Data} {build : Build} {clients : List Nat}
  {owned gone : List Address}

def Accounted (build : Build) (clients : List Nat) (owned gone : List Address)
    (machine : StateMachine Data) : Prop :=
  ∃ seen, Account (Owned build) seen owned gone machine.history ∧
    (∀ index, Address.internal index ∈ seen → index < machine.nextAddress) ∧
    (∀ index, Address.client index ∈ seen → index ∈ clients) ∧
    ∀ address ∈ owned, Owned build address → address ∈ seen

def Idle (build : Build) (clients : List Nat) (owned gone : List Address)
    (machine : StateMachine Data) : Prop :=
  machine.pEventData = none ∧ machine.eventGenerated = false ∧
    Accounted build clients owned gone machine

def Waiting (build : Build) (clients : List Nat) (owned gone : List Address)
    (data : EventData Data) (machine : StateMachine Data) : Prop :=
  machine.pEventData = some data ∧ machine.eventGenerated = true ∧ data.address ∉ owned ∧
    Accounted build clients (data.address :: owned) gone machine

theorem Accounted.use {machine : StateMachine Data} {address : Address}
    (accounted : Accounted build clients owned gone machine) (held : address ∈ owned) :
    Accounted build clients owned gone (machine.note (.use address)) := by
  obtain ⟨seen, account, internals, callers, known⟩ := accounted
  exact ⟨seen, account.use (known address held) held, internals, callers, known⟩

theorem Accounted.allocate {machine : StateMachine Data}
    (accounted : Accounted build clients owned gone machine) (payload : Data) :
    .internal machine.nextAddress ∉ owned ∧
      Accounted build clients (.internal machine.nextAddress :: owned) gone
        (machine.allocate payload).2 := by
  obtain ⟨seen, account, internals, callers, known⟩ := accounted
  have unseen : Address.internal machine.nextAddress ∉ seen :=
    fun member => Nat.lt_irrefl _ (internals _ member)
  refine ⟨fun member => unseen (known _ member trivial), _, account.acquire fun _ => unseen,
    ?_, ?_, ?_⟩
  · intro index member
    rcases List.mem_cons.mp member with same | earlier
    · cases same
      exact Nat.lt_succ_self _
    · exact Nat.lt_succ_of_lt (internals index earlier)
  · intro index member
    rcases List.mem_cons.mp member with same | earlier
    · cases same
    · exact callers index earlier
  · intro address member isOwned
    rcases List.mem_cons.mp member with same | earlier
    · subst same
      exact List.mem_cons_self
    · exact List.mem_cons_of_mem _ (known address earlier isOwned)

theorem Idle.raise {machine : StateMachine Data} (idle : Idle build clients owned gone machine)
    (noEventData : Data) (call : Raise Data) :
    ∃ data, Waiting build clients owned gone data (machine.raise noEventData call) ∧
      Owned build data.address := by
  obtain ⟨newState, pData⟩ := call
  cases pData with
  | none =>
      obtain ⟨absent, accounted⟩ := idle.2.2.allocate noEventData
      exact ⟨_, ⟨rfl, rfl, absent, accounted⟩, trivial⟩
  | some payload =>
      obtain ⟨absent, accounted⟩ := idle.2.2.allocate payload
      exact ⟨_, ⟨rfl, rfl, absent, accounted⟩, trivial⟩

theorem Idle.returned_quietly {config : Config Self Data}
    (idle : Idle build clients owned gone config.machine) (noEventData : Data) (self : Self)
    {raises : List (Raise Data)} (none : raises = []) :
    Idle build clients owned gone (config.returned noEventData self raises).machine := by
  subst raises
  exact idle

theorem Idle.returned {config : Config Self Data}
    (idle : Idle build clients owned gone config.machine) (noEventData : Data) (self : Self)
    {raises : List (Raise Data)} (few : raises.length ≤ 1) :
    Idle build clients owned gone (config.returned noEventData self raises).machine ∨
      ∃ data, Waiting build clients owned gone data
          (config.returned noEventData self raises).machine ∧ Owned build data.address := by
  match raises with
  | [] => exact .inl idle
  | [call] => exact .inr (idle.raise noEventData call)
  | _ :: _ :: _ => simp only [List.length_cons] at few; omega

theorem invokeStateAction_cases {state : StateBase Self Data} {pData : Option (EventData Data)}
    {config after : Config Self Data}
    (invoked : invokeStateAction derived state pData config = .ok after) :
    ∃ data self raises, pData = some data ∧ state config.self data.payload = some (self, raises) ∧
      after = (config.update (.note (.use data.address))).returned derived.noEventData self raises := by
  cases pData with
  | none => simp [invokeStateAction] at invoked
  | some data =>
      simp only [invokeStateAction] at invoked
      split at invoked
      · contradiction
      · rename_i self raises result
        cases invoked
        exact ⟨data, self, raises, rfl, result, rfl⟩

theorem invokeGuardCondition_cases {guard : GuardBase Self Data}
    {pData : Option (EventData Data)} {config after : Config Self Data} {result : Int}
    (invoked : invokeGuardCondition derived guard pData config = .ok (result, after)) :
    ∃ data self raises, pData = some data ∧
      guard config.self data.payload = some (result, self, raises) ∧
      after = (config.update (.note (.use data.address))).returned derived.noEventData self raises := by
  cases pData with
  | none => simp [invokeGuardCondition] at invoked
  | some data =>
      simp only [invokeGuardCondition] at invoked
      split at invoked
      · contradiction
      · rename_i result self raises evaluated
        cases invoked
        exact ⟨data, self, raises, rfl, evaluated, rfl⟩

theorem Idle.use {machine : StateMachine Data} {address : Address}
    (idle : Idle build clients owned gone machine) (held : address ∈ owned) :
    Idle build clients owned gone (machine.note (.use address)) :=
  ⟨idle.1, idle.2.1, idle.2.2.use held⟩

theorem Idle.invokeStateAction {state : StateBase Self Data} {data : EventData Data}
    {config after : Config Self Data} (few : RaisesAtMost 1 state)
    (idle : Idle build clients [data.address] gone config.machine)
    (invoked : invokeStateAction derived state (some data) config = .ok after) :
    Idle build clients [data.address] gone after.machine ∨
      ∃ next, Waiting build clients [data.address] gone next after.machine ∧
        Owned build next.address := by
  obtain ⟨_, self, raises, same, result, shape⟩ := invokeStateAction_cases invoked
  cases same
  subst after
  have used : Idle build clients [data.address] gone
      (config.update (.note (.use data.address))).machine := idle.use List.mem_cons_self
  exact used.returned derived.noEventData self (few _ _ _ _ result)

theorem Idle.invokeEntryAction {entry : EntryBase Self Data} {data : EventData Data}
    {config after : Config Self Data} (none : RaisesAtMost 0 entry)
    (idle : Idle build clients [data.address] gone config.machine)
    (invoked : invokeEntryAction derived entry (some data) config = .ok after) :
    Idle build clients [data.address] gone after.machine := by
  obtain ⟨_, self, raises, same, result, shape⟩ := invokeStateAction_cases invoked
  cases same
  subst after
  have empty : raises = [] := List.length_eq_zero_iff.mp (Nat.le_zero.mp (none _ _ _ _ result))
  exact (idle.use List.mem_cons_self).returned_quietly derived.noEventData self empty

theorem Waiting.takeEvent {machine : StateMachine Data} {data : EventData Data}
    (waiting : Waiting build clients [] gone data machine) :
    Idle build clients [data.address] gone machine.takeEvent :=
  ⟨rfl, rfl, waiting.2.2.2⟩

theorem Idle.setCurrentState {config : Config Self Data}
    (idle : Idle build clients owned gone config.machine) :
    Idle build clients owned gone config.setCurrentState.machine := idle

/-- The flag of the engine loop tells exactly whether the data of the round is
the engine's to delete. -/
def FlagRight (build : Build) (externalEvent : Bool) (data : EventData Data) : Prop :=
  (build .externalEventNoHeapData && externalEvent) = false ↔ Owned build data.address

def LoopInv (build : Build) (clients : List Nat) (gone : List Address) (externalEvent : Bool)
    (machine : StateMachine Data) : Prop :=
  Idle build clients [] gone machine ∨
    ∃ data, Waiting build clients [] gone data machine ∧ FlagRight build externalEvent data

theorem Accounted.discard {config : Config Self Data} {data : EventData Data}
    {externalEvent : Bool} (flag : FlagRight build externalEvent data)
    (accounted : Accounted build clients (data.address :: owned) gone config.machine)
    (single : data.address ∉ owned) :
    Accounted build clients owned gone
      (config.discard build externalEvent (some data)).machine := by
  obtain ⟨seen, account, internals, callers, known⟩ := accounted
  have stillKnown : ∀ address ∈ owned, Owned build address → address ∈ seen :=
    fun address member => known address (List.mem_cons_of_mem _ member)
  by_cases kept : (build .externalEventNoHeapData && externalEvent) = true
  · have stray : ¬ Owned build data.address := by
      intro isOwned
      rw [flag.mpr isOwned] at kept
      contradiction
    simp only [Config.discard, if_pos kept]
    exact ⟨seen, account.forget stray, internals, callers, stillKnown⟩
  · have isOwned : Owned build data.address := flag.mp (by simpa using kept)
    simp only [Config.discard, if_neg kept]
    exact ⟨seen, account.delete isOwned (known _ List.mem_cons_self isOwned) single,
      internals, callers, stillKnown⟩

theorem discard_pending (build : Build) (config : Config Self Data) (externalEvent : Bool)
    (pData : Option (EventData Data)) :
    (config.discard build externalEvent pData).machine.pEventData = config.machine.pEventData ∧
      (config.discard build externalEvent pData).machine.eventGenerated =
        config.machine.eventGenerated := by
  cases pData with
  | none => exact ⟨rfl, rfl⟩
  | some data => simp only [Config.discard]; split <;> exact ⟨rfl, rfl⟩

/-- The end of a round: the data of the event is dealt with, and the loop goes on
with the event that was raised meanwhile, if any. -/
theorem LoopInv.discard {config : Config Self Data} {data : EventData Data}
    {externalEvent : Bool} (flag : FlagRight build externalEvent data)
    (acted : Idle build clients [data.address] gone config.machine ∨
      ∃ next, Waiting build clients [data.address] gone next config.machine ∧
        Owned build next.address) :
    LoopInv build clients gone false
      (config.discard build externalEvent (some data)).machine := by
  obtain ⟨samePending, sameFlag⟩ := discard_pending build config externalEvent (some data)
  rcases acted with idle | ⟨next, waiting, isOwned⟩
  · left
    exact ⟨samePending.trans idle.1, sameFlag.trans idle.2.1,
      idle.2.2.discard flag List.not_mem_nil⟩
  · right
    obtain ⟨pending, generated, different, seen, account, internals, callers, known⟩ := waiting
    have swapped : Accounted build clients [data.address, next.address] gone config.machine := by
      refine ⟨seen, account.congr ?_, internals, callers, ?_⟩
      · intro address
        simp [or_comm]
      · intro address member
        exact known address (by simpa [or_comm] using member)
    have single : data.address ∉ [next.address] := by
      simpa [eq_comm] using different
    refine ⟨next, ⟨samePending.trans pending, sameFlag.trans generated, List.not_mem_nil,
      swapped.discard flag single⟩, ?_⟩
    simp [FlagRight, isOwned]

theorem stateEngineRound_preserves {stateMap : List (StateMapRow Self Data)}
    (disciplined : Disciplined derived) (found : derived.getStateMap = some stateMap)
    {externalEvent : Bool} {config after : Config Self Data} {data : EventData Data}
    (waiting : Waiting build clients [] gone data config.machine)
    (flag : FlagRight build externalEvent data)
    (ran : stateEngineRound derived build stateMap externalEvent config = .ok after) :
    LoopInv build clients gone false after.machine := by
  simp only [stateEngineRound, waiting.1] at ran
  split at ran
  · split at ran
    · rename_i state selected
      cases invoked : invokeStateAction derived state (some data)
          (config.update StateMachine.takeEvent).setCurrentState with
      | error halt => rw [invoked] at ran; contradiction
      | ok acted =>
          rw [invoked] at ran
          cases ran
          have few := disciplined.states stateMap found _ (List.mem_of_getElem? selected) state rfl
          exact LoopInv.discard flag (waiting.takeEvent.setCurrentState.invokeStateAction few invoked)
    · contradiction
  · contradiction

theorem guardResult_idle {rows : List (StateMapRowEx Self Data)} (disciplined : Disciplined derived)
    (found : derived.getStateMapEx = some rows) {row : StateMapRowEx Self Data} (member : row ∈ rows)
    {config after : Config Self Data} {data : EventData Data} {result : Int}
    (idle : Idle build clients [data.address] gone config.machine)
    (guarded : guardResult derived row (some data) config = .ok (result, after)) :
    Idle build clients [data.address] gone after.machine := by
  unfold guardResult at guarded
  cases present : row.guard with
  | none =>
      rw [present] at guarded
      cases guarded
      exact idle
  | some guard =>
      rw [present] at guarded
      obtain ⟨_, self, raises, same, evaluated, shape⟩ := invokeGuardCondition_cases guarded
      cases same
      subst after
      have empty := disciplined.guards rows found row member guard present _ _ _ _ _ evaluated
      exact (idle.use List.mem_cons_self).returned_quietly derived.noEventData self empty

theorem leaveState_idle {rows : List (StateMapRowEx Self Data)} (disciplined : Disciplined derived)
    (found : derived.getStateMapEx = some rows) {current : StateMapRowEx Self Data}
    (member : current ∈ rows) {config : Config Self Data}
    (idle : Idle build clients owned gone config.machine) :
    Idle build clients owned gone (leaveState derived current config).machine := by
  unfold leaveState
  cases present : current.exit with
  | none => exact idle
  | some exit =>
      have empty := disciplined.exits rows found current member exit present config.self
      exact idle.returned_quietly derived.noEventData _ empty

theorem enterState_idle {rows : List (StateMapRowEx Self Data)} (disciplined : Disciplined derived)
    (found : derived.getStateMapEx = some rows) {row : StateMapRowEx Self Data} (member : row ∈ rows)
    {config after : Config Self Data} {data : EventData Data}
    (idle : Idle build clients [data.address] gone config.machine)
    (entered : enterState derived row (some data) config = .ok after) :
    Idle build clients [data.address] gone after.machine := by
  unfold enterState at entered
  cases present : row.entry with
  | none =>
      rw [present] at entered
      cases entered
      exact idle
  | some entry =>
      rw [present] at entered
      exact idle.invokeEntryAction (disciplined.entries rows found row member entry present) entered

theorem changeState_idle {rows : List (StateMapRowEx Self Data)} (disciplined : Disciplined derived)
    (found : derived.getStateMapEx = some rows) {row current : StateMapRowEx Self Data}
    (rowMember : row ∈ rows) (currentMember : current ∈ rows)
    {config after : Config Self Data} {data : EventData Data}
    (idle : Idle build clients [data.address] gone config.machine)
    (changed : changeState derived row current (some data) config = .ok after) :
    Idle build clients [data.address] gone after.machine := by
  unfold changeState at changed
  split at changed
  · cases changed
    exact idle
  · have exited := leaveState_idle disciplined found currentMember idle
    cases entered : enterState derived row (some data) (leaveState derived current config) with
    | error halt => simp [entered] at changed
    | ok next =>
        simp only [entered] at changed
        split at changed
        · contradiction
        · cases changed
          exact enterState_idle disciplined found rowMember exited entered

theorem performTransition_cases {rows : List (StateMapRowEx Self Data)}
    (disciplined : Disciplined derived) (found : derived.getStateMapEx = some rows)
    {row current : StateMapRowEx Self Data} (rowMember : row ∈ rows) (currentMember : current ∈ rows)
    {config after : Config Self Data} {data : EventData Data}
    (idle : Idle build clients [data.address] gone config.machine)
    (performed : performTransition derived row current (some data) config = .ok after) :
    Idle build clients [data.address] gone after.machine ∨
      ∃ next, Waiting build clients [data.address] gone next after.machine ∧
        Owned build next.address := by
  unfold performTransition at performed
  cases changed : changeState derived row current (some data) config with
  | error halt => simp [changed] at performed
  | ok entered =>
      have entryIdle := changeState_idle disciplined found rowMember currentMember idle changed
      simp only [changed] at performed
      cases present : row.state with
      | none => simp [present] at performed
      | some state =>
          simp only [present] at performed
          exact entryIdle.setCurrentState.invokeStateAction
            (disciplined.statesEx rows found row rowMember state present) performed

theorem stateEngineRoundEx_preserves {rows : List (StateMapRowEx Self Data)}
    (disciplined : Disciplined derived) (found : derived.getStateMapEx = some rows)
    {externalEvent : Bool} {config after : Config Self Data} {data : EventData Data}
    (waiting : Waiting build clients [] gone data config.machine)
    (flag : FlagRight build externalEvent data)
    (ran : stateEngineRoundEx derived build rows externalEvent config = .ok after) :
    LoopInv build clients gone false after.machine := by
  simp only [stateEngineRoundEx, waiting.1] at ran
  split at ran
  · split at ran
    · rename_i row current rowSelected currentSelected
      have rowMember := List.mem_of_getElem? rowSelected
      have currentMember := List.mem_of_getElem? currentSelected
      cases guarded : guardResult derived row (some data)
          (config.update StateMachine.takeEvent) with
      | error halt => simp [guarded] at ran
      | ok pair =>
          obtain ⟨result, allowed⟩ := pair
          have guardIdle := guardResult_idle disciplined found rowMember waiting.takeEvent guarded
          simp only [guarded] at ran
          split at ran
          · cases performed : performTransition derived row current (some data) allowed with
            | error halt => rw [performed] at ran; contradiction
            | ok acted =>
                rw [performed] at ran
                cases ran
                exact LoopInv.discard flag (performTransition_cases disciplined found rowMember
                  currentMember guardIdle performed)
          · -- the guard rejected the event, whose data is dealt with all the same
            cases ran
            exact LoopInv.discard flag (.inl guardIdle)
    · contradiction
  · contradiction

theorem stateEngineLoop_idle
    {round : Bool → Config Self Data → Except Halt (Config Self Data)}
    (preserved : ∀ external before after data, Waiting build clients [] gone data before.machine →
      FlagRight build external data → round external before = .ok after →
      LoopInv build clients gone false after.machine)
    {fuel : Nat} {externalEvent : Bool} {config after : Config Self Data}
    (inv : LoopInv build clients gone externalEvent config.machine)
    (ran : stateEngineLoop round fuel externalEvent config = .ok after) :
    Idle build clients [] gone after.machine := by
  induction fuel generalizing externalEvent config with
  | zero =>
      unfold stateEngineLoop at ran
      rcases inv with idle | ⟨data, waiting, _⟩
      · simp only [idle.2.1, Bool.false_eq_true, if_false] at ran
        cases ran
        exact idle
      · simp [waiting.2.1] at ran
  | succ fuel ih =>
      unfold stateEngineLoop at ran
      rcases inv with idle | ⟨data, waiting, flag⟩
      · simp only [idle.2.1, Bool.false_eq_true, if_false] at ran
        cases ran
        exact idle
      · simp only [waiting.2.1, if_true] at ran
        cases first : round externalEvent config with
        | error halt => simp [first] at ran
        | ok next =>
            simp only [first] at ran
            exact ih (preserved _ _ _ _ waiting flag first) ran

theorem stateEngine_idle (disciplined : Disciplined derived) {fuel : Nat}
    {config after : Config Self Data}
    (inv : LoopInv build clients gone true config.machine)
    (ran : stateEngine derived build fuel config = .ok after) :
    Idle build clients [] gone after.machine := by
  unfold stateEngine at ran
  cases found : derived.getStateMap with
  | some stateMap =>
      simp only [found] at ran
      exact stateEngineLoop_idle (fun _ _ _ _ waiting flag =>
        stateEngineRound_preserves disciplined found waiting flag) inv ran
  | none =>
      cases foundEx : derived.getStateMapEx with
      | some rows =>
          simp only [found, foundEx] at ran
          exact stateEngineLoop_idle (fun _ _ _ _ waiting flag =>
            stateEngineRoundEx_preserves disciplined foundEx waiting flag) inv ran
      | none => simp [found, foundEx] at ran

end

end ToySystem.Machine
