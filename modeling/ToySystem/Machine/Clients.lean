import ToySystem.Machine.Ownership

namespace ToySystem.Machine

open ToySystem.Data

/-! # Event data across calls of `ExternalEvent`

The test for ignored events asks for a symbol that no build defines, so the
build without heap data deletes the client's object there.  Everywhere else
both builds delete what they own and nothing else.
-/

/-- One call of `ExternalEvent`: the target state, and the client's object with
the number the client knows it by. -/
structure Call (Data : Type) where
  newState : UInt8
  pData : Option (Nat × Data)
deriving DecidableEq, Repr

namespace Call

variable {Data : Type}

def eventData (call : Call Data) : Option (EventData Data) :=
  call.pData.map fun (index, payload) => ⟨.client index, payload⟩

def clients (call : Call Data) : List Nat :=
  (call.pData.map Prod.fst).toList

/-- The client's object of an ignored event, where the build says it is not the
engine's to delete. -/
def strays (build : Build) (call : Call Data) : List Address :=
  if build .externalEventNoHeapData = true ∧ call.newState = eventIgnored then
    call.clients.map .client
  else []

end Call

section

variable {Self Data : Type} {derived : Derived Self Data} {build : Build} {clients : List Nat}
  {gone : List Address}

def CallsReturn (derived : Derived Self Data) (build : Build) :
    Config Self Data → List (Call Data) → Config Self Data → Prop
  | config, [], final => final = config
  | config, call :: calls, final => ∃ fuel next,
      externalEvent derived build fuel call.newState call.eventData config = .ok next ∧
        CallsReturn derived build next calls final

theorem Accounted.handOver {config : Config Self Data} {index : Nat} (payload : Data)
    (accounted : Accounted build clients [] gone config.machine)
    (unseen : build .externalEventNoHeapData = false → index ∉ clients) :
    Accounted build (index :: clients) [.client index] gone
      (handOver (some ⟨.client index, payload⟩) config).machine := by
  obtain ⟨seen, account, internals, callers, _⟩ := accounted
  refine ⟨.client index :: seen, account.acquire ?_, ?_, ?_, ?_⟩
  · intro isOwned member
    exact unseen isOwned (callers index member)
  · intro internal member
    exact internals internal (by simpa using member)
  · intro client member
    rcases List.mem_cons.mp member with same | earlier
    · cases same
      exact List.mem_cons_self
    · exact List.mem_cons_of_mem _ (callers client earlier)
  · intro address member _
    rw [List.mem_singleton.mp member]
    exact List.mem_cons_self

theorem flagRight_client (build : Build) (index : Nat) (payload : Data) :
    FlagRight build true ⟨.client index, payload⟩ := by
  simp [FlagRight, Owned]

theorem ignoredEvent_idle {config : Config Self Data} {index : Nat} (payload : Data)
    (idle : Idle build clients [] gone config.machine)
    (unseen : build .externalEventNoHeapData = false → index ∉ clients) :
    Idle build (index :: clients) []
      (if build .externalEventNoHeapData = true then .client index :: gone else gone)
      ((handOver (some ⟨.client index, payload⟩) config).machine.note
        (.delete (.client index))) := by
  obtain ⟨quiet, flag, accounted⟩ := idle
  obtain ⟨seen, account, internals, callers, known⟩ := accounted.handOver payload unseen
  refine ⟨quiet, flag, seen, ?_, internals, callers, by simp⟩
  by_cases noHeap : build .externalEventNoHeapData = true
  · have stray : ¬ Owned build (.client index) := by simp [Owned, noHeap]
    rw [if_pos noHeap]
    exact (account.forget stray).deleteStray stray
  · have isOwned : Owned build (.client index) := by simpa [Owned] using noHeap
    rw [if_neg noHeap]
    exact account.delete isOwned (known _ List.mem_cons_self isOwned) List.not_mem_nil

theorem defaultEvent_loopInv {config : Config Self Data} (newState : UInt8)
    (idle : Idle build clients [] gone config.machine) :
    LoopInv build clients gone true
      ((defaultData derived build none config).2.machine.internalEvent derived.noEventData
        newState (defaultData derived build none config).1) := by
  right
  obtain ⟨_, _, accounted⟩ := idle
  cases noHeap : build .externalEventNoHeapData with
  | true =>
      simp only [defaultData, noHeap]
      refine ⟨_, ⟨rfl, rfl, List.not_mem_nil, ?_⟩, ?_⟩
      · obtain ⟨seen, account, internals, callers, _⟩ := accounted
        have stray : ¬ Owned build (.localData config.machine.nextAddress) := by
          simp [Owned, noHeap]
        refine ⟨seen, account.adopt stray, ?_, callers, ?_⟩
        · intro index member
          exact Nat.lt_succ_of_lt (internals index member)
        · intro address member isOwned
          rw [List.mem_singleton.mp member] at isOwned
          contradiction
      · simp [FlagRight, Owned]
  | false =>
      simp only [defaultData, noHeap]
      refine ⟨_, ⟨rfl, rfl, List.not_mem_nil, (accounted.allocate derived.noEventData).2⟩, ?_⟩
      simp [FlagRight, Owned, noHeap]

theorem Idle.externalEvent (disciplined : Disciplined derived)
    (supported : build .exeternalEventNoHeapData = false) {fuel : Nat} (call : Call Data)
    {config after : Config Self Data} (idle : Idle build clients [] gone config.machine)
    (unseen : build .externalEventNoHeapData = false → ∀ index ∈ call.clients, index ∉ clients)
    (ran : externalEvent derived build fuel call.newState call.eventData config = .ok after) :
    Idle build (call.clients ++ clients) [] (call.strays build ++ gone) after.machine := by
  obtain ⟨newState, pData⟩ := call
  simp only [Machine.externalEvent, supported] at ran
  cases pData with
  | none =>
      by_cases ignored : newState = eventIgnored
      · simp only [Call.eventData, Option.map_none, ignored, if_true] at ran
        cases ran
        simpa [Call.clients, Call.strays, handOver] using idle
      · simp only [Call.eventData, Option.map_none, ignored, if_false] at ran
        have left := stateEngine_idle disciplined (defaultEvent_loopInv newState idle) ran
        simpa [Call.clients, Call.strays] using left
  | some pair =>
      obtain ⟨index, payload⟩ := pair
      have fresh : build .externalEventNoHeapData = false → index ∉ clients := by
        intro heap
        exact unseen heap index (by simp [Call.clients])
      by_cases ignored : newState = eventIgnored
      · simp only [Call.eventData, Option.map_some, ignored, if_true] at ran
        cases ran
        have left := ignoredEvent_idle payload idle fresh
        by_cases noHeap : build .externalEventNoHeapData = true
        · simpa [Call.clients, Call.strays, ignored, noHeap] using left
        · simpa [Call.clients, Call.strays, ignored, noHeap] using left
      · simp only [Call.eventData, Option.map_some, ignored, if_false] at ran
        have given : defaultData derived build (some ⟨.client index, payload⟩)
            (handOver (some ⟨.client index, payload⟩) config) =
            (some ⟨.client index, payload⟩,
              handOver (some ⟨.client index, payload⟩) config) := by
          cases noHeap : build .externalEventNoHeapData <;> simp [defaultData, noHeap]
        rw [given] at ran
        have pending : LoopInv build (index :: clients) gone true
            ((handOver (some ⟨.client index, payload⟩) config).machine.internalEvent
              derived.noEventData newState (some ⟨.client index, payload⟩)) :=
          .inr ⟨_, ⟨rfl, rfl, List.not_mem_nil, idle.2.2.handOver payload fresh⟩,
            flagRight_client build index payload⟩
        have left := stateEngine_idle disciplined pending ran
        simpa [Call.clients, Call.strays, ignored] using left

/-- After any calls no event is pending, and the objects that were deleted
without being the engine's are those of the ignored events. -/
theorem CallsReturn.idle (disciplined : Disciplined derived)
    (supported : build .exeternalEventNoHeapData = false) {calls : List (Call Data)}
    {config final : Config Self Data} (idle : Idle build clients [] gone config.machine)
    (unseen : build .externalEventNoHeapData = false →
      (calls.flatMap Call.clients).Nodup ∧ ∀ index ∈ calls.flatMap Call.clients, index ∉ clients)
    (returned : CallsReturn derived build config calls final) :
    ∃ served lost, Idle build served [] lost final.machine ∧
      ∀ address, address ∈ lost ↔ address ∈ gone ∨ ∃ call ∈ calls, address ∈ call.strays build := by
  induction calls generalizing clients gone config with
  | nil =>
      cases returned
      exact ⟨clients, gone, idle, by simp⟩
  | cons call calls ih =>
      obtain ⟨fuel, next, ran, rest⟩ := returned
      simp only [List.flatMap_cons, List.nodup_append, List.mem_append] at unseen
      have after := idle.externalEvent disciplined supported call
        (fun heap index member => (unseen heap).2 index (.inl member)) ran
      obtain ⟨served, lost, settled, shape⟩ := ih after
        (by
          intro heap
          refine ⟨(unseen heap).1.2.1, ?_⟩
          intro index member inEarlier
          rcases List.mem_append.mp inEarlier with inCall | inClients
          · exact (unseen heap).1.2.2 index inCall index member rfl
          · exact (unseen heap).2 index (.inr member) inClients)
        rest
      refine ⟨served, lost, settled, fun address => ?_⟩
      rw [shape address, List.mem_append, List.exists_mem_cons_iff]
      tauto

theorem Idle.eventDataKept {machine : StateMachine Data}
    (idle : Idle build clients [] gone machine) :
    EventDataKept build machine.history ↔ ∀ address ∈ gone, Owned build address := by
  obtain ⟨seen, account, _⟩ := idle.2.2
  constructor
  · intro kept address isGone
    by_contra stray
    exact kept.untouched address stray ((account.strays address stray).mpr isGone)
  · intro allOwned
    refine ⟨fun address isOwned acquired => account.released isOwned acquired, ?_⟩
    intro address stray deleted
    exact stray (allOwned address ((account.strays address stray).mp deleted))

theorem initial_idle {Data : Type} (build : Build) (initialState : UInt8) :
    Idle build [] [] [] (StateMachine.initial initialState : StateMachine Data) :=
  ⟨rfl, rfl, [], Account.empty, by simp, by simp, by simp⟩

theorem strays_owned_iff (calls : List (Call Data)) :
    (∀ call ∈ calls, ∀ address ∈ call.strays build, Owned build address) ↔
      build .externalEventNoHeapData = false ∨
        ∀ call ∈ calls, call.newState = eventIgnored → call.pData = none := by
  cases noHeap : build .externalEventNoHeapData with
  | false => simp [Call.strays, noHeap]
  | true =>
      simp only [Bool.true_eq_false, false_or]
      apply forall₂_congr
      intro call _
      by_cases ignored : call.newState = eventIgnored
      · cases given : call.pData <;>
          simp [Call.strays, Call.clients, Owned, noHeap, ignored, given]
      · simp [Call.strays, ignored]

/-- In the heap build an object is handed over once, since the engine deletes it. -/
theorem eventData_kept_iff (disciplined : Disciplined derived)
    (supported : build = .heapData ∨ build = .noHeapData) {initialState : UInt8} {self : Self}
    {calls : List (Call Data)} {final : Config Self Data}
    (handedOnce : build = .heapData → (calls.flatMap Call.clients).Nodup)
    (returned : CallsReturn derived build ⟨.initial initialState, self⟩ calls final) :
    EventDataKept build final.machine.history ↔
      build = .heapData ∨ ∀ call ∈ calls, call.newState = eventIgnored → call.pData = none := by
  have undefinedSymbol : build .exeternalEventNoHeapData = false := by
    rcases supported with heap | noHeap
    · rw [heap]; rfl
    · rw [noHeap]; rfl
  have heapIff : build .externalEventNoHeapData = false ↔ build = .heapData := by
    rcases supported with heap | noHeap
    · simp [heap, Build.heapData]
    · have different : Build.noHeapData ≠ Build.heapData := by
        intro same
        exact absurd (congrFun same .externalEventNoHeapData) (by decide)
      rw [noHeap]
      exact ⟨fun value => absurd value (by decide), fun same => absurd same different⟩
  obtain ⟨served, lost, idle, shape⟩ := returned.idle disciplined undefinedSymbol
    (initial_idle build initialState)
    (fun heap => ⟨handedOnce (heapIff.mp heap), by simp⟩)
  rw [idle.eventDataKept, ← heapIff, ← strays_owned_iff]
  constructor
  · intro allOwned call member address stray
    exact allOwned address ((shape address).mpr (.inr ⟨call, member, stray⟩))
  · intro allOwned address isLost
    rcases (shape address).mp isLost with none | ⟨call, member, stray⟩
    · exact absurd none List.not_mem_nil
    · exact allOwned call member address stray

/-- Two states; entering the second one raises an event back to the first. -/
def bounce : Derived Unit Unit where
  maxStates := 2
  noEventData := ()
  getStateMap := some
    [⟨some fun _ _ => some ((), [])⟩, ⟨some fun _ _ => some ((), [⟨0, none⟩])⟩]
  getStateMapEx := none

theorem bounce_disciplined : Disciplined bounce := by
  constructor
  · intro rows found row member state present self data after raises result
    cases found
    simp only [List.mem_cons, List.not_mem_nil, or_false] at member
    rcases member with rfl | rfl
    · cases present
      cases result
      exact Nat.zero_le 1
    · cases present
      cases result
      exact Nat.le_refl 1
  all_goals
    intro rows found
    cases found

theorem bounce_kept : ∃ final,
    CallsReturn bounce .noHeapData ⟨.initial 0, ()⟩
        [⟨1, some (0, ())⟩, ⟨eventIgnored, none⟩] final ∧
      EventDataKept .noHeapData final.machine.history := by
  have returned : CallsReturn bounce .noHeapData ⟨.initial 0, ()⟩
      [⟨1, some (0, ())⟩, ⟨eventIgnored, none⟩] _ := ⟨2, _, rfl, 0, _, rfl, rfl⟩
  refine ⟨_, returned, ?_⟩
  exact (eventData_kept_iff bounce_disciplined (.inr rfl) (fun _ => by decide) returned).mpr
    (.inr (by decide))

theorem ignoredEvent_deletes_client : ∃ final,
    Disciplined bounce ∧
      CallsReturn bounce .noHeapData ⟨.initial 0, ()⟩ [⟨eventIgnored, some (0, ())⟩] final ∧
      ¬ EventDataKept .noHeapData final.machine.history := by
  refine ⟨_, bounce_disciplined, ⟨0, _, rfl, rfl⟩, ?_⟩
  intro kept
  have stray : ¬ Owned .noHeapData (.client 0) := by simp [Owned, Build.noHeapData]
  exact kept.untouched (.client 0) stray (by decide)

end

end ToySystem.Machine
