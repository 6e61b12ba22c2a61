import ToySystem.Drivers.ClickPreemption

namespace ToySystem.Drivers.Click

open ToySystem.Data ToySystem.Kernel

/-! # The click driver on a clock

Handlers run one at a time here, and the clock decides which of them can run: a
timer's callback from the millisecond for which the timer was set, and before
that millisecond is more than `late` milliseconds past.  Nothing bounds the gaps
between presses.
-/

/-- The driver and the clock.  `started`, `handled` and `dark` are history variables: when
the last on-sequence was started, whose LED timers' callbacks have run since, and
whether an action that turns all LEDs off came after the last one that turns LEDs on. -/
structure TimedClick where
  clock : Nat
  driver : ClickDriver
  started : Option Nat
  handled : Fin 4 → Bool
  dark : Bool

inductive TimedEvent where
  | press
  | expiry
  | ledExpiry (timer : LedTimer)
  | elapse (milliseconds : Nat)
deriving DecidableEq, Repr

def timedInit : TimedClick where
  clock := 0
  driver := toyDriverInit
  started := none
  handled _ := false
  dark := false

def due (clock : Nat) (timer : TimerList) : Bool := timer.pending && timer.expires ≤ clock

def ledTimers : List LedTimer :=
  (List.finRange 4).map LedTimer.on ++ (List.finRange 4).map LedTimer.off

/-- No timer would be handled too late. -/
def mayPass (late clock : Nat) (driver : ClickDriver) : Bool :=
  (driver.clickTimer :: ledTimers.map driver.leds.timers).all fun timer =>
    !timer.pending || clock ≤ timer.expires + late

/-- The driver as an event's call of `click_timer_callback` finds it. -/
def callbackEntry (driver : ClickDriver) : TimedEvent → Option ClickDriver
  | .press =>
      if driver.clickCount = 1 then
        some { driver with
          clickCount := 2
          presses := driver.presses + 1
          clickTimer := delTimer driver.clickTimer }
      else none
  | .expiry => some { driver with clickTimer := delTimer driver.clickTimer }
  | .ledExpiry _ | .elapse _ => none

/-- What `click_timer_callback` makes of the count. -/
def dispatchedInput (driver : ClickDriver) : Option Input :=
  if driver.clickCount = 1 then some .swOn
  else if driver.clickCount = 2 then some .tOut
  else none

def dispatchedAction (driver : ClickDriver) (event : TimedEvent) : Option Action :=
  (callbackEntry driver event).bind fun entry =>
    (dispatchedInput entry).map fun input => (stateMachineTable entry.leds.state input).action

def startedAfter (clock : Nat) (started : Option Nat) : Option Action → Option Nat
  | some .leftOn => some clock
  | _ => started

theorem startedAfter_other {clock : Nat} {started : Option Nat} {action : Action}
    (other : action ≠ .leftOn) : startedAfter clock started (some action) = started := by
  cases action with
  | leftOn => exact absurd rfl other
  | nop | leftOff | allOn | allOff | left4On | left6On | resetTimer => rfl

def handledAfter (handled : Fin 4 → Bool) (event : TimedEvent) : Option Action → Fin 4 → Bool
  | some .leftOn => fun _ => false
  | _ =>
      match event with
      | .ledExpiry (.on led) => Function.update handled led true
      | _ => handled

def darkAfter (dark : Bool) : Option Action → Bool
  | some .leftOn | some .allOn | some .left4On | some .left6On => false
  | some .allOff | some .resetTimer => true
  | some .nop | some .leftOff | none => dark

def handle (clock : Nat) (driver : ClickDriver) : TimedEvent → ClickDriver
  | .press => buttonIsr clock driver
  | .expiry => clickTimerCallback clock { driver with clickTimer := delTimer driver.clickTimer }
  | .ledExpiry timer => driver.onLeds (ledTimerCallback timer)
  | .elapse _ => driver

def enabled (late : Nat) (system : TimedClick) : TimedEvent → Bool
  | .press => true
  | .expiry => due system.clock system.driver.clickTimer
  | .ledExpiry timer => due system.clock (system.driver.leds.timers timer)
  | .elapse milliseconds => mayPass late (system.clock + milliseconds) system.driver

def passed : TimedEvent → Nat
  | .elapse milliseconds => milliseconds
  | .press | .expiry | .ledExpiry _ => 0

def timedStep (late : Nat) (system : TimedClick) (event : TimedEvent) : Option TimedClick :=
  if enabled late system event then
    some {
      clock := system.clock + passed event
      driver := handle system.clock system.driver event
      started := startedAfter system.clock system.started (dispatchedAction system.driver event)
      handled := handledAfter system.handled event (dispatchedAction system.driver event)
      dark := darkAfter system.dark (dispatchedAction system.driver event) }
  else none

/-- The timers that an action's loop sets up. -/
def sequenceOf : Action → List (LedTimer × Nat)
  | .leftOn => ledOnSequence
  | .leftOff => ledOffSequence
  | .nop | .allOn | .allOff | .left4On | .left6On | .resetTimer => []

theorem sequenceOf_eq_nil {action : Action} (notOn : action ≠ .leftOn) (notOff : action ≠ .leftOff) :
    sequenceOf action = [] := by
  cases action with
  | leftOn => exact absurd rfl notOn
  | leftOff => exact absurd rfl notOff
  | nop | allOn | allOff | left4On | left6On | resetTimer => rfl

theorem sequenceOf_nodup (action : Action) : ((sequenceOf action).map Prod.fst).Nodup := by
  cases action <;> decide

section

variable (now : Nat) {leds : Leds} {timer : LedTimer}

theorem startLedTimer_other {other : LedTimer} (different : other ≠ timer) (delay : Nat) :
    (startLedTimer now timer delay leds).timers other = leds.timers other := by
  simp [startLedTimer, Leds.setTimer, different]

theorem writeCode_sets_up_nothing {writes : List (Nat × Bool)} {reached : Leds} :
    ¬ Executes (ledExec now) (writeCode writes) leds (.timerSetup timer) reached := by
  induction writes generalizing leds with
  | nil => exact not_executes_nil
  | cons write writes ih =>
      intro executes
      rcases executes_cons.mp executes with ⟨same, _⟩ | run
      · cases same
      · exact ih run

/-- A loop sets its timers up one after the other, each as it was before the loop. -/
theorem sequenceCode_sets_up {sequence : List (LedTimer × Nat)}
    (distinct : (sequence.map Prod.fst).Nodup) :
    (∃ reached, Executes (ledExec now) (sequenceCode sequence) leds (.timerSetup timer) reached ∧
        (reached.timers timer).pending = true) ↔
      timer ∈ sequence.map Prod.fst ∧ (leds.timers timer).pending = true := by
  induction sequence generalizing leds with
  | nil => simp [sequenceCode, not_executes_nil]
  | cons entry sequence ih =>
      obtain ⟨first, delay⟩ := entry
      rw [List.map_cons, List.nodup_cons] at distinct
      obtain ⟨notLater, distinct⟩ := distinct
      have code : ∀ reached, Executes (ledExec now) (sequenceCode ((first, delay) :: sequence)) leds
          (.timerSetup timer) reached ↔ timer = first ∧ reached = leds ∨
            Executes (ledExec now) (sequenceCode sequence) (startLedTimer now first delay leds)
              (.timerSetup timer) reached := by
        intro reached
        rw [show sequenceCode ((first, delay) :: sequence) = .timerSetup first ::
          .modTimer first delay :: sequenceCode sequence from rfl, executes_cons]
        simp only [LedStatement.timerSetup.injEq]
        apply or_congr Iff.rfl
        rw [show (ledExec now (.timerSetup first) leds).2 = [] from rfl, List.nil_append,
          executes_cons]
        simp only [reduceCtorEq, false_and, false_or]
        rfl
      simp only [code, or_and_right, exists_or, and_assoc, exists_and_left, exists_eq_left]
      rw [ih distinct, List.map_cons, List.mem_cons]
      by_cases here : timer = first
      · subst timer
        simp [notLater]
      · rw [startLedTimer_other now here]
        simp [here]

theorem actionCode_sets_up (action : Action) :
    (∃ reached, Executes (ledExec now) (actionCode action) leds (.timerSetup timer) reached ∧
        (reached.timers timer).pending = true) ↔
      timer ∈ (sequenceOf action).map Prod.fst ∧ (leds.timers timer).pending = true := by
  cases action with
  | leftOn => exact sequenceCode_sets_up now (sequenceOf_nodup .leftOn)
  | leftOff => exact sequenceCode_sets_up now (sequenceOf_nodup .leftOff)
  | nop => simp [actionCode, sequenceOf, not_executes_nil]
  | allOn | allOff | left4On | left6On =>
      simp [actionCode, sequenceOf, writeCode_sets_up_nothing]
  | resetTimer =>
      simp [actionCode, sequenceOf, (writeCode_finishes now (setBitLed 0x00) leds).executes_append,
        writeCode_sets_up_nothing, executes_cons, ledExec, not_executes_nil]

theorem lookUp_sets_up (input : Input) :
    (∃ reached, Executes (ledExec now) [.lookUp input] leds (.timerSetup timer) reached ∧
        (reached.timers timer).pending = true) ↔
      timer ∈ (sequenceOf (stateMachineTable leds.state input).action).map Prod.fst ∧
        (leds.timers timer).pending = true := by
  have action := @actionCode_sets_up now
    { leds with state := (stateMachineTable leds.state input).nextState } timer
    (stateMachineTable leds.state input).action
  rw [← action]
  simp [executes_cons, ledExec]

variable {driver : ClickDriver}

theorem callStateMachine_sets_up (input : Input) :
    (∃ reached, Executes (exec now) ([.leds (.lookUp input)] ++ [.clearCount])
        (driver.dispatch input) (.leds (.timerSetup timer)) reached ∧
        (reached.leds.timers timer).pending = true) ↔
      timer ∈ (sequenceOf (stateMachineTable driver.leds.state input).action).map Prod.fst ∧
        (driver.leds.timers timer).pending = true := by
  have inner : ∀ reached, Executes (exec now) ([.lookUp input].map Statement.leds)
      (driver.dispatch input) (.leds (.timerSetup timer)) reached ↔
        ∃ leds, Executes (ledExec now) [.lookUp input] (driver.dispatch input).leds
          (.timerSetup timer) leds ∧ reached = { driver.dispatch input with leds } :=
    fun _ => executes_map Statement.leds (fun leds => { driver.dispatch input with leds })
      (fun _ _ => rfl) (fun _ _ => Statement.leds.inj)
      (lookUp_finishes now input (driver.dispatch input).leds)
  have cleared : ∀ driver reached, ¬ Executes (exec now) [.clearCount] driver
      (.leds (.timerSetup timer)) reached := by
    simp [executes_cons, exec, not_executes_nil]
  have sameLeds : (driver.dispatch input).leds = driver.leds := by cases input <;> rfl
  simp only [(callStateMachine_finishes now input driver).executes_append, cleared, or_false]
  rw [← lookUp_sets_up now, ← sameLeds]
  constructor
  · rintro ⟨reached, executes, pending⟩
    obtain ⟨leds, run, rfl⟩ := (inner reached).mp executes
    exact ⟨leds, run, pending⟩
  · rintro ⟨leds, run, pending⟩
    exact ⟨_, (inner _).mpr ⟨leds, run, rfl⟩, pending⟩

theorem callbackCode_sets_up :
    (∃ reached, Executes (exec now) callbackCode driver (.leds (.timerSetup timer)) reached ∧
        (reached.leds.timers timer).pending = true) ↔
      ∃ input, dispatchedInput driver = some input ∧
        timer ∈ (sequenceOf (stateMachineTable driver.leds.state input).action).map Prod.fst ∧
        (driver.leds.timers timer).pending = true := by
  simp only [callbackCode, executes_cons, reduceCtorEq, false_and, false_or, exec]
  unfold dispatchedInput
  by_cases single : driver.clickCount = 1
  · simpa only [if_pos single, Option.some.injEq, exists_eq_left'] using
      callStateMachine_sets_up now .swOn
  · by_cases double : driver.clickCount = 2
    · simpa [if_neg single, if_pos double, executes_cons, exec] using
        callStateMachine_sets_up now .tOut
    · simp [if_neg single, if_neg double, executes_cons, exec, not_executes_nil]

end

/-- The click count and its timer between two events. -/
structure Clicked (driver : ClickDriver) : Prop where
  few : driver.clickCount ≤ 1
  clicked : driver.clickTimer.pending = true → driver.clickCount = 1

/-- An event that calls the state machine: the expiry of the click timer after a
single click, or the second press of a double click. -/
structure Dispatches (now : Nat) (driver : ClickDriver) (event : TimedEvent) (input : Input) :
    Prop where
  entry : ∃ entry, callbackEntry driver event = some entry ∧ dispatchedInput entry = some input ∧
    entry.leds = driver.leds
  leds : (handle now driver event).leds = stateMachine now input driver.leds
  instant : passed event = 0

theorem Dispatches.action {now : Nat} {driver : ClickDriver} {event : TimedEvent} {input : Input}
    (dispatches : Dispatches now driver event input) :
    dispatchedAction driver event = some (stateMachineTable driver.leds.state input).action := by
  obtain ⟨entry, called, dispatched, sameLeds⟩ := dispatches.entry
  simp [dispatchedAction, called, dispatched, sameLeds]

section

variable (now : Nat) {driver : ClickDriver}

theorem press_cases (counts : Clicked driver) :
    Clicked (handle now driver .press) ∧
      (Dispatches now driver .press .tOut ∨
        dispatchedAction driver .press = none ∧ (handle now driver .press).leds = driver.leds) := by
  by_cases second : driver.clickCount = 1
  · constructor
    · constructor <;> simp [handle, buttonIsr_second now second, delTimer]
    · exact .inl {
        entry := ⟨_, if_pos second, by simp [dispatchedInput], rfl⟩
        leds := by simp [handle, buttonIsr_second now second]
        instant := rfl }
  · have first : driver.clickCount = 0 := by
      have := counts.few
      omega
    constructor
    · constructor <;> simp [handle, buttonIsr_first now first]
    · exact .inr ⟨by simp [dispatchedAction, callbackEntry, first],
        by simp [handle, buttonIsr_first now first]⟩

theorem expiry_cases (counts : Clicked driver) (pending : driver.clickTimer.pending = true) :
    Clicked (handle now driver .expiry) ∧ Dispatches now driver .expiry .swOn := by
  have single := counts.clicked pending
  have callback : handle now driver .expiry = { driver with
      clickCount := 0
      clickTimer := delTimer driver.clickTimer
      leds := stateMachine now .swOn driver.leds
      swOns := driver.swOns + 1 } := by
    simp [handle, clickTimerCallback, single, callStateMachine, ClickDriver.dispatch,
      ClickDriver.onLeds]
  constructor
  · constructor <;> simp [callback, delTimer]
  · exact {
      entry := ⟨_, rfl, by simp [dispatchedInput, single], rfl⟩
      leds := by rw [callback]
      instant := rfl }

end

section

variable (now : Nat) {leds : Leds} {timer : LedTimer} {sequence : List (LedTimer × Nat)}

theorem startSequence_other (absent : timer ∉ sequence.map Prod.fst) :
    (startSequence now sequence leds).timers timer = leds.timers timer := by
  induction sequence generalizing leds with
  | nil => rfl
  | cons entry sequence ih =>
      rw [List.map_cons, List.mem_cons, not_or] at absent
      exact (ih absent.2).trans (startLedTimer_other now absent.1 entry.2)

theorem startSequence_mem {delay : Nat} (distinct : (sequence.map Prod.fst).Nodup)
    (member : (timer, delay) ∈ sequence) :
    (startSequence now sequence leds).timers timer = modTimer (now + delay) := by
  induction sequence generalizing leds with
  | nil => cases member
  | cons entry sequence ih =>
      rw [List.map_cons, List.nodup_cons] at distinct
      rcases List.mem_cons.mp member with rfl | later
      · have set : (startLedTimer now timer delay leds).timers timer = modTimer (now + delay) := by
          simp [startLedTimer, Leds.setTimer]
        exact (startSequence_other now distinct.1).trans set
      · exact ih distinct.2 later

theorem ledTimerCallback_timers (expired : LedTimer) :
    (ledTimerCallback expired leds).timers timer =
      if timer = expired then delTimer (leds.timers expired) else leds.timers timer := by
  cases expired <;> rfl

theorem performAction_timers {action : Action} (absent : timer ∉ (sequenceOf action).map Prod.fst) :
    (performAction now action leds).timers timer = leds.timers timer := by
  cases action with
  | leftOn | leftOff => exact startSequence_other now absent
  | nop | allOn | allOff | left4On | left6On | resetTimer => rfl

theorem performAction_leftOn (led : Fin 4) :
    (performAction now .leftOn leds).timers (.on led) = modTimer (now + 200 * led) := by
  apply startSequence_mem now (sequenceOf_nodup .leftOn)
  revert led
  decide

theorem performAction_state (action : Action) : (performAction now action leds).state =
    if action = .resetTimer then initialState else leds.state := by
  have kept : ∀ sequence leds, (startSequence now sequence leds).state = leds.state := by
    intro sequence
    induction sequence with
    | nil => exact fun _ => rfl
    | cons entry sequence ih => exact fun leds => ih (startLedTimer now entry.1 entry.2 leds)
  cases action with
  | leftOn | leftOff => exact kept _ leds
  | nop | allOn | allOff | left4On | left6On | resetTimer => rfl

end

/-- The states that the table reaches without the input `SW_OFF`, which is never
dispatched. -/
abbrev Reached (state : State) : Prop := state.val ≠ 2 ∧ state.val ≠ 5

theorem Reached.next {state : State} (reached : Reached state) {input : Input}
    (dispatched : input ≠ .swOff) : (stateMachineTable state input).action ≠ .leftOff ∧
      Reached (stateMachineTable state input).nextState := by
  cases input with
  | swOff => exact absurd rfl dispatched
  | swOn | tOut => revert state; decide

theorem sequenceOf_swOn {state : State} (starts : state.val = 0 ∨ state.val = 1) :
    sequenceOf (stateMachineTable state .swOn).action = ledOnSequence := by
  revert state
  decide

theorem Reached.swOn_quiet {state : State} (reached : Reached state)
    (rests : ¬ (state.val = 0 ∨ state.val = 1)) :
    sequenceOf (stateMachineTable state .swOn).action = [] := by
  revert state
  decide

theorem Reached.tOut_quiet {state : State} (reached : Reached state) :
    sequenceOf (stateMachineTable state .tOut).action = [] := by
  revert state
  decide

/-- A timer of the last on-sequence, `delay` milliseconds after its start, is
still pending and not yet too late, or its time has come. -/
structure OnSchedule (late clock : Nat) (started : Option Nat) (delay : Nat) (timer : TimerList) :
    Prop where
  ahead : timer.pending = true →
    ∃ start ∈ started, timer.expires = start + delay ∧ clock ≤ start + delay + late
  past : timer.pending = false → ∀ start ∈ started, start + delay ≤ clock

section

variable {late clock delay : Nat} {started : Option Nat} {timer : TimerList}

theorem OnSchedule.expire (schedule : OnSchedule late clock started delay timer)
    (isDue : due clock timer = true) : OnSchedule late clock started delay (delTimer timer) := by
  simp only [due, Bool.and_eq_true, decide_eq_true_eq] at isDue
  obtain ⟨start, isStart, expires, _⟩ := schedule.ahead isDue.1
  constructor
  · intro pending
    cases pending
  · intro _ start' isStart'
    have same : start' = start := Option.mem_unique isStart' isStart
    omega

theorem OnSchedule.elapse (schedule : OnSchedule late clock started delay timer)
    {milliseconds : Nat} (inTime : timer.pending = true → clock + milliseconds ≤ timer.expires + late) :
    OnSchedule late (clock + milliseconds) started delay timer := by
  constructor
  · intro pending
    obtain ⟨start, isStart, expires, _⟩ := schedule.ahead pending
    have bound := inTime pending
    exact ⟨start, isStart, expires, by omega⟩
  · intro idle start isStart
    have before := schedule.past idle start isStart
    omega

end

structure OnClock (late : Nat) (system : TimedClick) : Prop where
  counts : Clicked system.driver
  reached : Reached system.driver.leds.state
  sequence : ∀ led : Fin 4,
    OnSchedule late system.clock system.started (200 * led) (system.driver.leds.timers (.on led))
  handled : system.started.isSome = true → ∀ led : Fin 4,
    system.handled led = !(system.driver.leds.timers (.on led)).pending
  off : ∀ led : Fin 4, (system.driver.leds.timers (.off led)).pending = false

theorem OnClock.init (late : Nat) : OnClock late timedInit where
  counts := ⟨by decide, by decide⟩
  reached := by decide
  sequence := fun _ => {
    ahead := fun pending => by cases pending
    past := fun _ _ none => by cases none }
  handled := fun started => by cases started
  off := fun _ => rfl

section

variable {late : Nat} {system after : TimedClick}

theorem timedStep_eq_some {event : TimedEvent} (stepped : timedStep late system event = some after) :
    enabled late system event = true ∧ after = {
      clock := system.clock + passed event
      driver := handle system.clock system.driver event
      started := startedAfter system.clock system.started (dispatchedAction system.driver event)
      handled := handledAfter system.handled event (dispatchedAction system.driver event)
      dark := darkAfter system.dark (dispatchedAction system.driver event) } := by
  unfold timedStep at stepped
  split at stepped
  · rename_i isEnabled
    exact ⟨isEnabled, (Option.some.inj stepped).symm⟩
  · contradiction

theorem handledAfter_dispatch {handled : Fin 4 → Bool} {event : TimedEvent} {action : Action}
    (other : action ≠ .leftOn) {driver : ClickDriver} {P : ClickDriver → Prop}
    (dispatches : ∃ entry, callbackEntry driver event = some entry ∧ P entry) :
    handledAfter handled event (some action) = handled := by
  obtain ⟨entry, called, _⟩ := dispatches
  cases event with
  | ledExpiry timer => cases called
  | elapse milliseconds => cases called
  | press | expiry =>
      cases action with
      | leftOn => exact absurd rfl other
      | nop | leftOff | allOn | allOff | left4On | left6On | resetTimer => rfl

theorem OnClock.dispatch (onClock : OnClock late system) {event : TimedEvent} {input : Input}
    (dispatches : Dispatches system.clock system.driver event input) (used : input ≠ .swOff)
    (counts : Clicked (handle system.clock system.driver event))
    (stepped : timedStep late system event = some after) : OnClock late after := by
  obtain ⟨_, rfl⟩ := timedStep_eq_some stepped
  obtain ⟨notOff, nextReached⟩ := onClock.reached.next used
  rw [dispatches.action, dispatches.instant]
  have leds := dispatches.leds
  simp only [stateMachine] at leds
  generalize stateMachineTable system.driver.leds.state input = sm at *
  have reached : Reached (handle system.clock system.driver event).leds.state := by
    rw [leds, performAction_state]
    split
    · decide
    · exact nextReached
  by_cases starts : sm.action = .leftOn
  · rw [starts] at leds ⊢
    constructor
    · exact counts
    · exact reached
    · intro led
      rw [leds, performAction_leftOn]
      have early : system.clock + 0 ≤ system.clock + 200 * led + late := by omega
      exact ⟨fun _ => ⟨system.clock, rfl, rfl, early⟩, fun idle => by cases idle⟩
    · intro _ led
      rw [leds, performAction_leftOn]
      rfl
    · intro led
      rw [leds, performAction_timers system.clock (by revert led; decide)]
      exact onClock.off led
  · have nothing : sequenceOf sm.action = [] := sequenceOf_eq_nil starts notOff
    have sameTimers : ∀ timer, (handle system.clock system.driver event).leds.timers timer =
        system.driver.leds.timers timer := by
      intro timer
      rw [leds, performAction_timers system.clock (by simp [nothing])]
    constructor
    · exact counts
    · exact reached
    · intro led
      rw [sameTimers, startedAfter_other starts]
      exact onClock.sequence led
    · intro started led
      rw [startedAfter_other starts] at started
      rw [sameTimers, handledAfter_dispatch starts dispatches.entry]
      exact onClock.handled started led
    · intro led
      rw [sameTimers]
      exact onClock.off led

theorem OnClock.ledExpiry (onClock : OnClock late system) {timer : LedTimer}
    (stepped : timedStep late system (.ledExpiry timer) = some after) :
    OnClock late after ∧ ∃ led, timer = .on led ∧
      (system.driver.leds.timers (.on led)).pending = true := by
  obtain ⟨isDue, rfl⟩ := timedStep_eq_some stepped
  cases timer with
  | off led =>
      have idle := onClock.off led
      simp [enabled, due, idle] at isDue
  | on led =>
      have timers : ∀ timer, (ledTimerCallback (.on led) system.driver.leds).timers timer =
          if timer = .on led then delTimer (system.driver.leds.timers (.on led))
          else system.driver.leds.timers timer :=
        fun _ => ledTimerCallback_timers (.on led)
      constructor
      · constructor
        · exact ⟨onClock.counts.few, onClock.counts.clicked⟩
        · exact onClock.reached
        · intro other
          change OnSchedule late system.clock system.started (200 * other)
            ((ledTimerCallback (.on led) system.driver.leds).timers (.on other))
          rw [timers]
          split
          · rename_i same
            cases same
            exact (onClock.sequence led).expire isDue
          · exact onClock.sequence other
        · intro started other
          change Function.update system.handled led true other =
            !((ledTimerCallback (.on led) system.driver.leds).timers (.on other)).pending
          rw [timers]
          by_cases same : other = led
          · subst same
            simp [delTimer]
          · simp [same, onClock.handled started other]
        · intro other
          exact (congrArg TimerList.pending (timers (.off other))).trans (onClock.off other)
      · simp only [enabled, due, Bool.and_eq_true] at isDue
        exact ⟨led, rfl, isDue.1⟩

theorem mayPass_on {clock : Nat} {driver : ClickDriver} (passes : mayPass late clock driver = true)
    (led : Fin 4) (pending : (driver.leds.timers (.on led)).pending = true) :
    clock ≤ (driver.leds.timers (.on led)).expires + late := by
  have inTime := List.all_eq_true.mp passes (driver.leds.timers (.on led))
    (List.mem_cons_of_mem _ (List.mem_map_of_mem (List.mem_append_left _
      (List.mem_map_of_mem (List.mem_finRange led)))))
  simpa [pending] using inTime

theorem OnClock.elapse (onClock : OnClock late system) {milliseconds : Nat}
    (stepped : timedStep late system (.elapse milliseconds) = some after) :
    OnClock late after := by
  obtain ⟨passes, rfl⟩ := timedStep_eq_some stepped
  constructor
  · exact onClock.counts
  · exact onClock.reached
  · exact fun led => (onClock.sequence led).elapse (mayPass_on passes led)
  · exact onClock.handled
  · exact onClock.off

theorem OnClock.press (onClock : OnClock late system)
    (stepped : timedStep late system .press = some after) : OnClock late after := by
  obtain ⟨counts, dispatches | ⟨quiet, sameLeds⟩⟩ := press_cases system.clock onClock.counts
  · exact onClock.dispatch dispatches (by decide) counts stepped
  · obtain ⟨_, rfl⟩ := timedStep_eq_some stepped
    rw [quiet]
    constructor
    · exact counts
    · rw [sameLeds]
      exact onClock.reached
    · rw [sameLeds]
      exact onClock.sequence
    · rw [sameLeds]
      exact onClock.handled
    · rw [sameLeds]
      exact onClock.off

theorem OnClock.expiry (onClock : OnClock late system)
    (stepped : timedStep late system .expiry = some after) :
    OnClock late after ∧ Dispatches system.clock system.driver .expiry .swOn := by
  have isDue := (timedStep_eq_some stepped).1
  simp only [enabled, due, Bool.and_eq_true] at isDue
  obtain ⟨counts, dispatches⟩ := expiry_cases system.clock onClock.counts isDue.1
  exact ⟨onClock.dispatch dispatches (by decide) counts stepped, dispatches⟩

theorem OnClock.step (onClock : OnClock late system) {event : TimedEvent}
    (stepped : timedStep late system event = some after) : OnClock late after := by
  cases event with
  | press => exact onClock.press stepped
  | expiry => exact (onClock.expiry stepped).1
  | ledExpiry timer => exact (onClock.ledExpiry stepped).1
  | elapse milliseconds => exact onClock.elapse stepped

/-- The last on-sequence is over: more than `600 + late` milliseconds after its start it
is certain to be, and from 600 milliseconds on it is if all its callbacks have run. -/
def SequenceOver (late : Nat) (system : TimedClick) : Prop :=
  ∀ start ∈ system.started, start + 600 + late < system.clock ∨ start + 600 ≤ system.clock ∧
    ∀ led : Fin 4, system.handled led = true

instance (late : Nat) (system : TimedClick) : Decidable (SequenceOver late system) :=
  inferInstanceAs (Decidable (∀ start ∈ system.started, _ ∨ _ ∧ _))

theorem OnClock.sequenceOver_iff (onClock : OnClock late system) : SequenceOver late system ↔
    ∀ led : Fin 4, (system.driver.leds.timers (.on led)).pending = false := by
  constructor
  · intro ended led
    by_contra pending
    rw [Bool.not_eq_false] at pending
    obtain ⟨start, started, _, early⟩ := (onClock.sequence led).ahead pending
    rcases ended start started with past | ⟨_, handled⟩
    · have := led.isLt
      omega
    · have ran := onClock.handled (Option.isSome_of_mem started) led
      simp [handled led, pending] at ran
  · intro idle start started
    refine .inr ⟨(onClock.sequence (Fin.last 3)).past (idle (Fin.last 3)) start started, ?_⟩
    intro led
    rw [onClock.handled (Option.isSome_of_mem started) led, idle led]
    rfl

end

/-- Every call of `timer_setup` that the event leads to finds its timer idle. -/
def SetupsIdle (system : TimedClick) (event : TimedEvent) : Prop :=
  ∀ entry ∈ callbackEntry system.driver event, ∀ timer driver,
    Executes (exec system.clock) callbackCode entry (.leds (.timerSetup timer)) driver →
      (driver.leds.timers timer).pending = false

/-- A single click in the states 0 and 1, which starts an on-sequence, comes
after the end of the sequence before it. -/
def StartsRested (late : Nat) (system : TimedClick) (event : TimedEvent) : Prop :=
  event = .expiry → system.driver.leds.state.val = 0 ∨ system.driver.leds.state.val = 1 →
    SequenceOver late system

section

variable {system after : TimedClick} {event : TimedEvent}

theorem setupsIdle_iff : SetupsIdle system event ↔
    ∀ entry ∈ callbackEntry system.driver event, ∀ input ∈ dispatchedInput entry,
      ∀ timer ∈ (sequenceOf (stateMachineTable entry.leds.state input).action).map Prod.fst,
        (entry.leds.timers timer).pending = false := by
  apply forall₂_congr
  intro entry _
  constructor
  · intro idle input dispatched timer inSequence
    by_contra pending
    rw [Bool.not_eq_false] at pending
    obtain ⟨driver, executes, found⟩ :=
      (callbackCode_sets_up system.clock).mpr ⟨input, dispatched, inSequence, pending⟩
    simp [idle timer driver executes] at found
  · intro idle timer driver executes
    by_contra pending
    rw [Bool.not_eq_false] at pending
    obtain ⟨input, dispatched, inSequence, found⟩ :=
      (callbackCode_sets_up system.clock).mp ⟨driver, executes, pending⟩
    simp [idle input dispatched timer inSequence] at found

theorem setupsIdle_of_quiet (quiet : dispatchedAction system.driver event = none) :
    SetupsIdle system event := by
  rw [setupsIdle_iff]
  intro entry called input dispatched
  simp [dispatchedAction, Option.mem_def.mp called, Option.mem_def.mp dispatched] at quiet

theorem Dispatches.setupsIdle_iff {input : Input}
    (dispatches : Dispatches system.clock system.driver event input) :
    SetupsIdle system event ↔
      ∀ timer ∈ (sequenceOf (stateMachineTable system.driver.leds.state input).action).map Prod.fst,
        (system.driver.leds.timers timer).pending = false := by
  obtain ⟨entry, called, dispatched, sameLeds⟩ := dispatches.entry
  rw [Click.setupsIdle_iff, ← sameLeds]
  simp [called, dispatched]

theorem OnClock.setupsIdle_iff {late : Nat} (onClock : OnClock late system)
    (stepped : timedStep late system event = some after) :
    SetupsIdle system event ↔ StartsRested late system event := by
  have reached := onClock.reached
  cases event with
  | press =>
      have idle : SetupsIdle system .press := by
        obtain ⟨_, dispatches | ⟨quiet, _⟩⟩ := press_cases system.clock onClock.counts
        · rw [dispatches.setupsIdle_iff, reached.tOut_quiet]
          simp
        · exact setupsIdle_of_quiet quiet
      exact iff_of_true idle (fun isExpiry => by cases isExpiry)
  | expiry =>
      rw [(onClock.expiry stepped).2.setupsIdle_iff]
      by_cases starts : system.driver.leds.state.val = 0 ∨ system.driver.leds.state.val = 1
      · simp only [StartsRested, starts, forall_const, onClock.sequenceOver_iff]
        rw [sequenceOf_swOn starts, show ledOnSequence.map Prod.fst = (List.finRange 4).map LedTimer.on from rfl,
          List.forall_mem_map]
        simp
      · rw [reached.swOn_quiet starts]
        exact iff_of_true (by simp) (fun _ started => absurd started starts)
  | ledExpiry timer | elapse milliseconds =>
      exact iff_of_true (setupsIdle_of_quiet rfl) (fun isExpiry => by cases isExpiry)

end

theorem setups_idle_iff (late : Nat) (events : List TimedEvent) :
    (∀ transition ∈ path (timedStep late) timedInit events,
        SetupsIdle transition.before transition.event) ↔
      ∀ transition ∈ path (timedStep late) timedInit events,
        StartsRested late transition.before transition.event := by
  apply path_forall_iff (OnClock.init late)
  · exact fun _ _ _ onClock stepped => onClock.setupsIdle_iff stepped
  · exact fun _ _ _ onClock stepped _ => onClock.step stepped

/-- Two single clicks, the second of which is dispatched 501 milliseconds after
the sequence of the first was started. -/
def hastyClicks : List TimedEvent :=
  [.press, .elapse 500, .expiry, .ledExpiry (ledOnTimer 0), .elapse 1, .press, .elapse 199,
    .ledExpiry (ledOnTimer 1), .elapse 200, .ledExpiry (ledOnTimer 2), .elapse 101, .expiry]

theorem pending_timer_set_up : ¬ ∀ late events,
    ∀ transition ∈ path (timedStep late) timedInit events,
      SetupsIdle transition.before transition.event := by
  intro idle
  have last := idle 0 hastyClicks _ (List.mem_of_getLast? rfl)
  rw [setupsIdle_iff] at last
  have found := last _ rfl .swOn (by decide) (.on 3) (by decide)
  exact absurd found (by decide)

/-- `ACTION_ALL_OFF` and `ACTION_RESET_TIMER` run after the end of the last
on-sequence. -/
def DarkensRested (late : Nat) (system : TimedClick) (event : TimedEvent) : Prop :=
  dispatchedAction system.driver event = some .allOff ∨
      dispatchedAction system.driver event = some .resetTimer →
    SequenceOver late system

instance (late : Nat) (system : TimedClick) (event : TimedEvent) :
    Decidable (DarkensRested late system event) :=
  inferInstanceAs (Decidable (_ ∨ _ → _))

def AllDark (gpio : Gpio) : Prop := ∀ led < 8, gpio (ledPin led) = false

theorem allDark_setBitLed (gpio : Gpio) : AllDark (gpioWrite (setBitLed 0x00) gpio) := by
  intro led bound
  have written : ∀ led < 8, (ledPin led, false) ∈ setBitLed 0x00 := by decide
  have onlyDark : ∀ write ∈ setBitLed 0x00, write.2 = false := by decide
  exact gpioWrite_mem (written led bound) (fun write member _ => onlyDark write member) gpio

/-- In the dark no LED-on timer is left over. -/
structure Darkness (late : Nat) (system : TimedClick) : Prop where
  onClock : OnClock late system
  dark : system.dark = true → AllDark system.driver.leds.gpio ∧
    ∀ led : Fin 4, (system.driver.leds.timers (.on led)).pending = false

section

variable {late : Nat} {before after : TimedClick}

theorem Darkness.dispatch (darkness : Darkness late before) {event : TimedEvent} {input : Input}
    (dispatches : Dispatches before.clock before.driver event input) (used : input ≠ .swOff)
    (rested : DarkensRested late before event)
    (stepped : timedStep late before event = some after) : Darkness late after := by
  have onClock := darkness.onClock.step stepped
  have notOff := (darkness.onClock.reached.next used).1
  obtain ⟨_, rfl⟩ := timedStep_eq_some stepped
  refine ⟨onClock, ?_⟩
  have leds := dispatches.leds
  simp only [stateMachine] at leds
  simp only [DarkensRested, dispatches.action, Option.some.injEq,
    darkness.onClock.sequenceOver_iff] at rested
  rw [dispatches.action, leds]
  generalize stateMachineTable before.driver.leds.state input = sm at *
  cases action : sm.action with
  | leftOn | allOn | left4On | left6On =>
      intro dark
      cases dark
  | leftOff => exact absurd action notOff
  | nop => exact darkness.dark
  | allOff => exact fun _ => ⟨allDark_setBitLed _, rested (.inl action)⟩
  | resetTimer => exact fun _ => ⟨allDark_setBitLed _, rested (.inr action)⟩

theorem Darkness.step (darkness : Darkness late before) {event : TimedEvent}
    (rested : DarkensRested late before event)
    (stepped : timedStep late before event = some after) : Darkness late after := by
  have onClock := darkness.onClock
  cases event with
  | press =>
      obtain ⟨_, dispatches | ⟨quiet, sameLeds⟩⟩ := press_cases before.clock onClock.counts
      · exact darkness.dispatch dispatches (by decide) rested stepped
      · refine ⟨onClock.press stepped, ?_⟩
        obtain ⟨_, rfl⟩ := timedStep_eq_some stepped
        rw [quiet, sameLeds]
        exact darkness.dark
  | expiry =>
      exact darkness.dispatch (onClock.expiry stepped).2 (by decide) rested stepped
  | ledExpiry timer =>
      obtain ⟨onClockAfter, led, rfl, pending⟩ := onClock.ledExpiry stepped
      refine ⟨onClockAfter, ?_⟩
      obtain ⟨_, rfl⟩ := timedStep_eq_some stepped
      intro dark
      have idle := (darkness.dark dark).2 led
      simp [pending] at idle
  | elapse milliseconds =>
      refine ⟨onClock.elapse stepped, ?_⟩
      obtain ⟨_, rfl⟩ := timedStep_eq_some stepped
      exact darkness.dark

/-- A timer left over in the dark lights its LED. -/
theorem leftover_lights {led : Fin 4} (dark : before.dark = true)
    (stepped : timedStep late before (.ledExpiry (.on led)) = some after) :
    after.dark = true ∧ ¬ AllDark after.driver.leds.gpio := by
  obtain ⟨_, rfl⟩ := timedStep_eq_some stepped
  refine ⟨dark, ?_⟩
  intro allDark
  have lit := allDark led (by omega)
  simp [handle, ClickDriver.onLeds, ledTimerCallback, Leds.write] at lit

end

theorem all_off_stays_off (late : Nat) (events : List TimedEvent)
    (rested : ∀ transition ∈ path (timedStep late) timedInit events,
      DarkensRested late transition.before transition.event) :
    ∀ system ∈ visited (timedStep late) timedInit events,
      system.dark = true → AllDark system.driver.leds.gpio := by
  have initial : Darkness late timedInit := ⟨OnClock.init late, fun dark => by cases dark⟩
  have everywhere : ∀ system ∈ visited (timedStep late) timedInit events, Darkness late system :=
    visited_invariant initial (fun _ _ _ darkness rested stepped => darkness.step rested stepped)
      rested
  intro system member dark
  exact ((everywhere system member).dark dark).1

/-- One single click, its sequence to the end, and three double clicks. -/
def patientClicks : List TimedEvent :=
  [.press, .elapse 500, .expiry, .ledExpiry (ledOnTimer 0), .elapse 200,
    .ledExpiry (ledOnTimer 1), .elapse 200, .ledExpiry (ledOnTimer 2), .elapse 200,
    .ledExpiry (ledOnTimer 3)] ++ List.replicate 6 .press

theorem patientClicks_stay_off :
    ∃ system ∈ visited (timedStep 0) timedInit patientClicks,
      system.dark = true ∧ AllDark system.driver.leds.gpio := by
  refine ⟨_, List.mem_of_getLast? rfl, by decide, ?_⟩
  exact all_off_stays_off 0 patientClicks (by decide) _ (List.mem_of_getLast? rfl) (by decide)

/-- A single click and three quick double clicks, before the second timer of the
sequence expires. -/
def quickClicks : List TimedEvent :=
  [.press, .elapse 500, .expiry, .ledExpiry (ledOnTimer 0), .elapse 20, .press, .elapse 20, .press,
    .elapse 20, .press, .elapse 20, .press, .elapse 20, .press, .elapse 20, .press, .elapse 80,
    .ledExpiry (ledOnTimer 1)]

theorem leftover_timer_lights : ¬ ∀ late events,
    ∀ system ∈ visited (timedStep late) timedInit events,
      system.dark = true → AllDark system.driver.leds.gpio := by
  intro off
  have last := off 0 quickClicks _ (List.mem_of_getLast? rfl) (by decide)
  have lit := last 1 (by decide)
  exact absurd lit (by decide)

end ToySystem.Drivers.Click
