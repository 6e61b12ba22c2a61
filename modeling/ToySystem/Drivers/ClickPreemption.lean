import ToySystem.Data.Run
import ToySystem.Data.Thread
import ToySystem.Drivers.Click

namespace ToySystem.Drivers.Click

open ToySystem.Data ToySystem.Kernel

/-! # The click timer's callback, preempted

The callback that the timer runs, statement by statement, with presses of the
button at any point.  The interrupt handler itself is never interrupted, also
where it calls the callback.
-/

inductive LedStatement where
  | lookUp (input : Input)
  | setState (state : State)
  | switchAction (action : Action)
  | timerSetup (timer : LedTimer)
  | modTimer (timer : LedTimer) (delay : Nat)
  | gpioSetValue (pin : Nat) (value : Bool)
deriving DecidableEq, Repr

def sequenceCode (sequence : List (LedTimer × Nat)) : List LedStatement :=
  sequence.flatMap fun entry => [.timerSetup entry.1, .modTimer entry.1 entry.2]

def writeCode (writes : List (Nat × Bool)) : List LedStatement :=
  writes.map fun write => .gpioSetValue write.1 write.2

def actionCode : Action → List LedStatement
  | .nop => []
  | .leftOn => sequenceCode ledOnSequence
  | .leftOff => sequenceCode ledOffSequence
  | .left4On => writeCode (leftOn 4)
  | .left6On => writeCode (leftOn 6)
  | .allOn => writeCode (setBitLed 0xFF)
  | .allOff => writeCode (setBitLed 0x00)
  | .resetTimer => writeCode (setBitLed 0x00) ++ [.setState initialState]

/-- `sm` is a copy of the table's element, taken before the state changes. -/
def ledExec (now : Nat) : LedStatement → Leds → Leds × List LedStatement
  | .lookUp input, leds =>
      let sm := stateMachineTable leds.state input
      (leds, [.setState sm.nextState, .switchAction sm.action])
  | .setState state, leds => ({ leds with state }, [])
  | .switchAction action, leds => (leds, actionCode action)
  | .timerSetup timer, leds => (leds.setTimer timer Kernel.timerSetup, [])
  | .modTimer timer delay, leds => (leds.setTimer timer (Kernel.modTimer (now + delay)), [])
  | .gpioSetValue pin value, leds => (leds.write [(pin, value)], [])

inductive Statement where
  | testSingle
  | testDouble
  | leds (statement : LedStatement)
  | clearCount
deriving DecidableEq, Repr

/-- The body of `click_timer_callback`; the second comparison is in the `else` of
the first. -/
def callbackCode : List Statement := [.testSingle, .clearCount]

def exec (now : Nat) : Statement → ClickDriver → ClickDriver × List Statement
  | .testSingle, driver =>
      if driver.clickCount = 1 then (driver.dispatch .swOn, [.leds (.lookUp .swOn)])
      else (driver, [.testDouble])
  | .testDouble, driver =>
      if driver.clickCount = 2 then (driver.dispatch .tOut, [.leds (.lookUp .tOut)])
      else (driver, [])
  | .leds statement, driver =>
      ({ driver with leds := (ledExec now statement driver.leds).1 },
        (ledExec now statement driver.leds).2.map .leds)
  | .clearCount, driver => ({ driver with clickCount := 0 }, [])

section

variable (now : Nat)

theorem writeCode_finishes (writes : List (Nat × Bool)) (leds : Leds) :
    Finishes (ledExec now) (writeCode writes) leds (leds.write writes) := by
  induction writes generalizing leds with
  | nil => exact .done leds
  | cons write writes ih => exact .plain rfl (ih (leds.write [write]))

theorem sequenceCode_finishes (sequence : List (LedTimer × Nat)) (leds : Leds) :
    Finishes (ledExec now) (sequenceCode sequence) leds (startSequence now sequence leds) := by
  induction sequence generalizing leds with
  | nil => exact .done leds
  | cons entry sequence ih =>
      exact .plain rfl (.plain rfl (ih (startLedTimer now entry.1 entry.2 leds)))

theorem actionCode_finishes (action : Action) (leds : Leds) :
    Finishes (ledExec now) (actionCode action) leds (performAction now action leds) := by
  cases action with
  | nop => exact .done leds
  | leftOn => exact sequenceCode_finishes now ledOnSequence leds
  | leftOff => exact sequenceCode_finishes now ledOffSequence leds
  | allOn => exact writeCode_finishes now (setBitLed 0xFF) leds
  | allOff => exact writeCode_finishes now (setBitLed 0x00) leds
  | left4On => exact writeCode_finishes now (leftOn 4) leds
  | left6On => exact writeCode_finishes now (leftOn 6) leds
  | resetTimer =>
      exact (writeCode_finishes now (setBitLed 0x00) leds).append (.plain rfl (.done _))

theorem lookUp_finishes (input : Input) (leds : Leds) :
    Finishes (ledExec now) [.lookUp input] leds (stateMachine now input leds) := by
  have action := (actionCode_finishes now (stateMachineTable leds.state input).action
    { leds with state := (stateMachineTable leds.state input).nextState }).append (.done _)
  exact .next (.plain rfl (.next action))

theorem callStateMachine_finishes (input : Input) (driver : ClickDriver) :
    Finishes (exec now) [.leds (.lookUp input)] (driver.dispatch input)
      (callStateMachine now input driver) :=
  (lookUp_finishes now input (driver.dispatch input).leds).map Statement.leds
    (fun leds => { driver.dispatch input with leds }) (fun _ _ => rfl)

theorem callbackCode_finishes (driver : ClickDriver) :
    Finishes (exec now) callbackCode driver (clickTimerCallback now driver) := by
  apply Finishes.next
  unfold clickTimerCallback
  by_cases single : driver.clickCount = 1
  · simp only [exec, if_pos single]
    exact (callStateMachine_finishes now .swOn driver).append (.plain rfl (.done _))
  · simp only [exec, if_neg single]
    apply Finishes.next
    by_cases double : driver.clickCount = 2
    · simp only [exec, if_pos double]
      exact (callStateMachine_finishes now .tOut driver).append (.plain rfl (.done _))
    · simp only [exec, if_neg double]
      exact .plain rfl (.done _)

end

/-- The driver, the statements left of the callback, and, as history variables,
the presses that preempted the callback before its first comparison and after. -/
structure ClickSystem where
  driver : ClickDriver
  callback : List Statement
  early : Nat
  late : Nat

inductive Event where
  | press (now : Nat)
  | expiry
  | callback (now : Nat)
  | ledExpiry (timer : LedTimer)

def loaded : ClickSystem where
  driver := toyDriverInit
  callback := []
  early := 0
  late := 0

def step (system : ClickSystem) : Event → Option ClickSystem
  | .press now =>
      let system := { system with driver := buttonIsr now system.driver }
      match system.callback with
      | [] => some system
      | .testSingle :: _ => some { system with early := system.early + 1 }
      | _ :: _ => some { system with late := system.late + 1 }
  | .expiry =>
      if system.driver.clickTimer.pending && system.callback.isEmpty then
        some {
          driver := { system.driver with clickTimer := delTimer system.driver.clickTimer }
          callback := callbackCode
          early := 0
          late := 0 }
      else none
  | .callback now =>
      (advance (exec now) system.driver system.callback).map fun (driver, rest) =>
        { system with driver, callback := rest }
  | .ledExpiry timer =>
      if (system.driver.leds.timers timer).pending then
        some { system with driver := system.driver.onLeds (ledTimerCallback timer) }
      else none

/-- Every press is accounted for, and the timer runs exactly for a first click. -/
structure Balanced (driver : ClickDriver) : Prop where
  total : driver.swOns + 2 * driver.tOuts + driver.clickCount = driver.presses
  few : driver.clickCount ≤ 1
  pending : driver.clickTimer.pending = true ↔ driver.clickCount = 1

/-- No press fell into this run of the callback, or an odd number of them fell
before its first comparison and an even number after it. -/
def CleanRun (system : ClickSystem) : Prop :=
  system.early = 0 ∧ system.late = 0 ∨ system.early % 2 = 1 ∧ system.late % 2 = 0

/-- The driver in the middle of a callback that `early + late` presses preempted.
The first click, which made the timer expire, is dispatched at the first
comparison (`single`), and is not off the count before the end. -/
structure Preempted (presses : Nat) (single : Nat) (driver : ClickDriver) : Prop where
  total : driver.swOns + 2 * driver.tOuts + driver.clickCount = driver.presses + single
  few : driver.clickCount ≤ 1
  parity : driver.clickCount = (presses + 1) % 2
  pending : driver.clickTimer.pending = true ↔ driver.clickCount = 1 ∧ 0 < presses

def BodyStatement : Statement → Prop
  | .leds _ | .testDouble => True
  | .testSingle | .clearCount => False

inductive Inv (system : ClickSystem) : Prop
  | resting (none : system.callback = []) (balanced : Balanced system.driver)
  | entered (code : system.callback = callbackCode) (notLate : system.late = 0)
      (preempted : Preempted system.early 0 system.driver)
  | tested (body : List Statement) (code : system.callback = body ++ [.clearCount])
      (statements : ∀ statement ∈ body, BodyStatement statement)
      (preempted : Preempted (system.early + system.late) ((system.early + 1) % 2) system.driver)

theorem Balanced.init : Balanced toyDriverInit := ⟨rfl, by decide, by decide⟩

section

variable {driver : ClickDriver} (now : Nat)

theorem Balanced.press (balanced : Balanced driver) : Balanced (buttonIsr now driver) := by
  obtain ⟨total, few, _⟩ := balanced
  obtain ⟨count, presses, account, pending⟩ := buttonIsr_spec now few
  exact ⟨by omega, by omega, pending⟩

theorem Preempted.press {presses single : Nat} (preempted : Preempted presses single driver) :
    Preempted (presses + 1) single (buttonIsr now driver) := by
  obtain ⟨total, few, parity, _⟩ := preempted
  obtain ⟨count, counted, account, pending⟩ := buttonIsr_spec now few
  refine ⟨by omega, by omega, by omega, ?_⟩
  rw [pending]
  omega

theorem Balanced.expiry (balanced : Balanced driver) (due : driver.clickTimer.pending = true) :
    Preempted 0 0 { driver with clickTimer := delTimer driver.clickTimer } := by
  have clicked := balanced.pending.mp due
  refine ⟨balanced.total, balanced.few, ?_, ?_⟩
  · simp only
    omega
  · simp [delTimer]

theorem Preempted.testSingle {presses : Nat} (preempted : Preempted presses 0 driver) :
    ∃ statement, BodyStatement statement ∧ (exec now .testSingle driver).2 = [statement] ∧
      Preempted presses ((presses + 1) % 2) (exec now .testSingle driver).1 := by
  obtain ⟨total, few, parity, pending⟩ := preempted
  by_cases clicked : driver.clickCount = 1
  · simp only [exec, if_pos clicked]
    refine ⟨.leds (.lookUp .swOn), trivial, rfl, ?_, few, parity, pending⟩
    simp only [ClickDriver.dispatch]
    omega
  · simp only [exec, if_neg clicked]
    refine ⟨.testDouble, trivial, rfl, ?_, few, parity, pending⟩
    omega

/-- The other statements leave the account alone; the second comparison never
finds two clicks. -/
theorem Preempted.body {presses single : Nat} (preempted : Preempted presses single driver)
    {statement : Statement} (body : BodyStatement statement) :
    Preempted presses single (exec now statement driver).1 ∧
      ∀ next ∈ (exec now statement driver).2, BodyStatement next := by
  obtain ⟨total, few, parity, pending⟩ := preempted
  cases statement with
  | testDouble =>
      have notTwo : driver.clickCount ≠ 2 := by omega
      simp only [exec, if_neg notTwo]
      exact ⟨⟨total, few, parity, pending⟩, by simp⟩
  | leds statement =>
      refine ⟨⟨total, few, parity, pending⟩, ?_⟩
      intro next member
      obtain ⟨inner, _, rfl⟩ := List.mem_map.mp member
      trivial
  | testSingle | clearCount => cases body

/-- The end of the callback: everything is accounted for after a clean run only. -/
theorem Preempted.clearCount {early late : Nat}
    (preempted : Preempted (early + late) ((early + 1) % 2) driver) :
    Balanced (exec now .clearCount driver).1 ↔
      early = 0 ∧ late = 0 ∨ early % 2 = 1 ∧ late % 2 = 0 := by
  obtain ⟨total, few, parity, pending⟩ := preempted
  constructor
  · intro balanced
    have cleared : driver.swOns + 2 * driver.tOuts + 0 = driver.presses := balanced.total
    have idle : ¬ driver.clickTimer.pending = true := by
      intro isPending
      exact absurd (balanced.pending.mp isPending) (by simp [exec])
    rw [pending] at idle
    omega
  · intro clean
    have idle : ¬ driver.clickTimer.pending = true := by
      rw [pending]
      omega
    constructor
    · simp only [exec]
      omega
    · simp [exec]
    · simpa [exec] using idle

end

section

variable {system after : ClickSystem}

theorem Inv.press (inv : Inv system) {now : Nat}
    (stepped : step system (.press now) = some after) : Inv after := by
  obtain ⟨driver, callback, early, late⟩ := system
  cases inv with
  | resting none balanced =>
      subst none
      cases stepped
      exact .resting rfl (balanced.press now)
  | entered code notLate preempted =>
      subst code
      cases stepped
      exact .entered rfl notLate (preempted.press now)
  | tested body code statements preempted =>
      subst code
      have counted : after = ⟨buttonIsr now driver, body ++ [.clearCount], early, late + 1⟩ := by
        cases body with
        | nil => exact (Option.some.inj stepped).symm
        | cons first body =>
            have isBody := statements first List.mem_cons_self
            cases first with
            | testSingle | clearCount => cases isBody
            | testDouble | leds => exact (Option.some.inj stepped).symm
      subst after
      exact .tested body rfl statements (preempted.press now)

theorem Inv.expiry (inv : Inv system) (stepped : step system .expiry = some after) : Inv after := by
  simp only [step] at stepped
  split at stepped
  · rename_i due
    cases stepped
    simp only [Bool.and_eq_true] at due
    cases inv with
    | resting none balanced => exact .entered rfl rfl (balanced.expiry due.1)
    | entered code _ _ =>
        rw [code] at due
        exact absurd due.2 (by decide)
    | tested body code _ _ =>
        rw [code] at due
        simp at due
  · contradiction

theorem Inv.ledExpiry (inv : Inv system) {timer : LedTimer}
    (stepped : step system (.ledExpiry timer) = some after) : Inv after := by
  simp only [step] at stepped
  split at stepped
  · cases stepped
    cases inv with
    | resting none balanced =>
        exact .resting none ⟨balanced.total, balanced.few, balanced.pending⟩
    | entered code notLate preempted =>
        exact .entered code notLate
          ⟨preempted.total, preempted.few, preempted.parity, preempted.pending⟩
    | tested body code statements preempted =>
        exact .tested body code statements
          ⟨preempted.total, preempted.few, preempted.parity, preempted.pending⟩
  · contradiction

theorem Inv.balanced (inv : Inv system) (resting : system.callback = []) :
    Balanced system.driver := by
  cases inv with
  | resting _ balanced => exact balanced
  | entered code _ _ => rw [code] at resting; contradiction
  | tested body code _ _ => simp [code] at resting

/-- A statement of the callback is followed by another one, or it was the last,
and then the run has to be clean for the account to be right. -/
theorem Inv.callback (inv : Inv system) {now : Nat}
    (stepped : step system (.callback now) = some after) :
    after.callback ≠ [] ∧ Inv after ∨
      after.callback = [] ∧ (Balanced after.driver ↔ CleanRun system) := by
  obtain ⟨⟨driver, rest⟩, advanced, rfl⟩ := Option.map_eq_some_iff.mp stepped
  obtain ⟨statement, others, left, rfl, rfl⟩ := advance_eq_some advanced
  cases inv with
  | resting none _ => rw [none] at left; contradiction
  | entered code notLate preempted =>
      rw [code] at left
      cases left
      obtain ⟨next, isBody, more, tested⟩ := preempted.testSingle now
      refine .inl ⟨by simp, .tested [next] (by simp [more]) ?_ ?_⟩
      · intro statement member
        rw [List.mem_singleton.mp member]
        exact isBody
      · simpa [notLate] using tested
  | tested body code statements preempted =>
      rw [code] at left
      cases body with
      | nil =>
          cases left
          exact .inr ⟨rfl, preempted.clearCount now⟩
      | cons first body =>
          cases left
          obtain ⟨kept, more⟩ := preempted.body now (statements statement List.mem_cons_self)
          exact .inl ⟨by simp, .tested ((exec now statement system.driver).2 ++ body) (by simp)
            (forall_mem_advanced statements more) kept⟩

theorem Inv.others (inv : Inv system) {event : Event} (notCallback : ∀ now, event ≠ .callback now)
    (stepped : step system event = some after) :
    Inv after ∧ (after.callback = [] → system.callback = []) := by
  cases event with
  | press now =>
      refine ⟨inv.press stepped, ?_⟩
      simp only [step] at stepped
      split at stepped
      all_goals
        cases stepped
        exact fun resting => resting
  | expiry =>
      refine ⟨inv.expiry stepped, ?_⟩
      simp only [step] at stepped
      split at stepped
      · cases stepped
        intro resting
        contradiction
      · contradiction
  | callback now => exact absurd rfl (notCallback now)
  | ledExpiry timer =>
      refine ⟨inv.ledExpiry stepped, ?_⟩
      simp only [step] at stepped
      split at stepped
      · cases stepped
        exact fun resting => resting
      · contradiction

end

theorem presses_balanced_iff (events : List Event) :
    (∀ system ∈ visited step loaded events, system.callback = [] → Balanced system.driver) ↔
      ∀ transition ∈ path step loaded events, transition.before.callback ≠ [] →
        transition.after.callback = [] → CleanRun transition.before := by
  have initial : Inv loaded := .resting rfl Balanced.init
  rw [visited, List.forall_mem_cons, List.forall_mem_map, and_iff_right initial.balanced]
  apply path_forall_iff initial
  · intro before event after inv stepped
    by_cases isCallback : ∃ now, event = .callback now
    · obtain ⟨now, rfl⟩ := isCallback
      have busy : before.callback ≠ [] := by
        intro resting
        simp [step, resting, advance] at stepped
      obtain ⟨goesOn, _⟩ | ⟨ends, exactly⟩ := inv.callback stepped
      · exact iff_of_true (fun ends => absurd ends goesOn) (fun _ ends => absurd ends goesOn)
      · simp only [ends, forall_const, exactly, ne_eq, busy, not_false_eq_true]
    · obtain ⟨invAfter, kept⟩ := inv.others (fun now same => isCallback ⟨now, same⟩) stepped
      exact iff_of_true invAfter.balanced (fun busy ends => absurd (kept ends) busy)
  · intro before event after inv stepped balanced
    by_cases isCallback : ∃ now, event = .callback now
    · obtain ⟨now, rfl⟩ := isCallback
      obtain ⟨_, invAfter⟩ | ⟨ends, _⟩ := inv.callback stepped
      · exact invAfter
      · exact .resting ends (balanced ends)
    · exact (inv.others (fun now same => isCallback ⟨now, same⟩) stepped).1

/-- One click, and a second press right after the callback found one click: both
a single and a double click are dispatched for the two presses. -/
theorem press_counted_twice :
    ∃ system ∈ visited step loaded
        ([.press 0, .expiry, .callback 500, .press 500] ++ List.replicate 12 (.callback 500)),
      system.callback = [] ∧ system.driver.presses = 2 ∧ system.driver.swOns = 1 ∧
        system.driver.tOuts = 1 ∧ ¬ Balanced system.driver := by
  refine ⟨_, List.mem_of_getLast? rfl, by decide, by decide, by decide, by decide, ?_⟩
  intro balanced
  exact absurd balanced.total (by decide)

end ToySystem.Drivers.Click
