import Mathlib.Data.List.Infix
import ToySystem.Data.Run
import ToySystem.Data.Thread
import ToySystem.Drivers.Engine

namespace ToySystem.Drivers.EngineStop

open ToySystem.Data ToySystem.Drivers.Engine ToySystem.Kernel

/-! # The emergency stop, statement by statement

The interrupt handler of the button against the two timer callbacks, which may
run on other processors.  The timers of the kernel are as in `Kernel.Hrtimer`.
-/

inductive Statement where
  | tryToCancel (motor : Motor)
  | setValue (pin : Nat) (value : Bool)
  | returnIrqHandled
  | flipToggle (motor : Motor)
  | testToggle (motor : Motor)
  | computeTimeout (motor : Motor)
  | forwardNow (motor : Motor) (timeout : Int32)
  | returnRestart (motor : Motor)
deriving DecidableEq, Repr

def setValues (writes : List (Nat × Bool)) : List Statement :=
  writes.map fun write => .setValue write.1 write.2

def exec (now : Ktime) : Statement → EngineDriver → EngineDriver × List Statement
  | .tryToCancel motor, driver =>
      (driver.setHrtimer motor (hrtimerTryToCancel (driver.hrtimer motor)).1, [])
  | .setValue pin value, driver => (driver.write [(pin, value)], [])
  | .returnIrqHandled, driver => (driver, [])
  | .flipToggle motor, driver => (driver.setToggle motor (!(driver.vars motor).toggle), [])
  | .testToggle motor, driver =>
      (driver, setValues (toggleWrites motor (driver.vars motor).toggle))
  | .computeTimeout motor, driver =>
      (driver, [.forwardNow motor (motorTimeout (driver.speed motor))])
  | .forwardNow motor timeout, driver =>
      (driver.setHrtimer motor
        (hrtimerForwardNow now (msToKtime timeout.toInt) (driver.hrtimer motor)), [])
  | .returnRestart motor, driver =>
      (driver.setHrtimer motor (hrtimerLeaveCallback .restart (driver.hrtimer motor)), [])

def handlerCode : List Statement :=
  [.tryToCancel .motor1, .tryToCancel .motor2] ++ setValues (motorLedsOff .motor1) ++
    setValues (motorLedsOff .motor2) ++ [.returnIrqHandled]

def callbackCode (motor : Motor) : List Statement :=
  [.flipToggle motor, .testToggle motor, .computeTimeout motor, .returnRestart motor]

theorem setValues_finish (now : Ktime) (writes : List (Nat × Bool)) (driver : EngineDriver) :
    Finishes (exec now) (setValues writes) driver (driver.write writes) := by
  induction writes generalizing driver with
  | nil => exact .done driver
  | cons write writes ih => exact .plain rfl (ih (driver.write [write]))

/-- Undisturbed, the handler does what the emergency stop does in one step. -/
theorem handlerCode_finishes (now : Ktime) (driver : EngineDriver) :
    Finishes (exec now) handlerCode driver (kGpioIrqSignalHandler driver) := by
  have cancels : ∀ before, Finishes (exec now) [.tryToCancel .motor1, .tryToCancel .motor2] before
      ((before.setHrtimer .motor1 (hrtimerTryToCancel (before.hrtimer .motor1)).1).setHrtimer .motor2
        (hrtimerTryToCancel ((before.setHrtimer .motor1
          (hrtimerTryToCancel (before.hrtimer .motor1)).1).hrtimer .motor2)).1) :=
    fun _ => .plain rfl (.plain rfl (.done _))
  have first := (cancels driver).append (setValues_finish now (motorLedsOff .motor1) _)
  have second := first.append (setValues_finish now (motorLedsOff .motor2) _)
  exact second.append (.plain rfl (.done _))

theorem callbackCode_finishes {now : Ktime} {motor : Motor} {driver after : EngineDriver}
    (expired : hrtimerExpiry motor now driver = some after) :
    Finishes (exec now) (callbackCode motor)
      (driver.setHrtimer motor (hrtimerEnterCallback (driver.hrtimer motor))) after := by
  simp only [hrtimerExpiry, timerCallback_eq] at expired
  split at expired
  · cases Option.some.inj expired
    have ending : ∀ before timeout, timeout = motorTimeout (before.speed motor) →
        Finishes (exec now) [.computeTimeout motor, .returnRestart motor] before
          (exec now (.returnRestart motor) (exec now (.forwardNow motor timeout) before).1).1 := by
      intro before timeout same
      subst timeout
      exact .next (.plain rfl (.plain rfl (.done _)))
    refine .plain rfl (.next ((setValues_finish now _ _).append ?_))
    cases motor with
    | motor1 => exact ending _ _ rfl
    | motor2 => exact ending _ _ rfl
  · contradiction

/-- The driver, the statements left of the handler and of the callbacks, and, as
a history variable, which motors have been stopped and not started since. -/
structure StopSystem where
  driver : EngineDriver
  handler : List Statement
  callback : Motor → List Statement
  stopped : Motor → Bool

inductive Event where
  | interrupt
  | handler
  | expiry (motor : Motor)
  | callback (now : Ktime) (motor : Motor)
  | ioctl (now : Ktime) (cmd : UInt32) (arg : Option Int32)

def loaded (started : Motor → Ktime) : StopSystem where
  driver := toyModuleInit started
  handler := []
  callback _ := []
  stopped _ := false

/-- The handler is not entered again while it runs.  A request of user space is
one step, and none comes while the handler runs. -/
def step (system : StopSystem) : Event → Option StopSystem
  | .interrupt =>
      if system.handler = [] then some { system with handler := handlerCode } else none
  | .handler =>
      (advance (exec 0) system.driver system.handler).map fun (driver, rest) =>
        { system with
          driver
          handler := rest
          stopped := if rest = [] then fun _ => true else system.stopped }
  | .expiry motor =>
      if (system.driver.hrtimer motor).enqueued && !(system.driver.hrtimer motor).running then
        some { system with
          driver := system.driver.setHrtimer motor
            (hrtimerEnterCallback (system.driver.hrtimer motor))
          callback := fun other =>
            if other = motor then callbackCode motor else system.callback other }
      else none
  | .callback now motor =>
      (advance (exec now) system.driver (system.callback motor)).map fun (driver, rest) =>
        { system with
          driver
          callback := fun other => if other = motor then rest else system.callback other }
  | .ioctl now cmd arg =>
      if system.handler = [] then
        some { system with
          driver := (toyIoctl now cmd arg system.driver).1
          stopped := fun motor =>
            system.stopped motor && !(arg.isSome && cmd == startSpeedCode motor) }
      else none

/-- What an emergency stop promises: the timer is off the queue, the callback is
not about to turn on an LED, and the LEDs are dark. -/
structure Still (motor : Motor) (system : StopSystem) : Prop where
  notQueued : (system.driver.hrtimer motor).enqueued = false
  nothingOn : ∀ pin, (system.callback motor).head? ≠ some (.setValue pin true)
  dark : LedsOff motor system.driver

/-- A cancel of the handler does not fall into the callback of its timer. -/
def undisturbed (system : StopSystem) : Event → Bool
  | .handler =>
      match system.handler with
      | .tryToCancel motor :: _ => !(system.driver.hrtimer motor).running
      | _ => true
  | _ => true

structure Quelled (motor : Motor) (system : StopSystem) : Prop where
  notQueued : (system.driver.hrtimer motor).enqueued = false
  notRunning : (system.driver.hrtimer motor).running = false
  noCallback : system.callback motor = []

/-- A motor whose cancel the handler is past: quelled, and its LEDs are dark as
far as the handler got. -/
def Past (motor : Motor) (system : StopSystem) : Prop :=
  .tryToCancel motor ∉ system.handler →
    Quelled motor system ∧ ∀ pin ∈ ledPins motor,
      .setValue pin false ∉ system.handler → system.driver.gpio pin = false

def BodyStatement (motor : Motor) : Statement → Prop
  | .setValue pin _ => pin ∈ ledPins motor
  | .flipToggle target | .testToggle target | .computeTimeout target | .forwardNow target _ =>
      target = motor
  | .tryToCancel _ | .returnIrqHandled | .returnRestart _ => False

/-- A callback is on the way exactly while the kernel takes it to run. -/
inductive CallbackShape (motor : Motor) (system : StopSystem) : Prop
  | absent (idle : (system.driver.hrtimer motor).running = false)
      (none : system.callback motor = [])
  | present (busy : (system.driver.hrtimer motor).running = true) (body : List Statement)
      (left : system.callback motor = body ++ [.returnRestart motor])
      (statements : ∀ statement ∈ body, BodyStatement motor statement)

structure Inv (system : StopSystem) : Prop where
  suffix : system.handler <:+ handlerCode
  callback : ∀ motor, CallbackShape motor system
  past : system.handler ≠ [] → ∀ motor, Past motor system
  held : ∀ motor, system.stopped motor = true →
    Quelled motor system ∧ LedsOff motor system.driver

theorem Inv.still {system : StopSystem} (inv : Inv system) {motor : Motor}
    (stopped : system.stopped motor = true) : Still motor system := by
  obtain ⟨quelled, dark⟩ := inv.held motor stopped
  refine ⟨quelled.notQueued, ?_, dark⟩
  intro pin
  simp [quelled.noCallback]

theorem Inv.loaded (started : Motor → Ktime) : Inv (loaded started) where
  suffix := List.nil_suffix
  callback _ := .absent rfl rfl
  past nonempty := absurd rfl nonempty
  held _ stopped := by cases stopped

structure SameFor (motor : Motor) (system after : StopSystem) : Prop where
  enqueued : (after.driver.hrtimer motor).enqueued = (system.driver.hrtimer motor).enqueued
  running : (after.driver.hrtimer motor).running = (system.driver.hrtimer motor).running
  callback : after.callback motor = system.callback motor

section

variable {system after : StopSystem} {motor : Motor}

theorem Quelled.congr (quelled : Quelled motor system) (same : SameFor motor system after) :
    Quelled motor after :=
  ⟨same.enqueued.trans quelled.notQueued, same.running.trans quelled.notRunning,
    same.callback.trans quelled.noCallback⟩

theorem CallbackShape.congr (shape : CallbackShape motor system)
    (running : (after.driver.hrtimer motor).running = (system.driver.hrtimer motor).running)
    (callback : after.callback motor = system.callback motor) : CallbackShape motor after := by
  cases shape with
  | absent idle none => exact .absent (running.trans idle) (callback.trans none)
  | present busy body left statements =>
      exact .present (running.trans busy) body (callback.trans left) statements

theorem SameFor.setHrtimer {target : Motor} (this : motor ≠ target) (timer : Hrtimer)
    (rest : List Statement) :
    SameFor motor system { system with
      driver := system.driver.setHrtimer target timer
      callback := fun other => if other = target then rest else system.callback other } where
  enqueued := congrArg Hrtimer.enqueued (system.driver.setHrtimer_hrtimer_other timer this)
  running := congrArg Hrtimer.running (system.driver.setHrtimer_hrtimer_other timer this)
  callback := if_neg this

def HandlerStatement : Statement → Prop
  | .tryToCancel _ | .returnIrqHandled => True
  | .setValue _ value => value = false
  | _ => False

instance : DecidablePred HandlerStatement := fun statement => by
  cases statement <;> unfold HandlerStatement <;> infer_instance

theorem handlerCode_statements : ∀ statement ∈ handlerCode, HandlerStatement statement := by decide

theorem handlerCode_order : ∀ code ∈ handlerCode.tails, ∀ motor ∈ [Motor.motor1, .motor2],
    code.head? = some (.tryToCancel motor) →
      ∀ pin ∈ ledPins motor, .setValue pin false ∈ code.tail := by decide

theorem cancel_before_writes {motor : Motor} {rest : List Statement}
    (suffix : .tryToCancel motor :: rest <:+ handlerCode) :
    ∀ pin ∈ ledPins motor, .setValue pin false ∈ rest := by
  have either : motor ∈ [Motor.motor1, .motor2] := by cases motor <;> decide
  exact handlerCode_order _ ((List.mem_tails _ _).mpr suffix) motor either rfl

theorem handlerStatement_effect {statement : Statement} (ofHandler : HandlerStatement statement)
    (now : Ktime) (driver : EngineDriver) (motor : Motor) :
    let after := exec now statement driver
    after.2 = [] ∧
      (after.1.hrtimer motor).running = (driver.hrtimer motor).running ∧
      ((driver.hrtimer motor).enqueued = false → (after.1.hrtimer motor).enqueued = false) ∧
      (∀ pin, driver.gpio pin = false → after.1.gpio pin = false) ∧
      (∀ pin, statement = .setValue pin false → after.1.gpio pin = false) ∧
      (statement = .tryToCancel motor → (driver.hrtimer motor).running = false →
        (after.1.hrtimer motor).enqueued = false) := by
  cases statement with
  | tryToCancel target =>
      refine ⟨rfl, ?_, ?_, fun _ dark => dark, by simp, ?_⟩
      · by_cases same : motor = target
        · subst target
          simp [exec]
        · simp only [exec, EngineDriver.setHrtimer_hrtimer_other _ _ same]
      · intro unqueued
        by_cases same : motor = target
        · subst target
          simp [exec, hrtimerTryToCancel_unqueued _ unqueued, unqueued]
        · simp only [exec, EngineDriver.setHrtimer_hrtimer_other _ _ same]
          exact unqueued
      · intro same idle
        cases same
        simpa [exec] using hrtimerTryToCancel_idle _ idle
  | setValue pin value =>
      have low : value = false := ofHandler
      subst value
      refine ⟨rfl, rfl, fun unqueued => unqueued, ?_, ?_, by simp⟩
      · intro other dark
        by_cases same : other = pin
        · subst pin
          simp [exec]
        · simp [exec, gpioSetValue_other same, dark]
      · intro other same
        cases same
        simp [exec]
  | returnIrqHandled => exact ⟨rfl, rfl, fun unqueued => unqueued, fun _ dark => dark, by simp, by simp⟩
  | flipToggle | testToggle | computeTimeout | forwardNow | returnRestart => cases ofHandler

theorem Inv.interrupt (inv : Inv system) (stepped : step system .interrupt = some after) :
    Inv after := by
  simp only [step] at stepped
  split at stepped
  · cases stepped
    refine ⟨List.suffix_refl _, fun motor => (inv.callback motor).congr rfl rfl, ?_, ?_⟩
    · intro _ motor absent
      have present : Statement.tryToCancel motor ∈ handlerCode := by cases motor <;> decide
      exact absurd present absent
    · intro motor stopped
      obtain ⟨quelled, dark⟩ := inv.held motor stopped
      exact ⟨quelled.congr ⟨rfl, rfl, rfl⟩, dark⟩
  · contradiction

/-- What a statement of the handler leaves of the system. -/
structure HandlerStep (statement : Statement) (others : List Statement)
    (system after : StopSystem) : Prop where
  code : system.handler = statement :: others
  ofHandler : HandlerStatement statement
  driver : after.driver = (exec 0 statement system.driver).1
  handler : after.handler = others
  callback : after.callback = system.callback

section

variable {statement : Statement} {others : List Statement}

theorem HandlerStep.quelled (taken : HandlerStep statement others system after)
    (quelled : Quelled motor system) : Quelled motor after := by
  obtain ⟨_, running, unqueued, _⟩ :=
    handlerStatement_effect taken.ofHandler 0 system.driver motor
  constructor
  · rw [taken.driver]
    exact unqueued quelled.notQueued
  · rw [taken.driver]
    exact running.trans quelled.notRunning
  · rw [taken.callback]
    exact quelled.noCallback

/-- A dark LED stays dark, and the one that is written goes dark. -/
theorem HandlerStep.dark (taken : HandlerStep statement others system after) {pin : Nat}
    (dark : statement = .setValue pin false ∨ system.driver.gpio pin = false) :
    after.driver.gpio pin = false := by
  obtain ⟨_, _, _, kept, lowered, _⟩ :=
    handlerStatement_effect taken.ofHandler 0 system.driver .motor1
  rw [taken.driver]
  rcases dark with written | before
  · exact lowered pin written
  · exact kept pin before

/-- The cancel itself: all the writes are still to come. -/
theorem HandlerStep.past_cancel (taken : HandlerStep statement others system after)
    (inv : Inv system) (clear : undisturbed system .handler = true)
    (cancels : statement = .tryToCancel motor) : Past motor after := by
  subst statement
  have idle : (system.driver.hrtimer motor).running = false := by
    simpa [undisturbed, taken.code] using clear
  have noCallback : system.callback motor = [] := by
    cases inv.callback motor with
    | absent _ none => exact none
    | present busy _ _ _ => rw [idle] at busy; contradiction
  obtain ⟨_, running, _, _, _, cancelled⟩ :=
    handlerStatement_effect taken.ofHandler 0 system.driver motor
  have quelled : Quelled motor after := by
    constructor
    · rw [taken.driver]
      exact cancelled rfl idle
    · rw [taken.driver]
      exact running.trans idle
    · rw [taken.callback]
      exact noCallback
  intro _
  refine ⟨quelled, ?_⟩
  intro pin member written
  have suffix : Statement.tryToCancel motor :: others <:+ handlerCode := by
    rw [← taken.code]
    exact inv.suffix
  rw [taken.handler] at written
  exact absurd (cancel_before_writes suffix pin member) written

theorem HandlerStep.past_later (taken : HandlerStep statement others system after)
    (inv : Inv system) (later : statement ≠ .tryToCancel motor) : Past motor after := by
  intro absent
  rw [taken.handler] at absent
  have absentBefore : Statement.tryToCancel motor ∉ system.handler := by
    rw [taken.code]
    simpa [Ne.symm later] using absent
  have nonempty : system.handler ≠ [] := by
    rw [taken.code]
    exact List.cons_ne_nil _ _
  obtain ⟨before, dark⟩ := inv.past nonempty motor absentBefore
  refine ⟨taken.quelled before, ?_⟩
  intro pin member written
  rw [taken.handler] at written
  apply taken.dark
  by_cases now : statement = .setValue pin false
  · exact .inl now
  · right
    apply dark pin member
    rw [taken.code]
    simpa [Ne.symm now] using written

theorem HandlerStep.past (taken : HandlerStep statement others system after) (inv : Inv system)
    (clear : undisturbed system .handler = true) (motor : Motor) : Past motor after := by
  by_cases cancels : statement = .tryToCancel motor
  · exact taken.past_cancel inv clear cancels
  · exact taken.past_later inv cancels

end

theorem Inv.handler (inv : Inv system) (clear : undisturbed system .handler = true)
    (stepped : step system .handler = some after) : Inv after := by
  obtain ⟨⟨driver, rest⟩, advanced, rfl⟩ := Option.map_eq_some_iff.mp stepped
  obtain ⟨statement, others, code, rfl, same⟩ := advance_eq_some advanced
  have inHandler : statement ∈ system.handler := by
    rw [code]
    exact List.mem_cons_self
  have ofHandler := handlerCode_statements statement (inv.suffix.subset inHandler)
  have effect := fun motor => handlerStatement_effect ofHandler 0 system.driver motor
  rw [(effect .motor1).1, List.nil_append] at same
  subst rest
  have taken : HandlerStep statement others system
      { system with
        driver := (exec 0 statement system.driver).1
        handler := others
        stopped := if others = [] then fun _ => true else system.stopped } :=
    ⟨code, ofHandler, rfl, rfl, rfl⟩
  have past := taken.past inv clear
  constructor
  · have tail : others <:+ system.handler := by
      rw [code]
      exact List.suffix_cons _ _
    exact tail.trans inv.suffix
  · intro motor
    exact (inv.callback motor).congr (effect motor).2.1 rfl
  · exact fun _ => past
  · intro motor stopped
    by_cases last : others = []
    · obtain ⟨still, dark⟩ := past motor (by simp [last])
      exact ⟨still, fun pin member => dark pin member (by simp [last])⟩
    · simp only [last, if_false] at stopped
      obtain ⟨before, dark⟩ := inv.held motor stopped
      exact ⟨taken.quelled before, fun pin member => taken.dark (.inr (dark pin member))⟩

theorem Inv.ofTarget (inv : Inv system) (target : Motor)
    (handlerSame : after.handler = system.handler) (stoppedSame : after.stopped = system.stopped)
    (notQuelled : ¬ Quelled target system)
    (others : ∀ motor, motor ≠ target → SameFor motor system after ∧
      ∀ pin ∈ ledPins motor, after.driver.gpio pin = system.driver.gpio pin)
    (shape : CallbackShape target after) : Inv after := by
  have away : ∀ motor, Quelled motor system → motor ≠ target := by
    rintro motor quelled rfl
    exact notQuelled quelled
  refine ⟨handlerSame ▸ inv.suffix, ?_, ?_, ?_⟩
  · intro motor
    by_cases this : motor = target
    · subst motor
      exact shape
    · have same := (others motor this).1
      exact (inv.callback motor).congr same.running same.callback
  · intro nonempty motor absent
    rw [handlerSame] at nonempty absent
    obtain ⟨quelled, dark⟩ := inv.past nonempty motor absent
    obtain ⟨same, pins⟩ := others motor (away motor quelled)
    refine ⟨quelled.congr same, ?_⟩
    intro pin member written
    rw [handlerSame] at written
    exact (pins pin member).trans (dark pin member written)
  · intro motor stopped
    rw [stoppedSame] at stopped
    obtain ⟨quelled, dark⟩ := inv.held motor stopped
    obtain ⟨same, pins⟩ := others motor (away motor quelled)
    exact ⟨quelled.congr same, fun pin member => (pins pin member).trans (dark pin member)⟩

theorem Inv.expiry (inv : Inv system) {target : Motor}
    (stepped : step system (.expiry target) = some after) : Inv after := by
  simp only [step] at stepped
  split at stepped
  · rename_i due
    cases stepped
    simp only [Bool.and_eq_true] at due
    refine inv.ofTarget target rfl rfl ?_ ?_ ?_
    · intro quelled
      rw [quelled.notQueued] at due
      exact absurd due.1 (by decide)
    · intro motor this
      exact ⟨.setHrtimer this _ _, fun _ _ => rfl⟩
    · refine .present ?_ [.flipToggle target, .testToggle target, .computeTimeout target] ?_ ?_
      · simp [hrtimerEnterCallback]
      · simp [callbackCode]
      · simp [BodyStatement]
  · contradiction

theorem bodyStatement_effect {target : Motor} {statement : Statement}
    (body : BodyStatement target statement) (now : Ktime) (driver : EngineDriver) :
    let after := exec now statement driver
    (∀ motor, (after.1.hrtimer motor).enqueued = (driver.hrtimer motor).enqueued ∧
      (after.1.hrtimer motor).running = (driver.hrtimer motor).running) ∧
      (∀ pin, pin ∉ ledPins target → after.1.gpio pin = driver.gpio pin) ∧
      ∀ next ∈ after.2, BodyStatement target next := by
  cases statement with
  | setValue pin value =>
      have own : pin ∈ ledPins target := body
      refine ⟨fun _ => ⟨rfl, rfl⟩, ?_, by simp [exec]⟩
      intro other foreign
      have different : other ≠ pin := fun same => foreign (same ▸ own)
      simp [exec, gpioSetValue_other different]
  | flipToggle motor => exact ⟨fun _ => by simp [exec], fun _ _ => rfl, by simp [exec]⟩
  | testToggle motor =>
      have same : motor = target := body
      subst motor
      refine ⟨fun _ => ⟨rfl, rfl⟩, fun _ _ => rfl, ?_⟩
      intro next member
      obtain ⟨write, written, rfl⟩ := List.mem_map.mp member
      have pin := List.mem_map_of_mem (f := Prod.fst) written
      rwa [toggleWrites_pins] at pin
  | computeTimeout motor =>
      have same : motor = target := body
      subst motor
      refine ⟨fun _ => ⟨rfl, rfl⟩, fun _ _ => rfl, ?_⟩
      intro next member
      rw [List.mem_singleton.mp member]
      rfl
  | forwardNow motor timeout =>
      refine ⟨?_, fun _ _ => rfl, by simp [exec]⟩
      intro other
      by_cases this : other = motor
      · subst other
        simp [exec]
      · simp only [exec, EngineDriver.setHrtimer_hrtimer_other _ _ this, and_self]
  | tryToCancel | returnIrqHandled | returnRestart => cases body

theorem Inv.callbackStep (inv : Inv system) {now : Ktime} {target : Motor}
    (stepped : step system (.callback now target) = some after) : Inv after := by
  obtain ⟨⟨driver, rest⟩, advanced, rfl⟩ := Option.map_eq_some_iff.mp stepped
  obtain ⟨statement, others, code, rfl, rfl⟩ := advance_eq_some advanced
  cases inv.callback target with
  | absent _ none => rw [none] at code; contradiction
  | present busy body left statements =>
      have notQuelled : ¬ Quelled target system := by
        intro quelled
        rw [quelled.notRunning] at busy
        contradiction
      rw [left] at code
      cases body with
      | nil =>
          -- the `return`, with which the kernel queues the timer again
          cases code
          refine inv.ofTarget target rfl rfl notQuelled ?_ (.absent ?_ (by simp [exec]))
          · intro motor this
            exact ⟨.setHrtimer this _ _, fun _ _ => rfl⟩
          · simp [exec, hrtimerLeaveCallback]
      | cons first body =>
          cases code
          obtain ⟨flags, pins, more⟩ :=
            bodyStatement_effect (statements statement List.mem_cons_self) now system.driver
          refine inv.ofTarget target rfl rfl notQuelled ?_ ?_
          · intro motor this
            refine ⟨⟨(flags motor).1, (flags motor).2, by simp [this]⟩, ?_⟩
            intro pin member
            exact pins pin (ledPins_disjoint this pin member)
          · exact .present ((flags target).2.trans busy)
              ((exec now statement system.driver).2 ++ body) (by simp)
              (forall_mem_advanced statements more)

theorem motorHalt_dark {driver : EngineDriver} {motor : Motor} (target : Motor)
    (dark : LedsOff motor driver) : LedsOff motor (motorHalt target driver) := by
  by_cases this : motor = target
  · subst motor
    exact motorHalt_ledsOff driver
  · intro pin member
    exact (gpioWrite_other_motor this (motorLedsOff_pins target) _ member).trans (dark pin member)

theorem motorHalt_unqueued {driver : EngineDriver} {motor : Motor} (target : Motor)
    (unqueued : (driver.hrtimer motor).enqueued = false) :
    ((motorHalt target driver).hrtimer motor).enqueued = false := by
  by_cases this : motor = target
  · subst motor
    simp [motorHalt, hrtimerTryToCancel_unqueued _ unqueued, unqueued]
  · rw [EngineDriver.hrtimer, motorHalt_other driver this]
    exact unqueued

theorem toyIoctl_stopped {now : Ktime} {cmd : UInt32} {arg : Option Int32} {driver : EngineDriver}
    {motor : Motor} (notStarted : (arg.isSome && cmd == startSpeedCode motor) = false)
    (unqueued : (driver.hrtimer motor).enqueued = false) (dark : LedsOff motor driver) :
    ((toyIoctl now cmd arg driver).1.hrtimer motor).enqueued = false ∧
      LedsOff motor (toyIoctl now cmd arg driver).1 := by
  obtain same | ⟨target, value, given, ⟨code, started⟩ | set | halted⟩ :=
    toyIoctl_cases now driver cmd arg
  · rw [same]
    exact ⟨unqueued, dark⟩
  · have this : motor ≠ target := by
      rintro rfl
      rw [given, code] at notStarted
      simp at notStarted
    rw [started]
    refine ⟨?_, fun pin member => ?_⟩
    · rw [EngineDriver.hrtimer, motorStartSpeed_other now value driver this]
      exact unqueued
    · rw [motorStartSpeed_gpio]
      exact dark pin member
  · rw [set]
    refine ⟨?_, dark⟩
    rw [motorSetSpeed, EngineDriver.setSpeed_hrtimer]
    exact unqueued
  · rw [halted]
    exact ⟨motorHalt_unqueued target unqueued, motorHalt_dark target dark⟩

theorem Inv.ioctl (inv : Inv system) {now : Ktime} {cmd : UInt32} {arg : Option Int32}
    (stepped : step system (.ioctl now cmd arg) = some after) : Inv after := by
  simp only [step] at stepped
  split at stepped
  · rename_i resting
    cases stepped
    refine ⟨inv.suffix, ?_, fun nonempty => absurd resting nonempty, ?_⟩
    · intro motor
      exact (inv.callback motor).congr (toyIoctl_running now system.driver cmd arg) rfl
    · intro motor stopped
      simp only [Bool.and_eq_true, Bool.not_eq_true'] at stopped
      obtain ⟨quelled, dark⟩ := inv.held motor stopped.1
      obtain ⟨unqueued, still⟩ := toyIoctl_stopped stopped.2 quelled.notQueued dark
      refine ⟨⟨unqueued, ?_, quelled.noCallback⟩, still⟩
      exact (toyIoctl_running now system.driver cmd arg).trans quelled.notRunning
  · contradiction

theorem Inv.step {event : Event} (inv : Inv system) (clear : undisturbed system event = true)
    (stepped : step system event = some after) : Inv after := by
  cases event with
  | interrupt => exact inv.interrupt stepped
  | handler => exact inv.handler clear stepped
  | expiry motor => exact inv.expiry stepped
  | callback now motor => exact inv.callbackStep stepped
  | ioctl now cmd arg => exact inv.ioctl stepped

end

theorem emergencyStop_still {started : Motor → Ktime} {events : List Event}
    (clear : ∀ transition ∈ path step (loaded started) events,
      undisturbed transition.before transition.event = true) :
    ∀ system ∈ visited step (loaded started) events, ∀ motor,
      system.stopped motor = true → Still motor system := by
  have inv := visited_invariant (Inv.loaded started)
    (fun _ _ _ before allowed stepped => before.step allowed stepped) clear
  intro system member motor stopped
  exact (inv system member).still stopped

/-- The first timer has lit LEDs when the button is pressed. -/
def litRun : List Event :=
  .expiry .motor1 :: List.replicate 9 (.callback 0 .motor1) ++
    .interrupt :: List.replicate 11 .handler

theorem emergencyStop_still_alone :
    (∃ system ∈ visited step (loaded fun _ => 0) litRun,
        system.driver.gpio toyGpioOutputLeft1 = true) ∧
      ∃ system ∈ visited step (loaded fun _ => 0) litRun,
        system.stopped .motor1 = true ∧ Still .motor1 system := by
  refine ⟨⟨_, List.getElem_mem (by decide : 10 < _), by decide⟩, ?_⟩
  refine ⟨_, List.mem_of_getLast? rfl, by decide, ?_⟩
  have clear : ∀ transition ∈ path step (loaded fun _ => 0) litRun,
      undisturbed transition.before transition.event = true := by decide
  exact emergencyStop_still clear _ (List.mem_of_getLast? rfl) .motor1 (by decide)

/-- The handler runs while the first timer is in its callback: the callback turns
LEDs on afterwards and queues the timer again. -/
theorem emergencyStop_in_callback :
    ∃ system ∈ visited step (loaded fun _ => 0)
        (.expiry .motor1 :: .interrupt :: List.replicate 11 .handler ++
          List.replicate 9 (.callback 0 .motor1)),
      system.stopped .motor1 = true ∧ (system.driver.hrtimer .motor1).enqueued = true ∧
        system.driver.gpio toyGpioOutputLeft1 = true ∧ ¬ Still .motor1 system := by
  refine ⟨_, List.mem_of_getLast? rfl, by decide, by decide, by decide, ?_⟩
  intro still
  exact absurd still.notQueued (by decide)

end ToySystem.Drivers.EngineStop
