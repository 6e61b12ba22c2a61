import ToySystem.Data.Interrupted
import ToySystem.Drivers.ClickPreemption
import ToySystem.Drivers.EngineStop

namespace ToySystem.Drivers.IrqWindow

open ToySystem.Data ToySystem.Data.Interrupted ToySystem.Kernel

/-! # The button's interrupt while a driver is loaded

`toy_module_init` of `drivers/engine/engine.c` and `toy_driver_init` of
`drivers/state_machine/state_machine.c` set up their timers after `request_irq`.
The main thread is what follows it, up to `free_irq` in the exit function.
-/

namespace Engine

open Drivers.Engine

inductive LoadStatement where
  | hrtimerInit (motor : Motor)
  | setFunction (motor : Motor)
  | hrtimerStart (motor : Motor)
  | freeIrq
  | handler (statement : EngineStop.Statement)
deriving DecidableEq, Repr

/-- The callback is fixed for each timer, so that setting it does nothing here. -/
def loadExec (now : Ktime) : LoadStatement → EngineDriver → EngineDriver × List LoadStatement
  | .hrtimerInit motor, driver =>
      (driver.setHrtimer motor (hrtimerInit (driver.hrtimer motor)), [])
  | .setFunction _, driver => (driver, [])
  | .hrtimerStart motor, driver =>
      (driver.setHrtimer motor
        (hrtimerStart now (msToKtime maxTimeoutMsec.toInt) (driver.hrtimer motor)), [])
  | .freeIrq, driver => (driver, [])
  | .handler statement, driver =>
      ((EngineStop.exec now statement driver).1,
        (EngineStop.exec now statement driver).2.map .handler)

def access : LoadStatement → Option (Access Motor)
  | .hrtimerInit motor => some (.setUp motor)
  | .hrtimerStart motor => some (.arm motor)
  | .handler (.tryToCancel motor) => some (.operate motor)
  | _ => none

def startTimer (motor : Motor) : List LoadStatement :=
  [.hrtimerInit motor, .setFunction motor, .hrtimerStart motor]

def initCode : List LoadStatement := startTimer .motor1 ++ startTimer .motor2

def disables : LoadStatement → Bool
  | .freeIrq => true
  | _ => false

def program : Program Motor Ktime EngineDriver LoadStatement where
  exec := loadExec
  access := access
  mainCode := initCode ++ [.freeIrq]
  handlerCode := EngineStop.handlerCode.map .handler
  disables := disables
  straight statement member now driver := by
    simp only [initCode, startTimer, List.cons_append, List.nil_append, List.mem_cons,
      List.not_mem_nil, or_false] at member
    rcases member with rfl | rfl | rfl | rfl | rfl | rfl | rfl <;> rfl
  once := by decide
  complete motor := by
    cases motor with
    | motor1 => exact List.mem_cons_self
    | motor2 => exact List.mem_cons_of_mem _ List.mem_cons_self

/-- The driver when `request_irq` returns: nobody has touched the timers. -/
def irqRequested : EngineDriver where
  vars _ := { speed := 1, toggle := false, hrtimer := Hrtimer.unset }
  gpio _ := false

theorem driver_ext {first second : EngineDriver}
    (vars : ∀ motor, first.vars motor = second.vars motor) (gpio : first.gpio = second.gpio) :
    first = second := by
  obtain ⟨firstVars, firstGpio⟩ := first
  obtain ⟨secondVars, secondGpio⟩ := second
  rw [EngineDriver.mk.injEq]
  exact ⟨funext vars, gpio⟩

/-- Undisturbed, the rest of the function leaves the driver as `toyModuleInit` has it. -/
theorem initCode_finishes (now : Ktime) :
    ∃ driver, Finishes (loadExec now) initCode irqRequested driver ∧
      driver = toyModuleInit fun _ => now := by
  refine ⟨_, .plain rfl (.plain rfl (.plain rfl (.plain rfl (.plain rfl (.plain rfl
    (.done _)))))), driver_ext ?_ rfl⟩
  intro motor
  cases motor with
  | motor1 => rfl
  | motor2 => rfl

/-- The handler cancels both timers, whatever it finds. -/
theorem handler_uses (driver : EngineDriver) (motor : Motor) : ∃ now statement reached,
    Executes (program.exec now) program.handlerCode driver statement reached ∧
      Uses program statement motor := by
  cases motor with
  | motor1 => exact ⟨0, .handler (.tryToCancel .motor1), _, .here _ _ _, .inr rfl⟩
  | motor2 => exact ⟨0, .handler (.tryToCancel .motor2), _, .later (.here _ _ _), .inr rfl⟩

end Engine

namespace Click

open Drivers.Click

inductive LoadStatement where
  | timerSetup
  | modTimer
  | delTimer
  | freeIrq
  | countClick
  | testFirst
  | testSecond
  | callback (statement : Drivers.Click.Statement)
deriving DecidableEq, Repr

/-- The handler calls the timer's callback on a second click. -/
def loadExec (now : Nat) : LoadStatement → ClickDriver → ClickDriver × List LoadStatement
  | .timerSetup, driver => ({ driver with clickTimer := timerSetup }, [])
  | .modTimer, driver =>
      ({ driver with clickTimer := modTimer (now + doubleClickInterval) }, [])
  | .delTimer, driver => ({ driver with clickTimer := delTimer driver.clickTimer }, [])
  | .freeIrq, driver => (driver, [])
  | .countClick, driver =>
      ({ driver with clickCount := driver.clickCount + 1, presses := driver.presses + 1 }, [])
  | .testFirst, driver =>
      if driver.clickCount = 1 then (driver, [.modTimer]) else (driver, [.testSecond])
  | .testSecond, driver =>
      if driver.clickCount = 2 then (driver, .delTimer :: callbackCode.map .callback)
      else (driver, [])
  | .callback statement, driver =>
      ((Drivers.Click.exec now statement driver).1,
        (Drivers.Click.exec now statement driver).2.map .callback)

def access : LoadStatement → Option (Access Unit)
  | .timerSetup => some (.setUp ())
  | .modTimer => some (.arm ())
  | .delTimer => some (.operate ())
  | _ => none

def isrCode : List LoadStatement := [.countClick, .testFirst]

def disables : LoadStatement → Bool
  | .freeIrq => true
  | _ => false

def program : Program Unit Nat ClickDriver LoadStatement where
  exec := loadExec
  access := access
  mainCode := [.timerSetup, .delTimer, .freeIrq]
  handlerCode := isrCode
  disables := disables
  straight statement member now driver := by
    simp only [List.mem_cons, List.not_mem_nil, or_false] at member
    rcases member with rfl | rfl | rfl <;> rfl
  once := by decide
  complete _ := List.mem_cons_self

/-- The driver when `request_irq` returns: `click_timer` is all zeros. -/
def irqRequested : ClickDriver := { toyDriverInit with clickTimer := ⟨false, 0⟩ }

theorem initCode_finishes (now : Nat) :
    Finishes (loadExec now) [.timerSetup] irqRequested toyDriverInit :=
  .plain rfl (.done _)

theorem callback_finishes (now : Nat) {code : List Statement} {driver after : ClickDriver}
    (finishes : Finishes (exec now) code driver after) :
    Finishes (loadExec now) (code.map .callback) driver after :=
  finishes.map LoadStatement.callback id fun _ _ => rfl

theorem testSecond_finishes (now : Nat) (driver : ClickDriver) :
    Finishes (loadExec now) [.testSecond] driver
      (if driver.clickCount = 2 then
        clickTimerCallback now { driver with clickTimer := delTimer driver.clickTimer }
      else driver) := by
  apply Finishes.next
  by_cases second : driver.clickCount = 2
  · simp only [loadExec, if_pos second]
    have called := callback_finishes now (callbackCode_finishes now
      { driver with clickTimer := delTimer driver.clickTimer })
    exact .plain rfl (called.append (.done _))
  · simp only [loadExec, if_neg second]
    exact .done driver

theorem testFirst_finishes (now : Nat) (driver : ClickDriver) :
    Finishes (loadExec now) [.testFirst] driver
      (if driver.clickCount = 1 then
        { driver with clickTimer := modTimer (now + doubleClickInterval) }
      else if driver.clickCount = 2 then
        clickTimerCallback now { driver with clickTimer := delTimer driver.clickTimer }
      else driver) := by
  apply Finishes.next
  by_cases first : driver.clickCount = 1
  · simp only [loadExec, if_pos first]
    exact .plain rfl (.done _)
  · simp only [loadExec, if_neg first]
    exact testSecond_finishes now driver

/-- Undisturbed, the statements do what the handler does in one step. -/
theorem isrCode_finishes (now : Nat) (driver : ClickDriver) :
    Finishes (loadExec now) isrCode driver (buttonIsr now driver) :=
  .plain rfl (testFirst_finishes now _)

theorem testFirst_uses {driver : ClickDriver} (first : driver.clickCount = 1) :
    Executes (loadExec 0) [.testFirst] driver .modTimer driver := by
  apply Executes.later
  simp only [loadExec, if_pos first]
  exact .here _ _ driver

/-- A first click starts the timer. -/
theorem isr_uses (driver : ClickDriver) (none : driver.clickCount = 0) (timer : Unit) :
    ∃ now statement reached,
      Executes (program.exec now) program.handlerCode driver statement reached ∧
        Uses program statement timer := by
  have first : driver.clickCount + 1 = 1 := by rw [none]
  exact ⟨0, .modTimer, _, .later (testFirst_uses first), .inl rfl⟩

theorem mainCode_clickCount : ∀ statement ∈ program.mainCode, ∀ now (driver : ClickDriver),
    driver.clickCount = 0 → (program.exec now statement driver).1.clickCount = 0 := by
  intro statement member now driver none
  simp only [program, List.mem_cons, List.not_mem_nil, or_false] at member
  rcases member with rfl | rfl | rfl <;> exact none

end Click

/-- Timers are set up before they are used in every run whose interrupts come
after the last of them was; one that comes earlier can be handled too early. -/
theorem interrupts_meet_ready_timers_iff (engineMoves : List (Move Ktime))
    (clickMoves : List (Move Nat)) (ktimes : List Ktime) (jiffies : List Nat) :
    (((∀ transition ∈ path (step Engine.program) (start Engine.program Engine.irqRequested)
          engineMoves, Permitted Engine.program transition.before transition.event) →
        ∀ transition ∈ path (step Engine.program) (start Engine.program Engine.irqRequested)
          engineMoves, Meets Engine.program transition) ∧
      ∀ system, run (step Engine.program) (start Engine.program Engine.irqRequested)
          (ktimes.map .main) = some system → system.main ≠ [] →
        ((∀ moves, ∀ transition ∈ path (step Engine.program) system (.interrupt :: moves),
          Meets Engine.program transition) ↔ setUps Engine.program.access system.main = [])) ∧
    ((∀ transition ∈ path (step Click.program) (start Click.program Click.irqRequested)
          clickMoves, Permitted Click.program transition.before transition.event) →
        ∀ transition ∈ path (step Click.program) (start Click.program Click.irqRequested)
          clickMoves, Meets Click.program transition) ∧
      ∀ system, run (step Click.program) (start Click.program Click.irqRequested)
          (jiffies.map .main) = some system → system.main ≠ [] →
        ((∀ moves, ∀ transition ∈ path (step Click.program) system (.interrupt :: moves),
          Meets Click.program transition) ↔ setUps Click.program.access system.main = []) := by
  refine ⟨⟨meets_of_permitted, ?_⟩, meets_of_permitted, ?_⟩
  · intro system ran enabled
    exact @harmless_iff _ _ _ _ _ _ _ (fun _ => True) (fun _ _ _ _ _ => trivial)
      (fun driver _ => Engine.handler_uses driver) _ trivial _ ran enabled
  · intro system ran enabled
    exact harmless_iff Click.mainCode_clickCount Click.isr_uses rfl ran enabled

/-- A press right after `request_irq`, whose handler runs before anything else. -/
theorem interrupts_meet_unset_timers :
    (¬ ∀ moves, ∀ transition ∈ path (step Engine.program)
        (start Engine.program Engine.irqRequested) moves, UsesReady Engine.program transition) ∧
      (¬ ∀ moves, ∀ transition ∈ path (step Click.program)
        (start Click.program Click.irqRequested) moves, UsesReady Click.program transition) ∧
      ¬ ∀ moves, ∀ transition ∈ path (step Click.program)
        (start Click.program Click.irqRequested) moves, SetsUpUnarmed Click.program transition := by
  refine ⟨?_, ?_, ?_⟩
  · intro ready
    have cancelled := ready [.interrupt, .handler 0] ⟨_, .handler 0, _⟩ (.tail _ (.head _)) 0 rfl
      (.handler (.tryToCancel .motor1)) rfl .motor1 (.inr rfl)
    cases cancelled
  · intro ready
    have started := ready [.interrupt, .handler 0, .handler 0, .handler 0] ⟨_, .handler 0, _⟩
      (.tail _ (.tail _ (.tail _ (.head _)))) 0 rfl .modTimer rfl () (.inl rfl)
    cases started
  · intro unarmed
    have setUp := unarmed [.interrupt, .handler 0, .handler 0, .handler 0, .main 0]
      ⟨_, .main 0, _⟩ (.tail _ (.tail _ (.tail _ (.tail _ (.head _))))) 0 rfl .timerSetup rfl ()
      rfl
    cases setUp

end ToySystem.Drivers.IrqWindow
