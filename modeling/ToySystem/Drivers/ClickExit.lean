import ToySystem.Drivers.IrqWindow

namespace ToySystem.Drivers.ClickExit

open ToySystem.Data ToySystem.Kernel
open ToySystem.Drivers.Click hiding Event step loaded
open ToySystem.Drivers.IrqWindow.Click (LoadStatement isrCode loadExec)

/-! # Unloading the click driver

`toy_driver_exit` of `drivers/state_machine/state_machine.c` beside the button's
interrupt and the nine timers.  The handler and every callback are threads of their
own, all of them interleaved statement by statement.
-/

def gpioButton : Nat := 16

inductive ExitStatement where
  | delTimer
  | freeIrq
  | gpioFree (pin : Nat)
  | cdevDel
  | deviceDestroy
  | classDestroy
  | unregisterChrdevRegion
deriving DecidableEq, Repr

/-- What follows `free_irq`. -/
def freeing : List ExitStatement :=
  .gpioFree gpioButton :: ledArrayMap.map .gpioFree ++
    [.cdevDel, .deviceDestroy, .classDestroy, .unregisterChrdevRegion]

def toyDriverExit : List ExitStatement := .delTimer :: .freeIrq :: freeing

/-- The statements left of the exit function (none before it is called), of the
handler and of each callback that runs, and the pins that were given back. -/
structure Unloading where
  driver : ClickDriver
  exit : Option (List ExitStatement)
  isr : List LoadStatement
  callback : List Statement
  ledCallbacks : LedTimer → List LedStatement
  freed : List Nat

namespace Unloading

/-- The interrupt is enabled until `free_irq` was executed. -/
def irqRequested (system : Unloading) : Bool :=
  match system.exit with
  | none => true
  | some code => code.contains .freeIrq

def setLedCallback (timer : LedTimer) (code : List LedStatement) (system : Unloading) :
    Unloading :=
  { system with
    ledCallbacks := fun other => if other = timer then code else system.ledCallbacks other }

/-- Neither the handler nor a callback runs, and no LED timer is pending. -/
structure AtRest (system : Unloading) : Prop where
  isr : system.isr = []
  timers : ∀ timer, (system.driver.leds.timers timer).pending = false
  callback : system.callback = []
  ledCallbacks : ∀ timer, system.ledCallbacks timer = []

/-- No timer is pending, no callback of theirs runs. -/
structure Quiet (system : Unloading) : Prop where
  clickTimer : system.driver.clickTimer.pending = false
  timers : ∀ timer, (system.driver.leds.timers timer).pending = false
  callback : system.callback = []
  ledCallbacks : ∀ timer, system.ledCallbacks timer = []

end Unloading

/-- `led_on_timer_callback` and `led_off_timer_callback` -/
def ledCallbackCode : LedTimer → List LedStatement
  | .on led => [.gpioSetValue (ledPin led) true]
  | .off led => [.gpioSetValue (ledPin led) false]

/-- `free_irq` waits for the handler; `del_timer` waits for nothing. -/
def exitExec : ExitStatement → Unloading → Option Unloading
  | .delTimer, system => some { system with
      driver := { system.driver with clickTimer := Kernel.delTimer system.driver.clickTimer } }
  | .freeIrq, system => if system.isr.isEmpty then some system else none
  | .gpioFree pin, system => some { system with freed := pin :: system.freed }
  | .cdevDel, system | .deviceDestroy, system | .classDestroy, system
  | .unregisterChrdevRegion, system => some system

inductive Event where
  | call
  | exit
  | press
  | isr (now : Nat)
  | expiry
  | callback (now : Nat)
  | ledExpiry (timer : LedTimer)
  | ledCallback (timer : LedTimer)

def step (system : Unloading) : Event → Option Unloading
  | .call =>
      match system.exit with
      | none => some { system with exit := some toyDriverExit }
      | some _ => none
  | .exit =>
      match system.exit with
      | some (statement :: rest) =>
          (exitExec statement system).map fun after => { after with exit := some rest }
      | _ => none
  | .press =>
      if system.irqRequested && system.isr.isEmpty then some { system with isr := isrCode }
      else none
  | .isr now =>
      (advance (loadExec now) system.driver system.isr).map fun (driver, isr) =>
        { system with driver, isr }
  | .expiry =>
      if system.driver.clickTimer.pending && system.callback.isEmpty then
        some { system with
          driver := { system.driver with clickTimer := Kernel.delTimer system.driver.clickTimer }
          callback := callbackCode }
      else none
  | .callback now =>
      (advance (exec now) system.driver system.callback).map fun (driver, callback) =>
        { system with driver, callback }
  | .ledExpiry timer =>
      if (system.driver.leds.timers timer).pending && (system.ledCallbacks timer).isEmpty then
        some ({ system with
          driver := system.driver.onLeds fun leds =>
            leds.setTimer timer (Kernel.delTimer (leds.timers timer)) }.setLedCallback timer
              (ledCallbackCode timer))
      else none
  | .ledCallback timer =>
      (advance (ledExec 0) system.driver.leds (system.ledCallbacks timer)).map fun (leds, code) =>
        { system with driver := { system.driver with leds } }.setLedCallback timer code

def loaded : Unloading where
  driver := toyDriverInit
  exit := none
  isr := []
  callback := []
  ledCallbacks := fun _ => []
  freed := []

/-- The pin that an event lets a timer's callback set. -/
def pinSet (system : Unloading) : Event → Option Nat
  | .callback _ =>
      match system.callback with
      | .leds (.gpioSetValue pin _) :: _ => some pin
      | _ => none
  | .ledCallback timer =>
      match system.ledCallbacks timer with
      | .gpioSetValue pin _ :: _ => some pin
      | _ => none
  | _ => none

structure Harmless (transition : Transition Unloading Event) : Prop where
  pins : ∀ pin ∈ pinSet transition.before transition.event, pin ∉ transition.before.freed
  returned : transition.after.exit = some [] → transition.after.Quiet

/-- The exit function begins when all but `click_timer` is at rest, and the button is not
pressed from its `del_timer` to its `free_irq`. -/
structure Permitted (transition : Transition Unloading Event) : Prop where
  begins : transition.event = .exit → transition.before.exit = some toyDriverExit →
    transition.before.AtRest
  unpressed : transition.event = .press → transition.before.exit ≠ some (.freeIrq :: freeing)

/-- The statements behind `free_irq`: they wait for nothing and touch no timer. -/
def Plain (statement : ExitStatement) : Prop := statement ≠ .freeIrq ∧ statement ≠ .delTimer

instance (statement : ExitStatement) : Decidable (Plain statement) :=
  inferInstanceAs (Decidable (_ ∧ _))

theorem freeing_plain : ∀ statement ∈ freeing, Plain statement := by decide

section

variable {system after : Unloading}

theorem exitExec_plain {statement : ExitStatement} (plain : Plain statement)
    (system : Unloading) : ∃ freed, exitExec statement system = some { system with freed } := by
  cases statement with
  | delTimer => exact absurd rfl plain.2
  | freeIrq => exact absurd rfl plain.1
  | gpioFree pin => exact ⟨pin :: system.freed, rfl⟩
  | cdevDel => exact ⟨system.freed, rfl⟩
  | deviceDestroy => exact ⟨system.freed, rfl⟩
  | classDestroy => exact ⟨system.freed, rfl⟩
  | unregisterChrdevRegion => exact ⟨system.freed, rfl⟩

theorem irqRequested_plain {code : List ExitStatement} (left : system.exit = some code)
    (plain : ∀ statement ∈ code, Plain statement) : system.irqRequested = false := by
  rw [Unloading.irqRequested, left]
  refine Bool.eq_false_iff.mpr ?_
  intro contained
  exact (plain _ (List.contains_iff_mem.mp contained)).1 rfl

theorem step_exit {statement : ExitStatement} {rest : List ExitStatement}
    (left : system.exit = some (statement :: rest)) :
    step system .exit = (exitExec statement system).map fun after =>
      { after with exit := some rest } := by
  rw [step, left]

/-- What the interrupt and the timers leave to the exit function. -/
theorem step_others {event : Event} (notCall : event ≠ .call) (notExit : event ≠ .exit)
    (stepped : step system event = some after) :
    after.exit = system.exit ∧ after.freed = system.freed ∧
      (system.irqRequested = false → system.isr = [] → after.isr = []) := by
  cases event with
  | call => exact absurd rfl notCall
  | exit => exact absurd rfl notExit
  | press =>
      simp only [step] at stepped
      split at stepped
      · rename_i enabled
        cases stepped
        refine ⟨rfl, rfl, ?_⟩
        intro disabled
        rw [disabled] at enabled
        cases enabled
      · cases stepped
  | isr now =>
      obtain ⟨⟨driver, isr⟩, advanced, rfl⟩ := Option.map_eq_some_iff.mp stepped
      refine ⟨rfl, rfl, ?_⟩
      intro _ none
      rw [none] at advanced
      cases advanced
  | expiry =>
      simp only [step] at stepped
      split at stepped
      · cases stepped
        exact ⟨rfl, rfl, fun _ none => none⟩
      · cases stepped
  | callback now =>
      obtain ⟨⟨driver, callback⟩, advanced, rfl⟩ := Option.map_eq_some_iff.mp stepped
      exact ⟨rfl, rfl, fun _ none => none⟩
  | ledExpiry timer =>
      simp only [step] at stepped
      split at stepped
      · cases stepped
        exact ⟨rfl, rfl, fun _ none => none⟩
      · cases stepped
  | ledCallback timer =>
      obtain ⟨⟨leds, code⟩, advanced, rfl⟩ := Option.map_eq_some_iff.mp stepped
      exact ⟨rfl, rfl, fun _ none => none⟩

end

/-- The exit function is behind `del_timer`, and everything is quiet. -/
structure Closing (code : List ExitStatement) (system : Unloading) : Prop where
  left : system.exit = some code
  rest : code = .freeIrq :: freeing ∨ ∀ statement ∈ code, Plain statement
  isr : system.isr = []
  quiet : system.Quiet

/-- How far the exit function is in a permitted run. -/
inductive Phase (system : Unloading) : Prop where
  | requested (next : system.exit = none ∨ system.exit = some toyDriverExit)
      (freed : system.freed = [])
  | closing {code : List ExitStatement} (closing : Closing code system)

theorem Phase.loaded : Phase loaded := .requested (.inl rfl) rfl

section

variable {system after : Unloading}

theorem Unloading.Quiet.closing (quiet : system.Quiet) (exit : Option (List ExitStatement))
    (freed : List Nat) : Unloading.Quiet { system with exit, freed } :=
  ⟨quiet.clickTimer, quiet.timers, quiet.callback, quiet.ledCallbacks⟩

theorem exit_noPin : ∀ pin ∈ pinSet system .exit, pin ∉ system.freed := by
  intro pin none
  cases none

/-- Once all is quiet, only the exit function goes on, or the button is pressed. -/
theorem Closing.event {code : List ExitStatement} {event : Event} (closing : Closing code system)
    (stepped : step system event = some after) :
    event = .exit ∨ event = .press ∧ code = .freeIrq :: freeing := by
  obtain ⟨left, rest, isr, quiet⟩ := closing
  cases event with
  | call =>
      rw [step, left] at stepped
      cases stepped
  | exit => exact .inl rfl
  | press =>
      rcases rest with window | plain
      · exact .inr ⟨rfl, window⟩
      · rw [step, irqRequested_plain left plain, Bool.false_and] at stepped
        cases stepped
  | isr now =>
      rw [step, isr] at stepped
      cases stepped
  | expiry =>
      rw [step, quiet.clickTimer, Bool.false_and] at stepped
      cases stepped
  | callback now =>
      rw [step, quiet.callback] at stepped
      cases stepped
  | ledExpiry timer =>
      rw [step, quiet.timers timer, Bool.false_and] at stepped
      cases stepped
  | ledCallback timer =>
      rw [step, quiet.ledCallbacks timer] at stepped
      cases stepped

/-- A quiet system stays quiet to the end. -/
theorem Closing.exit {code : List ExitStatement} (closing : Closing code system)
    (stepped : ClickExit.step system .exit = some after) :
    (∃ rest, Closing rest after) ∧ Harmless ⟨system, .exit, after⟩ := by
  obtain ⟨left, rest, isr, quiet⟩ := closing
  cases code with
  | nil =>
      rw [ClickExit.step, left] at stepped
      cases stepped
  | cons statement code =>
      rw [step_exit left] at stepped
      rcases rest with window | plain
      · cases window
        have waited : exitExec .freeIrq system = some system := if_pos (by rw [isr]; rfl)
        rw [waited] at stepped
        cases stepped
        have stays := quiet.closing (some freeing) system.freed
        exact ⟨⟨freeing, rfl, .inr freeing_plain, isr, stays⟩, exit_noPin, fun _ => stays⟩
      · rw [List.forall_mem_cons] at plain
        obtain ⟨freed, executed⟩ := exitExec_plain plain.1 system
        rw [executed] at stepped
        cases stepped
        have stays := quiet.closing (some code) freed
        exact ⟨⟨code, rfl, .inr plain.2, isr, stays⟩, exit_noPin, fun _ => stays⟩

/-- `del_timer` takes care of `click_timer`, if the rest is taken care of. -/
theorem delTimer_closing (next : system.exit = some toyDriverExit) (atRest : system.AtRest)
    (stepped : ClickExit.step system .exit = some after) :
    Closing (.freeIrq :: freeing) after := by
  rw [step_exit next] at stepped
  cases stepped
  exact ⟨rfl, .inl rfl, atRest.isr, rfl, atRest.timers, atRest.callback, atRest.ledCallbacks⟩

theorem Phase.exit (phase : Phase system) (permitted : Permitted ⟨system, .exit, after⟩)
    (stepped : ClickExit.step system .exit = some after) :
    Phase after ∧ Harmless ⟨system, .exit, after⟩ := by
  cases phase with
  | requested next freed =>
      rcases next with none | all
      · rw [ClickExit.step, none] at stepped
        cases stepped
      · have closing := delTimer_closing all (permitted.begins rfl all) stepped
        exact ⟨.closing closing, exit_noPin, fun _ => closing.quiet⟩
  | closing closing =>
      obtain ⟨⟨rest, later⟩, harmless⟩ := closing.exit stepped
      exact ⟨.closing later, harmless⟩

theorem Phase.call (phase : Phase system) (stepped : ClickExit.step system .call = some after) :
    Phase after ∧ Harmless ⟨system, .call, after⟩ := by
  have uncalled : system.exit = none := by
    simp only [ClickExit.step] at stepped
    split at stepped
    · assumption
    · cases stepped
  have freed : system.freed = [] := by
    cases phase with
    | requested next freed => exact freed
    | closing closing =>
        have left := closing.left
        rw [uncalled] at left
        cases left
  rw [ClickExit.step, uncalled] at stepped
  cases stepped
  refine ⟨.requested (.inr rfl) freed, ?_, ?_⟩
  · intro pin none
    cases none
  · intro ended
    cases ended

theorem Phase.others {event : Event} (phase : Phase system) (notCall : event ≠ .call)
    (notExit : event ≠ .exit) (permitted : Permitted ⟨system, event, after⟩)
    (stepped : ClickExit.step system event = some after) :
    Phase after ∧ Harmless ⟨system, event, after⟩ := by
  cases phase with
  | requested next freed =>
      obtain ⟨sameExit, sameFreed, -⟩ := step_others notCall notExit stepped
      rw [← sameExit] at next
      refine ⟨.requested next (sameFreed.trans freed), ?_, ?_⟩
      · intro pin _
        rw [freed]
        exact List.not_mem_nil
      · intro ended
        rcases next with none | all
        · exact absurd (none.symm.trans ended) (by decide)
        · exact absurd (all.symm.trans ended) (by decide)
  | closing closing =>
      rcases closing.event stepped with isExit | ⟨isPress, window⟩
      · exact absurd isExit notExit
      · subst window
        exact absurd closing.left (permitted.unpressed isPress)

/-- A permitted step keeps the phases and does no harm. -/
theorem Phase.step {event : Event} (phase : Phase system)
    (permitted : Permitted ⟨system, event, after⟩)
    (stepped : ClickExit.step system event = some after) :
    Phase after ∧ Harmless ⟨system, event, after⟩ := by
  by_cases isExit : event = .exit
  · subst event
    exact phase.exit permitted stepped
  · by_cases isCall : event = .call
    · subst event
      exact phase.call stepped
    · exact phase.others isCall isExit permitted stepped

end

theorem harmless_of_permitted {events : List Event}
    (permitted : ∀ transition ∈ path step loaded events, Permitted transition) :
    ∀ transition ∈ path step loaded events, Harmless transition := by
  refine path_forall Phase.loaded ?_ permitted
  intro before event after phase permitted stepped
  exact phase.step permitted stepped

/-- Without presses a quiet system is harmless whatever else happens. -/
theorem Closing.harmless {code : List ExitStatement} {system : Unloading}
    (closing : Closing code system) {moves : List Event} (unpressed : .press ∉ moves) :
    ∀ transition ∈ path step system moves, Harmless transition := by
  refine @path_forall _ _ step (fun system => ∃ code, Closing code system)
    (fun transition => transition.event ≠ .press) _ _ moves ⟨code, closing⟩ ?_ ?_
  · rintro before event after ⟨left, closing⟩ notPress stepped
    rcases closing.event stepped with isExit | ⟨isPress, -⟩
    · subst event
      exact closing.exit stepped
    · exact absurd isPress notPress
  · rintro transition member isPress
    exact unpressed (isPress ▸ event_mem_of_mem_path member)

/-- From behind `free_irq` the exit function returns without a look at the timers. -/
theorem exit_returns {code : List ExitStatement} {system : Unloading}
    (left : system.exit = some code) (plain : ∀ statement ∈ code, Plain statement)
    (nonempty : code ≠ []) :
    ∃ transition ∈ path step system (code.map fun _ => .exit),
      transition.after.exit = some [] ∧ (transition.after.Quiet → system.Quiet) := by
  induction code generalizing system with
  | nil => exact absurd rfl nonempty
  | cons statement code ih =>
      rw [List.forall_mem_cons] at plain
      obtain ⟨freed, executed⟩ := exitExec_plain plain.1 system
      have stepped : step system .exit = some { system with exit := some code, freed } := by
        rw [step_exit left, executed]
        rfl
      rw [List.map_cons, path_cons stepped]
      cases code with
      | nil =>
          refine ⟨_, List.mem_cons_self, rfl, ?_⟩
          exact fun quiet => quiet.closing system.exit system.freed
      | cons next code =>
          obtain ⟨transition, member, returned, quiet⟩ :=
            @ih { system with exit := some (next :: code), freed } rfl plain.2
              (List.cons_ne_nil _ _)
          refine ⟨transition, List.mem_cons_of_mem _ member, returned, ?_⟩
          exact fun atEnd => (quiet atEnd).closing system.exit system.freed

/-- If nothing but `click_timer` is pending or running when the exit function returns, it
was so when it began. -/
theorem atRest_of_harmless {system : Unloading} (next : system.exit = some toyDriverExit)
    (noHandler : system.isr = [])
    (harmless : ∀ moves, .press ∉ moves →
      ∀ transition ∈ path step system (.exit :: moves), Harmless transition) : system.AtRest := by
  let begun : Unloading := {
    system with
    exit := some freeing
    driver := { system.driver with clickTimer := Kernel.delTimer system.driver.clickTimer } }
  have first : step system .exit = some { begun with exit := some (.freeIrq :: freeing) } := by
    rw [step_exit next]
    rfl
  have second : step { begun with exit := some (.freeIrq :: freeing) } .exit = some begun := by
    have waited : exitExec .freeIrq { begun with exit := some (.freeIrq :: freeing) } =
        some { begun with exit := some (.freeIrq :: freeing) } := if_pos (by rw [noHandler]; rfl)
    rw [@step_exit _ .freeIrq freeing rfl, waited]
    rfl
  obtain ⟨transition, member, returned, quiet⟩ :=
    @exit_returns _ begun rfl freeing_plain (List.cons_ne_nil _ _)
  have unpressed : Event.press ∉ Event.exit :: freeing.map fun _ => Event.exit := by simp
  have reached : transition ∈ path step system (.exit :: .exit :: freeing.map fun _ => .exit) := by
    rw [path_cons first, path_cons second]
    exact List.mem_cons_of_mem _ (List.mem_cons_of_mem _ member)
  have atEnd := quiet ((harmless _ unpressed transition reached).returned returned)
  exact ⟨noHandler, atEnd.timers, atEnd.callback, atEnd.ledCallbacks⟩

/-- No timer outlives the driver in a run in which the exit function begins when all but
`click_timer` is at rest, and the button is left alone up to `free_irq`.  Where no handler
runs and the button is left alone, nothing less will do. -/
theorem exit_leaves_no_timer_iff (events : List Event) :
    ((∀ transition ∈ path step loaded events, Permitted transition) →
        ∀ transition ∈ path step loaded events, Harmless transition) ∧
      ∀ system, run step loaded events = some system → system.exit = some toyDriverExit →
        system.isr = [] →
          ((∀ moves, .press ∉ moves →
            ∀ transition ∈ path step system (.exit :: moves), Harmless transition) ↔
              system.AtRest) := by
  refine ⟨harmless_of_permitted, ?_⟩
  intro system ran next noHandler
  constructor
  · exact atRest_of_harmless next noHandler
  · intro atRest moves unpressed
    have stepped : ∃ after, step system .exit = some after := by
      rw [step_exit next]
      exact ⟨_, rfl⟩
    obtain ⟨after, stepped⟩ := stepped
    have closing := delTimer_closing next atRest stepped
    rw [path_cons stepped, List.forall_mem_cons]
    exact ⟨⟨exit_noPin, fun _ => closing.quiet⟩, closing.harmless unpressed⟩

/-- The button is pressed between `del_timer` and `free_irq`. -/
def pressedInExit : List Event :=
  [.call, .exit, .press, .isr 0, .isr 0, .isr 0, .exit]

/-- The handler arms `click_timer` once more, and the exit function returns. -/
theorem not_exit_leaves_no_timer :
    ¬ ∀ events, ∀ transition ∈ path step loaded events, Harmless transition := by
  intro all
  have armed : ∃ system, run step loaded pressedInExit = some system ∧
      system.exit = some freeing ∧ system.driver.clickTimer.pending = true :=
    ⟨_, rfl, rfl, rfl⟩
  obtain ⟨system, ran, next, pending⟩ := armed
  obtain ⟨transition, member, returned, quiet⟩ :=
    exit_returns next freeing_plain (List.cons_ne_nil _ _)
  have harmless := all _ transition (mem_path_append ran member)
  have stopped := (quiet (harmless.returned returned)).clickTimer
  rw [pending] at stopped
  cases stopped

end ToySystem.Drivers.ClickExit
