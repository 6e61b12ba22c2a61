import ToySystem.Drivers.SimpleIoCommands

namespace ToySystem.Drivers.SimpleIo

open ToySystem.Data ToySystem.Kernel

/-! # Unloading simple_io

`toy_module_exit` against the thread: it tells the thread to exit and does not
wait for it.
-/

inductive ExitStatement where
  | setFlag
  | wakeUp
  | gpioSetValue (pin : Nat) (value : Bool)
  | gpioFree (pin : Nat)
  | cdevDel
  | deviceDestroy
  | classDestroy
  | unregisterChrdevRegion
deriving DecidableEq, Repr

def toyGpioInput : Nat := 16

def toyModuleExit : List ExitStatement :=
  [.setFlag, .wakeUp, .gpioSetValue toyGpioInput false, .gpioFree toyGpioInput] ++
    (leftPins ++ rightPins).map .gpioFree ++
    [.cdevDel, .deviceDestroy, .classDestroy, .unregisterChrdevRegion]

/-- `freed` are the pins that were given back. -/
structure Unloading where
  io : Io
  thread : List Statement
  exit : List ExitStatement
  freed : List Nat

def exitExec : ExitStatement → Unloading → Unloading
  | .setFlag, system => { system with io := { system.io with waitQueueFlag := .exit } }
  | .gpioSetValue pin value, system =>
      { system with io := { system.io with gpio := Kernel.gpioSetValue pin value system.io.gpio } }
  | .gpioFree pin, system => { system with freed := pin :: system.freed }
  | .wakeUp, system | .cdevDel, system | .deviceDestroy, system | .classDestroy, system
  | .unregisterChrdevRegion, system => system

inductive UnloadEvent where
  | thread (level : Bool)
  | exit
deriving DecidableEq, Repr

def unloadStep (system : Unloading) : UnloadEvent → Option Unloading
  | .thread level =>
      (threadStep level system.io system.thread).map fun (io, thread) => { system with io, thread }
  | .exit =>
      match system.exit with
      | [] => none
      | statement :: rest => some (exitExec statement { system with exit := rest })

/-- `toy_module_exit` is called; no device file is open then. -/
def unloading (system : System) : Unloading where
  io := system.io
  thread := system.thread
  exit := toyModuleExit
  freed := []

def told (system : Unloading) : Bool := system.exit.length < toyModuleExit.length

/-- The pin that the thread's next statement sets or reads. -/
def touched : List Statement → Option Nat
  | .gpioSetValue pin _ :: _ => some pin
  | .followSwitch :: _ | .pollSwitch _ :: _ | .waitRelease _ :: _ => some toyGpioInput
  | _ => none

/-- The flag stays as `toy_module_exit` set it, the thread has ended when that
returns, and touches no pin that was given back. -/
def UnloadsSafely (system : System) : Prop :=
  ∀ events, ∀ state ∈ visited unloadStep (unloading system) events,
    (told state = true → state.io.waitQueueFlag = .exit) ∧
      (state.exit = [] → state.thread = []) ∧
      ∀ pin ∈ touched state.thread, pin ∉ state.freed

/-- Whatever is written, nobody writes EXIT: the thread goes on. -/
structure Alive (system : System) : Prop where
  formed : wellFormed system.thread = true
  notExit : system.io.waitQueueFlag ≠ .exit
  writers : ∀ writer ∈ system.writers, WriteStatement.setFlag .exit ∉ writer.code

theorem wellFormed_threadStep {level : Bool} {io after : Io} {code rest : List Statement}
    (formed : wellFormed code = true) (notExit : io.waitQueueFlag ≠ .exit)
    (stepped : threadStep level io code = some (after, rest)) :
    wellFormed rest = true ∧ after.waitQueueFlag ≠ .exit := by
  obtain ⟨_, statement, others, rfl, rfl, rfl⟩ := threadStep_eq_some stepped
  cases statement with
  | gpioSetValue pin value | waitEvent | usleepRange =>
      simp only [wellFormed, Bool.and_eq_true] at formed
      exact ⟨formed.2, notExit⟩
  | setFlag flag =>
      simp only [wellFormed, Bool.and_eq_true, decide_eq_true_eq] at formed
      obtain ⟨⟨⟨rfl, _⟩, _⟩, formed⟩ := formed
      exact ⟨formed, by simp [exec]⟩
  | call number =>
      obtain rfl := wellFormed_ends formed rfl
      rw [List.append_nil]
      exact ⟨(callBody_facts number).1, notExit⟩
  | loop number led woken =>
      obtain rfl := wellFormed_ends formed rfl
      rw [List.append_nil]
      refine ⟨(loopBody_facts number led).1, ?_⟩
      simp only [exec]
      split <;> exact notExit
  | testExit number led =>
      obtain rfl := wellFormed_ends formed rfl
      simp only [exec, if_neg notExit, List.append_nil]
      exact ⟨rfl, notExit⟩
  | testNext number led =>
      obtain rfl := wellFormed_ends formed rfl
      rw [List.append_nil]
      refine ⟨?_, notExit⟩
      simp only [exec]
      split
      · rfl
      · split <;> rfl
  | followSwitch =>
      obtain rfl := wellFormed_ends formed rfl
      rw [List.append_nil]
      exact ⟨(followCode_facts level).1, notExit⟩
  | pollSwitch led =>
      obtain rfl := wellFormed_ends formed rfl
      rw [List.append_nil]
      cases level with
      | true => exact ⟨rfl, notExit⟩
      | false => exact ⟨(pressCode_facts led).1, notExit⟩
  | waitRelease led =>
      obtain rfl := wellFormed_ends formed rfl
      cases level <;> exact ⟨rfl, notExit⟩
  | returnFlag number =>
      obtain rfl := wellFormed_ends formed rfl
      simp only [exec, if_neg notExit, List.append_nil]
      exact ⟨rfl, notExit⟩
  | doExit => simp [wellFormed] at formed

theorem switchCode_not_exit (byte : UInt8) : WriteStatement.setFlag .exit ∉ switchCode byte := by
  unfold switchCode
  split <;> simp

theorem Alive.step {system after : System} {event : Event} (alive : Alive system)
    (stepped : SimpleIo.step system event = some after) : Alive after := by
  obtain ⟨formed, notExit, writers⟩ := alive
  cases event with
  | thread level =>
      obtain ⟨threadStepped, sameWriters⟩ := step_thread stepped
      obtain ⟨formedAfter, notExitAfter⟩ := wellFormed_threadStep formed notExit threadStepped
      exact ⟨formedAfter, notExitAfter, sameWriters ▸ writers⟩
  | write buf =>
      obtain ⟨_, rfl⟩ := step_write stepped
      refine ⟨formed, notExit, ?_⟩
      intro writer member
      rcases List.mem_append.mp member with old | new
      · exact writers writer old
      · rw [List.mem_singleton.mp new]
        simp [toyDriverWrite]
  | writer index =>
      obtain ⟨writer, statement, left, found, code, rfl⟩ := step_writer stepped
      have harmless := writers writer (List.mem_of_getElem? found)
      rw [code, List.mem_cons, not_or] at harmless
      obtain ⟨notStored, notLeft⟩ := harmless
      have flagAfter : (writerExec writer (exampleOf system.thread).waits statement
          system.io).1.waitQueueFlag ≠ .exit := by
        cases statement with
        | setFlag flag =>
            intro isExit
            exact notStored (congrArg WriteStatement.setFlag isExit.symm)
        | copyFromUser | switchByte | wakeUp => exact notExit
      have added : WriteStatement.setFlag .exit ∉ (writerExec writer
          (exampleOf system.thread).waits statement system.io).2 := by
        cases statement with
        | switchByte => exact switchCode_not_exit _
        | copyFromUser | setFlag flag | wakeUp => exact List.not_mem_nil
      refine ⟨formed, flagAfter, ?_⟩
      intro other member
      rcases mem_replaceWriter member with old | ⟨rfl, _⟩
      · exact writers other old
      · simp [added, notLeft]

theorem Alive.init : Alive toyModuleInit where
  formed := rfl
  notExit := by decide
  writers := fun _ none => nomatch none

/-- Nothing makes `toy_module_exit` wait for the thread. -/
theorem exit_runs_through (system : System) :
    ∃ state ∈ visited unloadStep (unloading system) (List.replicate toyModuleExit.length .exit),
      state.exit = [] ∧ state.thread = system.thread :=
  ⟨_, List.mem_of_getLast? rfl, rfl, rfl⟩

theorem never_unloads_safely (events : List Event) (system : System)
    (ran : run step toyModuleInit events = some system) : ¬ UnloadsSafely system := by
  intro safe
  have alive := run_invariant Alive.init (fun _ _ _ alive stepped => alive.step stepped) ran
  obtain ⟨state, isVisited, returned, sameThread⟩ := exit_runs_through system
  have ended := (safe _ state isVisited).2.1 returned
  have formed := alive.formed
  rw [← sameThread, ended] at formed
  cases formed

theorem first_wait_never_unloads : ∃ system, run step toyModuleInit arrival = some system ∧
    ¬ UnloadsSafely system :=
  ⟨_, rfl, never_unloads_safely arrival _ rfl⟩

/-- The thread is about to reset the flag when EXIT is stored: it forgets it. -/
theorem exit_overwritten : ¬ ∀ events system, run step toyModuleInit events = some system →
    system.writers = [] → UnloadsSafely system := by
  intro safe
  have kept := safe (List.replicate 6 (.thread false)) _ rfl rfl [.exit, .thread false] _
    (List.mem_of_getLast? rfl)
  exact absurd (kept.1 (by decide)) (by decide)

end ToySystem.Drivers.SimpleIo
