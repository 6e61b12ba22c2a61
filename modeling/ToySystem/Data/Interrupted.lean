import Mathlib.Data.List.Infix
import ToySystem.Data.Run
import ToySystem.Data.Thread

namespace ToySystem.Data.Interrupted

/-! An interrupt that is enabled while the objects it uses are being set up.

The main thread sets up the objects, one statement after the other, and in the
end disables the interrupt.  The handler is a thread of its own, which may run at
any moment in between, also on another processor.
-/

inductive Access (Object : Type*) where
  | setUp (object : Object)
  | arm (object : Object)
  | operate (object : Object)
deriving DecidableEq, Repr

section

variable {Object Statement : Type*}

/-- The objects that a piece of code sets up. -/
def setUps (access : Statement → Option (Access Object)) (code : List Statement) : List Object :=
  code.filterMap fun statement =>
    match access statement with
    | some (.setUp object) => some object
    | _ => none

variable {access : Statement → Option (Access Object)} {statement : Statement}

theorem setUps_cons_setUp {object : Object} (sets : access statement = some (.setUp object))
    (rest : List Statement) : setUps access (statement :: rest) = object :: setUps access rest := by
  simp [setUps, sets]

theorem setUps_cons_other (other : ∀ object, access statement ≠ some (.setUp object))
    (rest : List Statement) : setUps access (statement :: rest) = setUps access rest := by
  apply List.filterMap_cons_none
  split
  · next object sets => exact absurd sets (other object)
  · rfl

theorem setUps_sublist {first second : List Statement} (part : first.Sublist second) :
    (setUps access first).Sublist (setUps access second) :=
  part.filterMap _

end

/-- The main thread is straight code that sets up each object once. -/
structure Program (Object Moment State Statement : Type*) where
  exec : Moment → Statement → State → State × List Statement
  access : Statement → Option (Access Object)
  mainCode : List Statement
  handlerCode : List Statement
  /-- The statement that disables the interrupt waits for a handler that runs. -/
  disables : Statement → Bool
  straight : ∀ statement ∈ mainCode, ∀ now state, (exec now statement state).2 = []
  once : (setUps access mainCode).Nodup
  complete : ∀ object, object ∈ setUps access mainCode

/-- The state, the statements left of the two threads, and, as history variables,
which objects were set up and which the handler has armed. -/
structure System (Object State Statement : Type*) where
  state : State
  main : List Statement
  handler : List Statement
  ready : Object → Bool
  armed : Object → Bool

inductive Move (Moment : Type*) where
  | main (now : Moment)
  | interrupt
  | handler (now : Moment)
deriving DecidableEq, Repr

section

variable {Object Moment State Statement : Type*} [DecidableEq Object]
  (program : Program Object Moment State Statement)

def start (state : State) : System Object State Statement where
  state := state
  main := program.mainCode
  handler := []
  ready _ := false
  armed _ := false

def step (system : System Object State Statement) :
    Move Moment → Option (System Object State Statement)
  | .main now =>
      match system.main with
      | [] => none
      | statement :: rest =>
          if program.disables statement && !system.handler.isEmpty then none
          else
            let (state, added) := program.exec now statement system.state
            some { system with
              state
              main := added ++ rest
              ready := fun object =>
                system.ready object || program.access statement == some (.setUp object) }
  | .interrupt =>
      if system.main.isEmpty || !system.handler.isEmpty then none
      else some { system with handler := program.handlerCode }
  | .handler now =>
      match system.handler with
      | [] => none
      | statement :: rest =>
          let (state, added) := program.exec now statement system.state
          some { system with
            state
            handler := added ++ rest
            armed := fun object =>
              system.armed object || program.access statement == some (.arm object) }

end

section

variable {Object Moment State Statement : Type*} (program : Program Object Moment State Statement)

def Uses (statement : Statement) (object : Object) : Prop :=
  program.access statement = some (.arm object) ∨ program.access statement = some (.operate object)

abbrev Step (_ : Program Object Moment State Statement) :=
  Transition (System Object State Statement) (Move Moment)

/-- The handler only uses an object that was set up. -/
def UsesReady (transition : Step program) : Prop :=
  ∀ now, transition.event = .handler now →
    ∀ statement, transition.before.handler.head? = some statement →
      ∀ object, Uses program statement object → transition.before.ready object = true

/-- No object is set up that the handler has armed. -/
def SetsUpUnarmed (transition : Step program) : Prop :=
  ∀ now, transition.event = .main now →
    ∀ statement, transition.before.main.head? = some statement →
      ∀ object, program.access statement = some (.setUp object) →
        transition.before.armed object = false

def Meets (transition : Step program) : Prop :=
  UsesReady program transition ∧ SetsUpUnarmed program transition

/-- An interrupt comes when nothing is left to set up. -/
def Permitted (system : System Object State Statement) : Move Moment → Prop
  | .interrupt => setUps program.access system.main = []
  | .main _ | .handler _ => True

/-- Objects are ready as far as the main thread got; before the last of them is,
the handler does not run and nothing is armed. -/
structure Sound (system : System Object State Statement) : Prop where
  suffix : system.main <:+ program.mainCode
  ready : ∀ object, system.ready object = true ↔ object ∉ setUps program.access system.main
  idle : setUps program.access system.main ≠ [] → system.handler = []
  unarmed : setUps program.access system.main ≠ [] → ∀ object, system.armed object = false

variable {program} {system after : System Object State Statement} {move : Move Moment}

theorem Sound.start (state : State) : Sound program (start program state) where
  suffix := List.suffix_refl program.mainCode
  ready object := by
    have complete := program.complete object
    simp [Interrupted.start, complete]
  idle _ := rfl
  unarmed _ _ := rfl

theorem Sound.left_cons (sound : Sound program system) {statement : Statement} {rest : List Statement}
    (code : system.main = statement :: rest) (object : Object) :
    (object ∉ setUps program.access (statement :: rest) ∨
        program.access statement = some (.setUp object)) ↔
      object ∉ setUps program.access rest := by
  have once : (setUps program.access (statement :: rest)).Nodup := by
    rw [← code]
    exact program.once.sublist (setUps_sublist sound.suffix.sublist)
  by_cases sets : ∃ target, program.access statement = some (.setUp target)
  · obtain ⟨target, sets⟩ := sets
    rw [setUps_cons_setUp sets, List.nodup_cons] at once
    rw [setUps_cons_setUp sets, sets, List.mem_cons, Option.some.injEq, Access.setUp.injEq]
    constructor
    · rintro (absent | rfl)
      · exact fun later => absent (.inr later)
      · exact once.1
    · intro absent
      by_cases same : target = object
      · exact .inr same
      · exact .inl fun member => member.elim (fun here => same here.symm) absent
  · simp only [not_exists] at sets
    rw [setUps_cons_other sets]
    simp [sets object]

theorem Sound.meets (sound : Sound program system) : Meets program ⟨system, move, after⟩ := by
  constructor
  · intro now isHandler statement first object uses
    have nothingLeft : setUps program.access system.main = [] := by
      by_contra some
      have idle := sound.idle some
      simp [idle] at first
    rw [sound.ready, nothingLeft]
    exact List.not_mem_nil
  · intro now isMain statement first object sets
    obtain ⟨rest, code⟩ := List.head?_eq_some_iff.mp first
    apply sound.unarmed
    simp only at code
    rw [code, setUps_cons_setUp sets]
    exact List.cons_ne_nil object _

end

section

variable {Object Moment State Statement : Type*} [DecidableEq Object]
  {program : Program Object Moment State Statement}
  {system after : System Object State Statement} {now : Moment} {move : Move Moment}

/-- What a statement of the main thread does to the system. -/
theorem main_cases (sound : Sound program system)
    (stepped : step program system (.main now) = some after) :
    ∃ statement rest, system.main = statement :: rest ∧ after.main = rest ∧
      after.state = (program.exec now statement system.state).1 ∧
      after.handler = system.handler ∧ after.armed = system.armed ∧
      ∀ object, after.ready object =
        (system.ready object || program.access statement == some (.setUp object)) := by
  obtain ⟨state, main, handler, ready, armed⟩ := system
  cases main with
  | nil => simp [step] at stepped
  | cons statement rest =>
      have inCode : statement ∈ program.mainCode := sound.suffix.mem List.mem_cons_self
      have straight := program.straight statement inCode now state
      simp only [step] at stepped
      split at stepped
      · cases stepped
      · cases Option.some.inj stepped
        refine ⟨statement, rest, rfl, ?_, rfl, rfl, rfl, fun _ => rfl⟩
        rw [straight]
        rfl

theorem handler_cases (stepped : step program system (.handler now) = some after) :
    ∃ statement rest, system.handler = statement :: rest ∧
      after.state = (program.exec now statement system.state).1 ∧
      after.handler = (program.exec now statement system.state).2 ++ rest ∧
      after.main = system.main ∧ after.ready = system.ready := by
  obtain ⟨state, main, handler, ready, armed⟩ := system
  cases handler with
  | nil => simp [step] at stepped
  | cons statement rest =>
      cases Option.some.inj stepped
      exact ⟨statement, rest, rfl, rfl, rfl, rfl, rfl⟩

theorem interrupt_cases (stepped : step program system .interrupt = some after) :
    system.main ≠ [] ∧ system.handler = [] ∧
      after = { system with handler := program.handlerCode } := by
  simp only [step] at stepped
  split at stepped
  · cases stepped
  · next enabled =>
      simp only [Bool.or_eq_true, Bool.not_eq_true', List.isEmpty_iff, List.isEmpty_eq_false_iff,
        not_or, ne_eq, not_not] at enabled
      exact ⟨enabled.1, enabled.2, (Option.some.inj stepped).symm⟩

theorem Sound.main (sound : Sound program system)
    (stepped : step program system (.main now) = some after) : Sound program after := by
  obtain ⟨statement, rest, code, main, _, handler, armed, ready⟩ := main_cases sound stepped
  have suffix : rest <:+ program.mainCode := by
    have before := sound.suffix
    rw [code] at before
    exact (List.suffix_cons statement rest).trans before
  have left : setUps program.access rest ≠ [] → setUps program.access system.main ≠ [] := by
    intro some none
    have below := @setUps_sublist _ _ program.access _ _ (List.sublist_cons_self statement rest)
    rw [← code, none] at below
    exact some (List.sublist_nil.mp below)
  refine ⟨main ▸ suffix, ?_, ?_, ?_⟩
  · intro object
    have before := sound.ready object
    rw [code] at before
    rw [main, ready, Bool.or_eq_true, before, beq_iff_eq]
    exact sound.left_cons code object
  · rw [main, handler]
    exact fun some => sound.idle (left some)
  · rw [main, armed]
    exact fun some => sound.unarmed (left some)

theorem Sound.handler (sound : Sound program system)
    (stepped : step program system (.handler now) = some after) : Sound program after := by
  obtain ⟨statement, rest, code, _, _, main, ready⟩ := handler_cases stepped
  have nothingLeft : setUps program.access system.main = [] := by
    by_contra some
    have idle := sound.idle some
    rw [code] at idle
    cases idle
  refine ⟨main ▸ sound.suffix, ?_, ?_, ?_⟩
  · rw [main, ready]
    exact sound.ready
  · rw [main]
    exact fun some => absurd nothingLeft some
  · rw [main]
    exact fun some => absurd nothingLeft some

theorem Sound.interrupt (sound : Sound program system)
    (permitted : setUps program.access system.main = [])
    (stepped : step program system .interrupt = some after) : Sound program after := by
  obtain ⟨_, _, rfl⟩ := interrupt_cases stepped
  exact ⟨sound.suffix, sound.ready, fun some => absurd permitted some,
    fun some => absurd permitted some⟩

theorem Sound.step (sound : Sound program system) (permitted : Permitted program system move)
    (stepped : step program system move = some after) : Sound program after := by
  cases move with
  | main now => exact sound.main stepped
  | interrupt => exact sound.interrupt permitted stepped
  | handler now => exact sound.handler stepped

theorem meets_of_permitted {state : State} {moves : List (Move Moment)}
    (permitted : ∀ transition ∈ path (Interrupted.step program) (Interrupted.start program state)
      moves, Permitted program transition.before transition.event) :
    ∀ transition ∈ path (Interrupted.step program) (Interrupted.start program state) moves,
      Meets program transition := by
  have both : ∀ transition ∈ path (Interrupted.step program) (Interrupted.start program state)
      moves, Permitted program transition.before transition.event ∧ Meets program transition := by
    refine (path_forall_iff (Sound.start state) ?_ ?_).mp permitted
    · exact fun _ _ _ sound _ => (and_iff_left sound.meets).symm
    · exact fun _ _ _ sound stepped allowed => sound.step allowed stepped
  exact fun transition member => (both transition member).2

theorem handler_reaches {code : List Statement} {state reached : State} {target : Statement}
    (executes : Executes (program.exec now) code state target reached)
    (isCode : system.handler = code) (isState : system.state = state) :
    ∃ moves, ∃ transition ∈ path (Interrupted.step program) system moves,
      transition.event = .handler now ∧ transition.before.handler.head? = some target ∧
        transition.before.ready = system.ready := by
  induction executes generalizing system with
  | here statement rest state =>
      subst isState
      have stepped : ∃ next, Interrupted.step program system (.handler now) = some next := by
        rw [Interrupted.step, isCode]
        exact ⟨_, rfl⟩
      obtain ⟨next, stepped⟩ := stepped
      refine ⟨[.handler now], ⟨system, .handler now, next⟩, ?_, rfl, ?_, rfl⟩
      · rw [path_cons stepped]
        exact List.mem_cons_self
      · rw [isCode]
        rfl
  | @later statement target rest state reached run ih =>
      subst isState
      have stepped : ∃ next, Interrupted.step program system (.handler now) = some next ∧
          next.handler = (program.exec now statement system.state).2 ++ rest ∧
          next.state = (program.exec now statement system.state).1 ∧
          next.ready = system.ready := by
        rw [Interrupted.step, isCode]
        exact ⟨_, rfl, rfl, rfl, rfl⟩
      obtain ⟨next, stepped, handler, state, ready⟩ := stepped
      obtain ⟨moves, transition, member, event, first, same⟩ := ih handler state
      refine ⟨.handler now :: moves, transition, ?_, event, first, same.trans ready⟩
      rw [path_cons stepped]
      exact List.mem_cons_of_mem _ member

variable {P : State → Prop}

/-- The main thread on its own keeps what its statements keep. -/
theorem main_run (kept : ∀ statement ∈ program.mainCode, ∀ now state, P state →
      P (program.exec now statement state).1)
    {moments : List Moment} (sound : Sound program system) (idle : system.handler = [])
    (holds : P system.state)
    (ran : run (Interrupted.step program) system (moments.map .main) = some after) :
    Sound program after ∧ after.handler = [] ∧ P after.state := by
  induction moments generalizing system with
  | nil =>
      cases ran
      exact ⟨sound, idle, holds⟩
  | cons now moments ih =>
      cases stepped : Interrupted.step program system (.main now) with
      | none => simp [run, stepped] at ran
      | some next =>
          rw [List.map_cons, run_cons stepped] at ran
          obtain ⟨statement, rest, code, _, state, handler, _⟩ := main_cases sound stepped
          have inCode : statement ∈ program.mainCode := by
            apply sound.suffix.mem
            rw [code]
            exact List.mem_cons_self
          apply ih (sound.main stepped) (handler.trans idle) ?_ ran
          rw [state]
          exact kept statement inCode now system.state holds

/-- Everything is set up, and stays so. -/
structure Settled (program : Program Object Moment State Statement)
    (system : System Object State Statement) : Prop where
  sound : Sound program system
  nothingLeft : setUps program.access system.main = []

theorem Settled.step (settled : Settled program system)
    (stepped : Interrupted.step program system move = some after) : Settled program after := by
  obtain ⟨sound, nothingLeft⟩ := settled
  cases move with
  | main now =>
      refine ⟨sound.main stepped, ?_⟩
      obtain ⟨statement, rest, code, main, _⟩ := main_cases sound stepped
      have below := @setUps_sublist _ _ program.access _ _ (List.sublist_cons_self statement rest)
      rw [← code, nothingLeft] at below
      rw [main]
      exact List.sublist_nil.mp below
  | interrupt =>
      refine ⟨sound.interrupt nothingLeft stepped, ?_⟩
      obtain ⟨_, _, rfl⟩ := interrupt_cases stepped
      exact nothingLeft
  | handler now =>
      refine ⟨sound.handler stepped, ?_⟩
      obtain ⟨_, _, _, _, _, main, _⟩ := handler_cases stepped
      rw [main]
      exact nothingLeft

/-- Wherever the main thread got to: an interrupt that comes there does no harm,
however its handler is interleaved, exactly if nothing is left to set up. -/
theorem harmless_iff
    (kept : ∀ statement ∈ program.mainCode, ∀ now state, P state →
      P (program.exec now statement state).1)
    (uses : ∀ state, P state → ∀ object, ∃ now statement reached,
      Executes (program.exec now) program.handlerCode state statement reached ∧
        Uses program statement object)
    {state : State} (initial : P state) {moments : List Moment}
    (ran : run (Interrupted.step program) (Interrupted.start program state)
      (moments.map .main) = some system)
    (enabled : system.main ≠ []) :
    (∀ moves, ∀ transition ∈ path (Interrupted.step program) system (.interrupt :: moves),
      Meets program transition) ↔ setUps program.access system.main = [] := by
  obtain ⟨sound, idle, holds⟩ := main_run kept (Sound.start state) rfl initial ran
  constructor
  · intro harmless
    by_contra left
    obtain ⟨object, member⟩ := List.exists_mem_of_ne_nil _ left
    obtain ⟨now, statement, reached, executes, uses⟩ := uses system.state holds object
    have stepped : Interrupted.step program system .interrupt =
        some { system with handler := program.handlerCode } := by
      apply if_neg
      simp [enabled, idle]
    obtain ⟨moves, transition, onPath, event, first, same⟩ :=
      @handler_reaches _ _ _ _ _ _ { system with handler := program.handlerCode } _ _ _ _ _
        executes rfl rfl
    have meets := harmless moves transition (by
      rw [path_cons stepped]
      exact List.mem_cons_of_mem _ onPath)
    have ready := meets.1 now event statement first object uses
    rw [same] at ready
    exact (sound.ready object).mp ready member
  · intro nothingLeft moves transition member
    have settled : Settled program system := ⟨sound, nothingLeft⟩
    have always : ∀ transition ∈ path (Interrupted.step program) system (.interrupt :: moves),
        Settled program transition.before :=
      before_always settled fun _ _ _ settled stepped => settled.step stepped
    exact (always transition member).sound.meets

end

end ToySystem.Data.Interrupted
