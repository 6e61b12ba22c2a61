import Mathlib.Data.List.Basic

namespace ToySystem.Data

/-! Threads of statements over a shared state.

A thread is the list of the statements it still has to execute.  A statement
changes the shared state and may put further statements in front of the rest:
the branch that was taken, the body of a function that was called, a statement
with the value of a local variable filled in.  Interleavings are built from
`advance`, or from `proceed` where statements may block; `Finishes` is the run of
a thread that nobody disturbs, and `Executes` says which statements such a run
executes, and in which states.
-/

section

variable {Statement State : Type*} (exec : Statement → State → State × List Statement)

def advance (state : State) : List Statement → Option (State × List Statement)
  | [] => none
  | statement :: rest => some ((exec statement state).1, (exec statement state).2 ++ rest)

inductive Finishes : List Statement → State → State → Prop
  | done (state : State) : Finishes [] state state
  | next {statement : Statement} {rest : List Statement} {state final : State}
      (later : Finishes ((exec statement state).2 ++ rest) (exec statement state).1 final) :
      Finishes (statement :: rest) state final

inductive Executes : List Statement → State → Statement → State → Prop
  | here (statement : Statement) (rest : List Statement) (state : State) :
      Executes (statement :: rest) state statement state
  | later {statement target : Statement} {rest : List Statement} {state reached : State}
      (run : Executes ((exec statement state).2 ++ rest) (exec statement state).1 target reached) :
      Executes (statement :: rest) state target reached

variable {exec}

theorem advance_eq_some {state after : State} {code rest : List Statement}
    (advanced : advance exec state code = some (after, rest)) :
    ∃ statement others, code = statement :: others ∧ after = (exec statement state).1 ∧
      rest = (exec statement state).2 ++ others := by
  cases code with
  | nil => cases advanced
  | cons statement others =>
      cases advanced
      exact ⟨statement, others, rfl, rfl, rfl⟩

/-- `none` means that the thread has ended or is blocked. -/
def proceed (exec : Statement → State → Option (State × List Statement)) (state : State) :
    List Statement → Option (State × List Statement)
  | [] => none
  | statement :: rest => (exec statement state).map fun (after, added) => (after, added ++ rest)

theorem proceed_eq_some {exec : Statement → State → Option (State × List Statement)}
    {state after : State} {code rest : List Statement}
    (proceeded : proceed exec state code = some (after, rest)) :
    ∃ statement others added, code = statement :: others ∧
      exec statement state = some (after, added) ∧ rest = added ++ others := by
  cases code with
  | nil => cases proceeded
  | cons statement others =>
      obtain ⟨⟨_, added⟩, executed, same⟩ := Option.map_eq_some_iff.mp proceeded
      cases same
      exact ⟨statement, others, added, rfl, executed, rfl⟩

/-- What holds of every statement a thread has left still does, if it holds of
those that were added. -/
theorem forall_mem_advanced {Holds : Statement → Prop} {statement : Statement}
    {others added : List Statement} (all : ∀ next ∈ statement :: others, Holds next)
    (more : ∀ next ∈ added, Holds next) : ∀ next ∈ added ++ others, Holds next := by
  rw [List.forall_mem_append]
  exact ⟨more, fun next old => all next (List.mem_cons_of_mem statement old)⟩

theorem Finishes.append {first second : List Statement} {start middle final : State}
    (head : Finishes exec first start middle) (tail : Finishes exec second middle final) :
    Finishes exec (first ++ second) start final := by
  induction head with
  | done state => exact tail
  | next later ih =>
      have rest := ih tail
      rw [List.append_assoc] at rest
      exact .next rest

/-- A statement that adds no others is executed and done with. -/
theorem Finishes.plain {statement : Statement} {rest : List Statement} {state final : State}
    (none : (exec statement state).2 = [])
    (later : Finishes exec rest (exec statement state).1 final) :
    Finishes exec (statement :: rest) state final := by
  apply Finishes.next
  rw [none]
  exact later

/-- A thread inside a larger system, which its statements leave alone. -/
theorem Finishes.map {Outer OuterState : Type*}
    {outerExec : Outer → OuterState → OuterState × List Outer} (inject : Statement → Outer)
    (embed : State → OuterState)
    (agree : ∀ statement state, outerExec (inject statement) (embed state) =
      (embed (exec statement state).1, (exec statement state).2.map inject))
    {code : List Statement} {start final : State} (finishes : Finishes exec code start final) :
    Finishes outerExec (code.map inject) (embed start) (embed final) := by
  induction finishes with
  | done state => exact .done (embed state)
  | next later ih =>
      apply Finishes.next
      rw [agree, ← List.map_append]
      exact ih

theorem not_executes_nil {target : Statement} {state reached : State} :
    ¬ Executes exec [] state target reached := by
  intro executes
  cases executes

theorem executes_cons {statement target : Statement} {rest : List Statement}
    {state reached : State} : Executes exec (statement :: rest) state target reached ↔
      target = statement ∧ reached = state ∨
        Executes exec ((exec statement state).2 ++ rest) (exec statement state).1 target
          reached := by
  constructor
  · intro executes
    cases executes with
    | here => exact .inl ⟨rfl, rfl⟩
    | later run => exact .inr run
  · rintro (⟨rfl, rfl⟩ | run)
    · exact .here target rest reached
    · exact .later run

/-- The statements of a sequence are those of its first part and, in the states
in which that ends, those of its second. -/
theorem Finishes.executes_append {first second : List Statement} {start middle : State}
    (finishes : Finishes exec first start middle) {target : Statement} {reached : State} :
    Executes exec (first ++ second) start target reached ↔
      Executes exec first start target reached ∨ Executes exec second middle target reached := by
  induction finishes with
  | done state => simp [not_executes_nil]
  | next later ih =>
      rw [List.append_assoc] at ih
      rw [List.cons_append, executes_cons, ih, executes_cons, or_assoc]

/-- A statement of a thread inside a larger system, as in `Finishes.map`. -/
theorem executes_map {Outer OuterState : Type*}
    {outerExec : Outer → OuterState → OuterState × List Outer} (inject : Statement → Outer)
    (embed : State → OuterState)
    (agree : ∀ statement state, outerExec (inject statement) (embed state) =
      (embed (exec statement state).1, (exec statement state).2.map inject))
    (injective : Function.Injective inject) {code : List Statement} {start final : State}
    (finishes : Finishes exec code start final) {target : Statement} {reached : OuterState} :
    Executes outerExec (code.map inject) (embed start) (inject target) reached ↔
      ∃ inner, Executes exec code start target inner ∧ reached = embed inner := by
  induction finishes with
  | done state => simp [not_executes_nil]
  | @next statement rest state final later ih =>
      rw [List.map_append] at ih
      rw [List.map_cons, executes_cons, agree, ih, injective.eq_iff]
      constructor
      · rintro (⟨rfl, rfl⟩ | ⟨inner, run, rfl⟩)
        · exact ⟨state, .here target rest state, rfl⟩
        · exact ⟨inner, .later run, rfl⟩
      · rintro ⟨inner, executes, rfl⟩
        rcases executes_cons.mp executes with ⟨rfl, rfl⟩ | run
        · exact .inl ⟨rfl, rfl⟩
        · exact .inr ⟨inner, run, rfl⟩

end

end ToySystem.Data
