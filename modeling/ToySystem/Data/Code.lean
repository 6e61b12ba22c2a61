import Mathlib.Logic.Basic

namespace ToySystem.Data

/-! Code that changes a state and need not return.

`none` is code that goes on for ever, as far as the fuel of its loops shows.
-/

abbrev Code (State Result : Type) := StateT State Option Result

section

variable {State Result Last : Type}

/-- Total correctness from one state: the code returns, and with what it promises. -/
def Returns (code : Code State Result) (start : State) (post : Result → State → Prop) : Prop :=
  ∃ result final, code start = some (result, final) ∧ post result final

namespace Returns

variable {code : Code State Result} {start final : State} {result : Result}
  {post weaker : Result → State → Prop} {next : Result → Code State Last}
  {last : Last → State → Prop}

theorem of_eq (ran : code start = some (result, final)) (holds : post result final) :
    Returns code start post :=
  ⟨result, final, ran, holds⟩

theorem pure (holds : post result start) : Returns (Pure.pure result) start post :=
  ⟨result, start, rfl, holds⟩

theorem mono (returns : Returns code start post)
    (weaken : ∀ result final, post result final → weaker result final) :
    Returns code start weaker := by
  obtain ⟨result, final, ran, holds⟩ := returns
  exact ⟨result, final, ran, weaken result final holds⟩

theorem bind (returns : Returns code start post)
    (rest : ∀ result middle, post result middle → Returns (next result) middle last) :
    Returns (code >>= next) start last := by
  obtain ⟨result, middle, ran, holds⟩ := returns
  obtain ⟨answer, final, ended, kept⟩ := rest result middle holds
  refine ⟨answer, final, ?_, kept⟩
  change (code start).bind (fun reached => next reached.1 reached.2) = some (answer, final)
  rw [ran, Option.bind_some, ended]

theorem elim (returns : Returns code start post) (ran : code start = some (result, final)) :
    post result final := by
  obtain ⟨answer, reached, same, holds⟩ := returns
  rw [ran] at same
  cases same
  exact holds

end Returns

/-- Whatever the specified code does, the code does with enough fuel and the same result, where
`rel` says which states stand for which. -/
def Simulates {Abstract : Type} (rel : State → Abstract → Prop) (code : Nat → Code State Result)
    (spec : Code Abstract Result) : Prop :=
  ∀ before result after, spec before = some (result, after) →
    ∃ enough, ∀ fuel, enough < fuel → ∀ start, rel start before →
      Returns (code fuel) start fun answer final => answer = result ∧ rel final after

namespace Simulates

variable {Abstract Event : Type} {rel : State → Abstract → Prop}

theorem pure (result : Result) :
    Simulates rel (fun _ => (Pure.pure result : Code State Result)) (Pure.pure result) := by
  intro before answer after ran
  cases ran
  exact ⟨0, fun _ _ _ related => .pure ⟨rfl, related⟩⟩

theorem bind {code : Nat → Code State Result} {spec : Code Abstract Result}
    {next : Nat → Result → Code State Last} {later : Result → Code Abstract Last}
    (first : Simulates rel code spec)
    (second : ∀ result, Simulates rel (fun fuel => next fuel result) (later result)) :
    Simulates rel (fun fuel => code fuel >>= next fuel) (spec >>= later) := by
  intro before result after ran
  obtain ⟨⟨middle, between⟩, started, ended⟩ := Option.bind_eq_some_iff.mp ran
  obtain ⟨enoughFirst, first⟩ := first before middle between started
  obtain ⟨enoughSecond, second⟩ := second middle between result after ended
  refine ⟨max enoughFirst enoughSecond, fun fuel enough start related => ?_⟩
  refine (first fuel (by omega) start related).bind ?_
  rintro answer final ⟨rfl, kept⟩
  exact second fuel (by omega) final kept

/-- A run is simulated if each of its events is. -/
theorem mapM {code : Nat → Event → Code State Result} {spec : Event → Code Abstract Result}
    (each : ∀ event, Simulates rel (fun fuel => code fuel event) (spec event))
    (events : List Event) :
    Simulates rel (fun fuel => events.mapM (code fuel)) (events.mapM spec) := by
  induction events with
  | nil => exact pure []
  | cons event events ih =>
      simp only [List.mapM_cons]
      exact (each event).bind fun result => ih.bind fun results => pure (result :: results)

end Simulates

end

end ToySystem.Data
