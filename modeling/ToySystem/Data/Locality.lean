import ToySystem.Data.Run

namespace ToySystem.Data

/-! Systems whose parts do not influence each other.

`view part` is what a state holds of a part.  An operation is local to a part if
it reads and changes nothing else.  Where every event of a system is an operation
of one part, a run is, as far as a part is concerned, the run of the events of
that part.
-/

section

variable {State Part View : Type*}

structure Local (view : Part → State → View) (part : Part) (op : State → State) : Prop where
  own : ∀ first second, view part first = view part second →
    view part (op first) = view part (op second)
  others : ∀ other, other ≠ part → ∀ state, view other (op state) = view other state

variable {view : Part → State → View} {part : Part}

theorem Local.id : Local view part fun state => state where
  own _ _ same := same
  others _ _ _ := rfl

theorem Local.comp {outer inner : State → State} (second : Local view part outer)
    (first : Local view part inner) : Local view part fun state => outer (inner state) where
  own left right same := second.own _ _ (first.own left right same)
  others other different state :=
    (second.others other different (inner state)).trans (first.others other different state)

/-- An operation of any part does the same to a part of which two states hold the same. -/
theorem Local.keeps {op : State → State} (isLocal : Local view part op) (any : Part)
    {first second : State} (same : view any first = view any second) :
    view any (op first) = view any (op second) := by
  by_cases own : any = part
  · subst own
    exact isLocal.own first second same
  · rw [isLocal.others any own first, isLocal.others any own second, same]

/-- The operation may be chosen by what the part holds. -/
theorem Local.depends {op : View → State → State} (each : ∀ held, Local view part (op held)) :
    Local view part fun state => op (view part state) state where
  own left right same := by
    rw [same]
    exact (each (view part right)).own left right same
  others other different state := (each (view part state)).others other different state

end

section

variable {State Event Part View : Type*}

structure Independent (step : State → Event → Option State) (Inv : State → Prop)
    (Allowed : Event → Prop) (view : Part → State → View) (target : Event → Option Part) :
    Prop where
  preserved : ∀ before event after, Inv before → step before event = some after → Inv after
  own : ∀ part first second event after, Inv first → Inv second →
    view part first = view part second → target event = some part →
    step first event = some after →
      ∃ alone, step second event = some alone ∧ view part alone = view part after
  others : ∀ part before event after, Inv before → Allowed event → target event ≠ some part →
    step before event = some after → view part after = view part before

variable {step : State → Event → Option State} {Inv : State → Prop} {Allowed : Event → Prop}
  {view : Part → State → View} {target : Event → Option Part}

theorem Independent.run_filter [DecidableEq Part]
    (independent : Independent step Inv Allowed view target) (part : Part)
    {first second final : State} {events : List Event} (validFirst : Inv first)
    (validSecond : Inv second) (same : view part first = view part second)
    (allowed : ∀ event ∈ events, Allowed event) (ran : run step first events = some final) :
    ∃ alone, run step second (events.filter fun event => target event = some part) = some alone ∧
      view part alone = view part final := by
  induction events generalizing first second with
  | nil =>
      cases ran
      exact ⟨second, rfl, same.symm⟩
  | cons event rest ih =>
      rw [List.forall_mem_cons] at allowed
      cases stepped : step first event with
      | none => simp [run, stepped] at ran
      | some next =>
          rw [run_cons stepped] at ran
          have validNext := independent.preserved first event next validFirst stepped
          by_cases mine : target event = some part
          · obtain ⟨nextSecond, steppedSecond, sameNext⟩ :=
              independent.own part first second event next validFirst validSecond same mine stepped
            have validNextSecond :=
              independent.preserved second event nextSecond validSecond steppedSecond
            obtain ⟨alone, ranAlone, sameFinal⟩ :=
              ih validNext validNextSecond sameNext.symm allowed.2 ran
            refine ⟨alone, ?_, sameFinal⟩
            rw [List.filter_cons_of_pos (by simpa using mine), run_cons steppedSecond]
            exact ranAlone
          · have kept := independent.others part first event next validFirst allowed.1 mine stepped
            rw [List.filter_cons_of_neg (by simpa using mine)]
            exact ih validNext validSecond (kept.trans same) allowed.2 ran

/-- As `run_filter`, where some events concern all parts and do to each of them what
depends on nothing else. -/
theorem Independent.run_concerning [DecidableEq Part]
    (independent : Independent step Inv Allowed view target) (part : Part) (shared : Event → Bool)
    (together : ∀ first second event after, Inv first → Inv second →
      view part first = view part second → shared event = true → step first event = some after →
        ∃ alone, step second event = some alone ∧ view part alone = view part after)
    {first second final : State} {events : List Event} (validFirst : Inv first)
    (validSecond : Inv second) (same : view part first = view part second)
    (allowed : ∀ event ∈ events, shared event = false → Allowed event)
    (ran : run step first events = some final) :
    ∃ alone, run step second
        (events.filter fun event => shared event || target event = some part) = some alone ∧
      view part alone = view part final := by
  induction events generalizing first second with
  | nil =>
      cases ran
      exact ⟨second, rfl, same.symm⟩
  | cons event rest ih =>
      rw [List.forall_mem_cons] at allowed
      obtain ⟨next, stepped, later⟩ := Option.bind_eq_some_iff.mp ran
      have validNext := independent.preserved first event next validFirst stepped
      by_cases concerns : shared event = true ∨ target event = some part
      · obtain ⟨nextSecond, steppedSecond, sameNext⟩ :
            ∃ alone, step second event = some alone ∧ view part alone = view part next := by
          rcases concerns with both | mine
          · exact together first second event next validFirst validSecond same both stepped
          · exact independent.own part first second event next validFirst validSecond same mine
              stepped
        have validNextSecond :=
          independent.preserved second event nextSecond validSecond steppedSecond
        obtain ⟨alone, ranAlone, sameFinal⟩ :=
          ih validNext validNextSecond sameNext.symm allowed.2 later
        refine ⟨alone, ?_, sameFinal⟩
        rw [List.filter_cons_of_pos (by simpa using concerns), run_cons steppedSecond]
        exact ranAlone
      · rw [not_or, Bool.not_eq_true] at concerns
        have kept := independent.others part first event next validFirst
          (allowed.1 concerns.1) concerns.2 stepped
        rw [List.filter_cons_of_neg (by simpa using concerns)]
        exact ih validNext validSecond (kept.trans same) allowed.2 later

/-- Events of different parts commute. -/
theorem Independent.swap (independent : Independent step Inv Allowed view target)
    {part other : Part} (different : part ≠ other) {first second : Event} {before after : State}
    (valid : Inv before) (allowedFirst : Allowed first) (allowedSecond : Allowed second)
    (firstMine : target first = some part) (secondTheirs : target second = some other)
    (ran : run step before [first, second] = some after) :
    ∃ swapped, run step before [second, first] = some swapped ∧
      view part swapped = view part after ∧ view other swapped = view other after := by
  obtain ⟨middle, firstStep, ranSecond⟩ := Option.bind_eq_some_iff.mp ran
  obtain ⟨_, secondStep, done⟩ := Option.bind_eq_some_iff.mp ranSecond
  cases done
  have validMiddle := independent.preserved before first middle valid firstStep
  have firstNotTheirs : target first ≠ some other := by
    rw [firstMine]
    exact fun same => different (Option.some.inj same)
  have secondNotMine : target second ≠ some part := by
    rw [secondTheirs]
    exact fun same => different (Option.some.inj same).symm
  have theirsKept :=
    independent.others other before first middle valid allowedFirst firstNotTheirs firstStep
  have mineKept :=
    independent.others part middle second after validMiddle allowedSecond secondNotMine secondStep
  obtain ⟨early, earlyStep, theirs⟩ :=
    independent.own other middle before second after validMiddle valid theirsKept secondTheirs
      secondStep
  have validEarly := independent.preserved before second early valid earlyStep
  have mineKeptEarly :=
    independent.others part before second early valid allowedSecond secondNotMine earlyStep
  obtain ⟨swapped, lateStep, mine⟩ :=
    independent.own part before early first middle valid validEarly mineKeptEarly.symm firstMine
      firstStep
  have theirsKeptLate :=
    independent.others other early first swapped validEarly allowedFirst firstNotTheirs lateStep
  refine ⟨swapped, ?_, mine.trans mineKept.symm, theirsKeptLate.trans theirs⟩
  rw [run_cons earlyStep, run_cons lateStep]
  rfl

end

end ToySystem.Data
