import Mathlib.Data.List.Basic

namespace ToySystem.Data

/-! Runs of a partial step function.

A step function says what one event does to a state; `none` means that the
event cannot happen there, or that the program is trapped in it.  A run is
described by the transitions it makes, so that a claim of the form "immediately
after such an event ..." is a statement about the members of `path`.
-/

structure Transition (State Event : Type*) where
  before : State
  event : Event
  after : State

section

variable {State Event : Type*} (step : State → Event → Option State)

def run (start : State) : List Event → Option State
  | [] => some start
  | event :: events => (step start event).bind fun next => run next events

def path (start : State) : List Event → List (Transition State Event)
  | [] => []
  | event :: events =>
      match step start event with
      | none => []
      | some next => ⟨start, event, next⟩ :: path next events

def visited (start : State) (events : List Event) : List State :=
  start :: (path step start events).map Transition.after

variable {step}

theorem run_cons {start next : State} {event : Event} (stepped : step start event = some next)
    (events : List Event) : run step start (event :: events) = run step next events := by
  simp [run, stepped]

theorem run_singleton (start : State) (event : Event) : run step start [event] = step start event := by
  cases stepped : step start event <;> simp [run, stepped]

theorem run_append (start : State) (first second : List Event) :
    run step start (first ++ second) =
      (run step start first).bind fun middle => run step middle second := by
  induction first generalizing start with
  | nil => rfl
  | cons event first ih =>
      cases stepped : step start event with
      | none => simp [run, stepped]
      | some next => rw [List.cons_append, run_cons stepped, run_cons stepped, ih]

theorem path_cons {start next : State} {event : Event} (stepped : step start event = some next)
    (events : List Event) :
    path step start (event :: events) = ⟨start, event, next⟩ :: path step next events := by
  simp [path, stepped]

theorem mem_path_append {start middle : State} {first : List Event} {second : List Event}
    {transition : Transition State Event} (ran : run step start first = some middle)
    (member : transition ∈ path step middle second) :
    transition ∈ path step start (first ++ second) := by
  induction first generalizing start with
  | nil =>
      cases ran
      exact member
  | cons event first ih =>
      cases stepped : step start event with
      | none => simp [run, stepped] at ran
      | some next =>
          rw [run_cons stepped] at ran
          rw [List.cons_append, path_cons stepped]
          exact List.mem_cons_of_mem _ (ih ran)

theorem event_mem_of_mem_path {start : State} {events : List Event}
    {transition : Transition State Event} (member : transition ∈ path step start events) :
    transition.event ∈ events := by
  induction events generalizing start with
  | nil => cases member
  | cons event rest ih =>
      cases stepped : step start event with
      | none => simp [path, stepped] at member
      | some next =>
          rw [path_cons stepped] at member
          rcases List.mem_cons.mp member with rfl | later
          · exact List.mem_cons_self
          · exact List.mem_cons_of_mem event (ih later)

theorem run_mem_visited {start final : State} {events : List Event}
    (ran : run step start events = some final) : final ∈ visited step start events := by
  induction events generalizing start with
  | nil =>
      cases ran
      exact List.mem_cons_self
  | cons event rest ih =>
      cases stepped : step start event with
      | none => simp [run, stepped] at ran
      | some next =>
          rw [run_cons stepped] at ran
          rw [visited, path_cons stepped]
          exact List.mem_cons_of_mem start (ih ran)

/-- The transition rule: allowed transitions carry the invariant along, and each of
them has the property. -/
theorem path_forall {Inv : State → Prop} {Allowed Good : Transition State Event → Prop}
    {start : State} {events : List Event} (initial : Inv start)
    (preserved : ∀ before event after, Inv before → Allowed ⟨before, event, after⟩ →
      step before event = some after → Inv after ∧ Good ⟨before, event, after⟩)
    (allowed : ∀ transition ∈ path step start events, Allowed transition) :
    ∀ transition ∈ path step start events, Good transition := by
  induction events generalizing start with
  | nil => simp [path]
  | cons event rest ih =>
      cases stepped : step start event with
      | none => simp [path, stepped]
      | some next =>
          rw [path_cons stepped, List.forall_mem_cons] at allowed ⊢
          obtain ⟨valid, good⟩ := preserved start event next initial allowed.1 stepped
          exact ⟨good, ih valid allowed.2⟩

/-- A run whose steps are all allowed visits only states with an invariant that
allowed steps preserve. -/
theorem visited_invariant {Inv : State → Prop} {Allowed : State → Event → Prop} {start : State}
    {events : List Event} (initial : Inv start)
    (preserved : ∀ before event after, Inv before → Allowed before event →
      step before event = some after → Inv after)
    (allowed : ∀ transition ∈ path step start events, Allowed transition.before transition.event) :
    ∀ state ∈ visited step start events, Inv state := by
  have reached : ∀ transition ∈ path step start events, Inv transition.after := by
    refine path_forall initial ?_ allowed
    intro before event after holds permitted stepped
    have valid := preserved before event after holds permitted stepped
    exact ⟨valid, valid⟩
  rw [visited, List.forall_mem_cons, List.forall_mem_map]
  exact ⟨initial, reached⟩

/-- As `visited_invariant`, where every step preserves the invariant. -/
theorem visited_always {Inv : State → Prop} {start : State} {events : List Event}
    (initial : Inv start)
    (preserved : ∀ before event after, Inv before → step before event = some after → Inv after) :
    ∀ state ∈ visited step start events, Inv state :=
  visited_invariant initial
    (fun before event after holds (_ : True) stepped => preserved before event after holds stepped)
    (fun _ _ => trivial)

theorem before_always {Inv : State → Prop} {start : State} {events : List Event}
    (initial : Inv start)
    (preserved : ∀ before event after, Inv before → step before event = some after → Inv after) :
    ∀ transition ∈ path step start events, Inv transition.before :=
  path_forall initial
    (fun before event after holds (_ : True) stepped =>
      ⟨preserved before event after holds stepped, holds⟩)
    (fun _ _ => trivial)

theorem run_invariant {Inv : State → Prop} {start final : State} {events : List Event}
    (initial : Inv start)
    (preserved : ∀ before event after, Inv before → step before event = some after → Inv after)
    (ran : run step start events = some final) : Inv final := by
  induction events generalizing start with
  | nil =>
      cases ran
      exact initial
  | cons event rest ih =>
      cases stepped : step start event with
      | none => simp [run, stepped] at ran
      | some next =>
          rw [run_cons stepped] at ran
          exact ih (preserved start event next initial stepped) ran

/-- The simulation rule: an abstract state that follows every allowed step belongs to
the final state when it was folded over the events. -/
theorem run_simulates {Abstract : Type*} {Sim : Abstract → State → Prop}
    {Allowed : Transition State Event → Prop} {apply : Abstract → Event → Abstract}
    (simulates : ∀ abstract before event after, Sim abstract before →
      Allowed ⟨before, event, after⟩ → step before event = some after →
        Sim (apply abstract event) after)
    {abstract : Abstract} {start final : State} {events : List Event}
    (initial : Sim abstract start) (ran : run step start events = some final)
    (allowed : ∀ transition ∈ path step start events, Allowed transition) :
    Sim (events.foldl apply abstract) final := by
  induction events generalizing abstract start with
  | nil =>
      cases ran
      exact initial
  | cons event rest ih =>
      cases stepped : step start event with
      | none => simp [run, stepped] at ran
      | some next =>
          rw [run_cons stepped] at ran
          rw [path_cons stepped, List.forall_mem_cons] at allowed
          exact ih (simulates abstract start event next initial allowed.1 stepped) ran allowed.2

theorem run_total {Inv : State → Prop} {Allowed : Event → Prop} {start : State}
    {events : List Event} (initial : Inv start)
    (progress : ∀ before event, Inv before → Allowed event →
      ∃ after, step before event = some after ∧ Inv after)
    (allowed : ∀ event ∈ events, Allowed event) :
    ∃ final, run step start events = some final ∧ Inv final := by
  induction events generalizing start with
  | nil => exact ⟨start, rfl, initial⟩
  | cons event rest ih =>
      rw [List.forall_mem_cons] at allowed
      obtain ⟨next, stepped, valid⟩ := progress start event initial allowed.1
      rw [run_cons stepped]
      exact ih valid allowed.2

/-- The converse: where no other event has a next state, a run to the end met none. -/
theorem allowed_of_run {Inv : State → Prop} {Allowed : Event → Prop} {start final : State}
    {events : List Event} (initial : Inv start)
    (allows : ∀ before event after, Inv before → step before event = some after →
      Allowed event ∧ Inv after)
    (ran : run step start events = some final) : ∀ event ∈ events, Allowed event := by
  induction events generalizing start with
  | nil => simp
  | cons event rest ih =>
      cases stepped : step start event with
      | none => simp [run, stepped] at ran
      | some next =>
          rw [run_cons stepped] at ran
          obtain ⟨allowed, valid⟩ := allows start event next initial stepped
          exact List.forall_mem_cons.mpr ⟨allowed, ih valid ran⟩

/-- The accounting rule: where a measure never falls along allowed steps, and
stays the same exactly in the good ones, a run ends with the measure it started
with exactly if all its steps are good. -/
theorem run_measure_iff {Inv : State → Prop} {Allowed Good : State → Event → Prop}
    (measure : State → Nat)
    (accounts : ∀ before event after, Inv before → Allowed before event →
      step before event = some after → Inv after ∧ measure before ≤ measure after ∧
        (measure after = measure before ↔ Good before event))
    {start final : State} {events : List Event} (initial : Inv start)
    (ran : run step start events = some final)
    (allowed : ∀ transition ∈ path step start events, Allowed transition.before transition.event) :
    Inv final ∧ measure start ≤ measure final ∧ (measure final = measure start ↔
      ∀ transition ∈ path step start events, Good transition.before transition.event) := by
  induction events generalizing start with
  | nil =>
      cases ran
      exact ⟨initial, Nat.le_refl _, by simp [path]⟩
  | cons event rest ih =>
      cases stepped : step start event with
      | none => simp [run, stepped] at ran
      | some next =>
          rw [run_cons stepped] at ran
          rw [path_cons stepped] at allowed ⊢
          rw [List.forall_mem_cons] at allowed ⊢
          obtain ⟨valid, rises, exactly⟩ := accounts start event next initial allowed.1 stepped
          obtain ⟨validFinal, risesLater, exactlyLater⟩ := ih valid ran allowed.2
          refine ⟨validFinal, Nat.le_trans rises risesLater, ?_⟩
          rw [← exactly, ← exactlyLater]
          omega

/-- The comparison rule: where two properties of a transition agree under an
invariant that the first of them carries along, a run has the one throughout
exactly when it has the other throughout. -/
theorem path_forall_iff {Inv : State → Prop} {P Q : Transition State Event → Prop}
    {start : State} {events : List Event} (initial : Inv start)
    (agree : ∀ before event after, Inv before → step before event = some after →
      (P ⟨before, event, after⟩ ↔ Q ⟨before, event, after⟩))
    (carried : ∀ before event after, Inv before → step before event = some after →
      P ⟨before, event, after⟩ → Inv after) :
    (∀ transition ∈ path step start events, P transition) ↔
      ∀ transition ∈ path step start events, Q transition := by
  induction events generalizing start with
  | nil => simp [path]
  | cons event rest ih =>
      cases stepped : step start event with
      | none => simp [path, stepped]
      | some next =>
          rw [path_cons stepped]
          simp only [List.forall_mem_cons]
          have here := agree start event next initial stepped
          constructor
          · rintro ⟨first, later⟩
            exact ⟨here.mp first, (ih (carried start event next initial stepped first)).mp later⟩
          · rintro ⟨first, later⟩
            have holds := here.mpr first
            exact ⟨holds, (ih (carried start event next initial stepped holds)).mpr later⟩

/-- The rule of the history: where an account of the events so far belongs to every state,
a run has a property of its transitions throughout exactly when the account before each
event that happens has the other one. -/
theorem path_forall_iff_history {Account : Type*} {Fits : Account → State → Prop}
    {hear : Account → Event → Account} {P : Transition State Event → Prop}
    {Q : Account → Event → Prop} {account : Account} {start : State} {events : List Event}
    (initial : Fits account start)
    (fits : ∀ account before event after, Fits account before → step before event = some after →
      Fits (hear account event) after ∧ (P ⟨before, event, after⟩ ↔ Q account event)) :
    (∀ transition ∈ path step start events, P transition) ↔
      ∀ before event rest, events = before ++ event :: rest →
        (run step start (before ++ [event])).isSome = true →
          Q (before.foldl hear account) event := by
  induction events generalizing account start with
  | nil => simp [path]
  | cons first rest ih =>
      cases stepped : step start first with
      | none =>
          simp only [path, stepped, List.not_mem_nil, false_imp_iff, implies_true, true_iff]
          intro before event after same ran
          cases before with
          | nil =>
              obtain ⟨rfl, _⟩ := List.cons.inj same
              simp [run, stepped] at ran
          | cons head before =>
              obtain ⟨rfl, _⟩ := List.cons.inj same
              simp [run, stepped] at ran
      | some next =>
          obtain ⟨later, here⟩ := fits account start first next initial stepped
          rw [path_cons stepped, List.forall_mem_cons, here, ih later]
          constructor
          · rintro ⟨now, others⟩ before event after same ran
            cases before with
            | nil =>
                obtain ⟨rfl, _⟩ := List.cons.inj same
                exact now
            | cons head before =>
                obtain ⟨rfl, tail⟩ := List.cons.inj same
                rw [List.cons_append, run_cons stepped] at ran
                exact others before event after tail ran
          · intro all
            refine ⟨all [] first rest rfl (by simp [run, stepped]), ?_⟩
            intro before event after same ran
            refine all (first :: before) event after (by rw [same]; rfl) ?_
            rwa [List.cons_append, run_cons stepped]

/-- The high-water rule: a counter that a step raises to what the step demands, where it
is below that, ends at the highest demand of the run. -/
theorem run_peak {Inv : State → Prop} {Allowed : State → Event → Prop} {counter : State → Nat}
    {demand : Transition State Event → Nat} {start final : State} {events : List Event}
    (initial : Inv start)
    (raised : ∀ before event after, Inv before → Allowed before event →
      step before event = some after →
        Inv after ∧ counter after = max (counter before) (demand ⟨before, event, after⟩))
    (allowed : ∀ transition ∈ path step start events, Allowed transition.before transition.event)
    (ran : run step start events = some final) :
    counter final = ((path step start events).map demand).foldl max (counter start) := by
  induction events generalizing start with
  | nil =>
      cases ran
      rfl
  | cons event rest ih =>
      cases stepped : step start event with
      | none => simp [run, stepped] at ran
      | some next =>
          rw [run_cons stepped] at ran
          rw [path_cons stepped] at allowed ⊢
          rw [List.forall_mem_cons] at allowed
          obtain ⟨valid, level⟩ := raised start event next initial allowed.1 stepped
          rw [List.map_cons, List.foldl_cons, ← level]
          exact ih valid allowed.2 ran

end

end ToySystem.Data
