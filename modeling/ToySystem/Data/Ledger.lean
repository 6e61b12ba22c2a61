import Mathlib.Data.List.Perm.Basic
import ToySystem.Data.Lifecycle
import ToySystem.Data.Run

namespace ToySystem.Data

/-! Ledgers of what is held.

A log of operations is worked off against the list of the objects held.  A
release or a use of what is not held has no next state, so that a log that can
be worked off to its end contains none.
-/

section

variable {Object : Type*} [DecidableEq Object]

def ledgerStep (holding : List Object) : Operation Object → Option (List Object)
  | .acquire object => some (object :: holding)
  | .use object => if object ∈ holding then some holding else none
  | .delete object => if object ∈ holding then some (holding.erase object) else none

/-- What is held after the log, if it never touches what is not held. -/
def balance (log : List (Operation Object)) : Option (List Object) := run ledgerStep [] log

variable {holding objects : List Object}

theorem run_acquire (objects holding : List Object) :
    run ledgerStep holding (objects.map .acquire) = some (objects.reverse ++ holding) := by
  induction objects generalizing holding with
  | nil => rfl
  | cons object objects ih =>
      have stepped : ledgerStep holding (.acquire object) = some (object :: holding) := rfl
      rw [List.map_cons, run_cons stepped, ih, List.reverse_cons, List.append_assoc]
      rfl

/-- Releases leave nothing behind exactly if they are those of what is held. -/
theorem run_delete_eq_nil :
    run ledgerStep holding (objects.map .delete) = some [] ↔ holding.Perm objects := by
  induction objects generalizing holding with
  | nil => simp [run]
  | cons object objects ih =>
      by_cases held : object ∈ holding
      · have stepped : ledgerStep holding (.delete object) = some (holding.erase object) :=
          if_pos held
        have split : holding.Perm (object :: objects) ↔ (holding.erase object).Perm objects := by
          rw [List.perm_comm, List.cons_perm_iff_perm_erase, List.perm_comm]
          exact and_iff_right held
        rw [List.map_cons, run_cons stepped, ih, split]
      · have stuck : ledgerStep holding (.delete object) = none := if_neg held
        have absent : ¬ holding.Perm (object :: objects) :=
          fun same => held (same.mem_iff.mpr List.mem_cons_self)
        simp [run, stuck, absent]

theorem balance_acquire (acquired : List Object) :
    balance (acquired.map .acquire) = some acquired.reverse := by
  rw [balance, run_acquire, List.append_nil]

theorem balance_ladder {acquired released : List Object} :
    balance (acquired.map .acquire ++ released.map .delete) = some [] ↔
      acquired.Perm released := by
  rw [balance, run_append, run_acquire, List.append_nil, Option.bind_some, run_delete_eq_nil]
  exact (List.reverse_perm acquired).congr_left released

/-- What is released was held from the start or acquired on the way. -/
theorem mem_or_acquired_of_delete {log : List (Operation Object)} {object : Object}
    {left : List Object} (ran : run ledgerStep holding log = some left)
    (released : .delete object ∈ log) : object ∈ holding ∨ .acquire object ∈ log := by
  induction log generalizing holding with
  | nil => cases released
  | cons operation log ih =>
      cases stepped : ledgerStep holding operation with
      | none => simp [run, stepped] at ran
      | some next =>
          rw [run_cons stepped] at ran
          rcases List.mem_cons.mp released with same | later
          · subst operation
            refine .inl ?_
            by_contra absent
            simp [ledgerStep, absent] at stepped
          · rcases ih ran later with inNext | acquired
            · cases operation with
              | acquire other =>
                  cases stepped
                  rcases List.mem_cons.mp inNext with same | old
                  · exact .inr (by simp [same])
                  · exact .inl old
              | use other =>
                  simp only [ledgerStep, Option.ite_none_right_eq_some, Option.some.injEq]
                    at stepped
                  exact .inl (stepped.2 ▸ inNext)
              | delete other =>
                  simp only [ledgerStep, Option.ite_none_right_eq_some, Option.some.injEq]
                    at stepped
                  exact .inl (List.mem_of_mem_erase (stepped.2 ▸ inNext))
            · exact .inr (List.mem_cons_of_mem operation acquired)

theorem acquired_of_delete {log : List (Operation Object)} {object : Object}
    {left : List Object} (balanced : balance log = some left)
    (released : .delete object ∈ log) : .acquire object ∈ log :=
  (mem_or_acquired_of_delete balanced released).resolve_left List.not_mem_nil

/-- The log can be worked off, and these are held after it, in whatever order. -/
def Balances (log : List (Operation Object)) (objects : List Object) : Prop :=
  ∃ held, balance log = some held ∧ held.Perm objects

namespace Balances

variable {log : List (Operation Object)} {object : Object} {others : List Object}

theorem empty : Balances ([] : List (Operation Object)) [] := ⟨[], rfl, .refl []⟩

theorem perm (balances : Balances log objects) (same : objects.Perm others) :
    Balances log others := by
  obtain ⟨held, worked, order⟩ := balances
  exact ⟨held, worked, order.trans same⟩

theorem acquire (balances : Balances log objects) (object : Object) :
    Balances (log ++ [.acquire object]) (object :: objects) := by
  obtain ⟨held, worked, order⟩ := balances
  refine ⟨object :: held, ?_, order.cons object⟩
  rw [balance, run_append, ← balance, worked, Option.bind_some, run_singleton]
  rfl

theorem use (balances : Balances log objects) (member : object ∈ objects) :
    Balances (log ++ [.use object]) objects := by
  obtain ⟨held, worked, order⟩ := balances
  refine ⟨held, ?_, order⟩
  rw [balance, run_append, ← balance, worked, Option.bind_some, run_singleton]
  exact if_pos (order.mem_iff.mpr member)

theorem delete (balances : Balances log (object :: objects)) :
    Balances (log ++ [.delete object]) objects := by
  obtain ⟨held, worked, order⟩ := balances
  have member : object ∈ held := order.mem_iff.mpr List.mem_cons_self
  refine ⟨held.erase object, ?_, List.cons_perm_iff_perm_erase.mp order.symm |>.2.symm⟩
  rw [balance, run_append, ← balance, worked, Option.bind_some, run_singleton]
  exact if_pos member

end Balances

end

/-- What was granted of the attempts is what is released. -/
theorem filter_perm_iff {Object : Type*} {attempted released kept : List Object}
    {granted : Object → Bool} (parts : attempted.Perm (released ++ kept)) :
    (attempted.filter granted).Perm released ↔
      (∀ object ∈ released, granted object = true) ∧
        ∀ object ∈ kept, granted object = false := by
  have filtered := parts.filter granted
  rw [List.filter_append] at filtered
  rw [filtered.congr_left]
  constructor
  · intro same
    have all : ∀ object ∈ released, granted object = true := by
      intro object member
      rcases List.mem_append.mp (same.mem_iff.mpr member) with inReleased | inKept
      · exact (List.mem_filter.mp inReleased).2
      · exact (List.mem_filter.mp inKept).2
    have size := same.length_eq
    rw [List.filter_eq_self.mpr all, List.length_append] at size
    have none : kept.filter granted = [] := List.length_eq_zero_iff.mp (by omega)
    exact ⟨all, fun object member => by simpa using List.filter_eq_nil_iff.mp none object member⟩
  · rintro ⟨all, none⟩
    have empty : kept.filter granted = [] :=
      List.filter_eq_nil_iff.mpr fun object member => by simp [none object member]
    rw [List.filter_eq_self.mpr all, empty, List.append_nil]

/-- One holder of several has got one object more. -/
theorem flatMap_perm_cons {Holder Object : Type*} {holders : List Holder} {holder : Holder}
    {before after : Holder → List Object} {object : Object} (distinct : holders.Nodup)
    (member : holder ∈ holders) (here : after holder = object :: before holder)
    (elsewhere : ∀ other ∈ holders, other ≠ holder → after other = before other) :
    (holders.flatMap after).Perm (object :: holders.flatMap before) := by
  induction holders with
  | nil => cases member
  | cons first rest ih =>
      obtain ⟨notIn, distinct⟩ := List.nodup_cons.mp distinct
      rw [List.forall_mem_cons] at elsewhere
      obtain ⟨atFirst, later⟩ := elsewhere
      rw [List.flatMap_cons, List.flatMap_cons]
      by_cases same : first = holder
      · subst same
        have unchanged : rest.flatMap after = rest.flatMap before := by
          refine List.flatMap_congr ?_
          intro other inRest
          refine later other inRest ?_
          rintro rfl
          exact notIn inRest
        rw [here, unchanged]
        exact .refl _
      · have inRest := (List.mem_cons.mp member).resolve_left (Ne.symm same)
        rw [atFirst same]
        exact ((ih distinct inRest later).append_left _).trans List.perm_middle

/-- Objects that each belong to one of the holders, sorted by them. -/
theorem sorted_perm {Holder Object : Type*} [DecidableEq Holder] {holders : List Holder}
    {objects : List Object} {owner : Object → Holder} (distinct : holders.Nodup)
    (owned : ∀ object ∈ objects, owner object ∈ holders) :
    (holders.flatMap fun holder => objects.filter fun object => owner object = holder).Perm
      objects := by
  induction objects with
  | nil => simp
  | cons object rest ih =>
      rw [List.forall_mem_cons] at owned
      refine (flatMap_perm_cons distinct owned.1 ?_ ?_).trans ((ih owned.2).cons object)
      · have own : decide (owner object = owner object) = true := decide_eq_true rfl
        exact List.filter_cons_of_pos own
      · intro other _ differ
        rw [List.filter_cons_of_neg]
        simp only [decide_eq_true_eq]
        exact Ne.symm differ

end ToySystem.Data
