import Mathlib.Data.List.Basic

namespace ToySystem.Data

/-! Linked structures: lists of addresses that hang together by pointers.

`next` is what is stored at an address, so a statement about a memory is one about
the function that it defines.
-/

section

variable {Address : Type*}

/-- A list that ends in null. -/
inductive Chain (next : Address → Address) (null : Address) : Address → List Address → Prop
  | nil : Chain next null null []
  | cons {head : Address} {rest : List Address} (present : head ≠ null)
      (chain : Chain next null (next head) rest) : Chain next null head (head :: rest)

namespace Chain

variable {next after : Address → Address} {null head : Address} {nodes : List Address}

theorem congr (chain : Chain next null head nodes) (same : ∀ node ∈ nodes, after node = next node) :
    Chain after null head nodes := by
  induction chain with
  | nil => exact .nil
  | @cons head rest present chain ih =>
      rw [List.forall_mem_cons] at same
      refine .cons present ?_
      rw [same.1]
      exact ih same.2

theorem push {node : Address} (chain : Chain next null head nodes) (present : node ≠ null)
    (linked : after node = head) (same : ∀ other ∈ nodes, after other = next other) :
    Chain after null node (node :: nodes) := by
  refine .cons present ?_
  rw [linked]
  exact chain.congr same

theorem head_eq_null (chain : Chain next null head []) : head = null := by
  cases chain
  rfl

theorem nodes_eq_nil (chain : Chain next null head nodes) (isNull : head = null) :
    nodes = [] := by
  cases chain with
  | nil => rfl
  | cons present chain => exact absurd isNull present

theorem pop (chain : Chain next null head nodes) (present : head ≠ null) :
    ∃ rest, nodes = head :: rest ∧ Chain next null (next head) rest := by
  cases chain with
  | nil => exact absurd rfl present
  | @cons head rest present chain => exact ⟨rest, rfl, chain⟩

end Chain

end

end ToySystem.Data
