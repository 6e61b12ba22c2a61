import Mathlib.Logic.Function.Basic
import ToySystem.Data.Objects
import ToySystem.Heap.Allocator

namespace ToySystem.Heap

open ToySystem.Data

/-! # The xallocator

`engine/xallocator.cpp` without `STATIC_POOLS`, for a target other than Windows, where
its lock does nothing.  A block starts with the pointer to its allocator, and the
client's memory is behind that.

The instances of `Allocator` stand beside the memory of the blocks, which they never
share: both come from `operator new`.
-/

def maxAllocators : Nat := 15

structure Xallocator where
  /-- `_allocators` up to the first null pointer. -/
  allocators : List Nat
  /-- What a pointer to an allocator points to. -/
  instances : Nat → Allocator
  memory : Memory

/-- What `operator new` returns in the course of a call, `none` where it throws. -/
structure Answers where
  allocator : Option Nat
  block : Option Nat

namespace Xallocator

structure Reply where
  outcome : Outcome Nat
  state : Xallocator
  /-- The blocks from `operator new`. -/
  obtained : List Region

def findAllocator (size : UInt64) (heap : Xallocator) : Option Nat :=
  heap.allocators.find? fun allocator => (heap.instances allocator).blockSize = size

/-- `none` is the trap of a failed assertion, here and below. -/
def insertAllocator (allocator : Nat) (heap : Xallocator) : Option Xallocator :=
  if heap.allocators.length < maxAllocators then
    some { heap with allocators := heap.allocators ++ [allocator] }
  else none

def setInstance (pointer : Nat) (allocator : Allocator) (heap : Xallocator) : Xallocator :=
  { heap with instances := Function.update heap.instances pointer allocator }

@[simp] theorem setInstance_memory (pointer : Nat) (allocator : Allocator) (heap : Xallocator) :
    (heap.setInstance pointer allocator).memory = heap.memory := rfl

@[simp] theorem setInstance_self (pointer : Nat) (allocator : Allocator) (heap : Xallocator) :
    (heap.setInstance pointer allocator).instances pointer = allocator :=
  Function.update_self ..

theorem setInstance_of_ne {other pointer : Nat} (differ : other ≠ pointer) (allocator : Allocator)
    (heap : Xallocator) :
    (heap.setInstance pointer allocator).instances other = heap.instances other :=
  Function.update_of_ne differ ..

def xallocatorGetAllocator (size : UInt64) (fresh : Option Nat) (heap : Xallocator) :
    Option (Outcome Nat × Xallocator) :=
  let blockSize := blockSizeFor size
  match heap.findAllocator blockSize with
  | some allocator => some (.returned allocator, heap)
  | none =>
      match fresh with
      | none => some (.thrown, heap)
      | some allocator =>
          let heap := heap.setInstance allocator (Allocator.create blockSize 0 0 0)
          (heap.insertAllocator allocator).map fun heap => (.returned allocator, heap)

def setBlockAllocator (block allocator : Nat) (memory : Memory) : Nat × Memory :=
  (block + wordSize, memory.storeWord block allocator)

def getBlockPtr (pointer : Nat) : Nat := pointer - wordSize

def getBlockAllocator (pointer : Nat) (memory : Memory) : Nat :=
  memory.loadWord (getBlockPtr pointer)

/-- There is no new handler to call: the allocators have no maximum of objects. -/
def xmalloc (size : UInt64) (answers : Answers) (heap : Xallocator) : Option Reply :=
  (heap.xallocatorGetAllocator size answers.allocator).bind fun found =>
    let heap := found.2
    match found.1 with
    | .thrown => some ⟨.thrown, heap, []⟩
    | .returned pointer =>
        ((heap.instances pointer).allocate (sizeofPointer + size) false answers.block
            heap.memory).map fun allocation =>
          let heap := heap.setInstance pointer allocation.allocator
          match allocation.outcome with
          | .thrown => ⟨.thrown, heap, allocation.obtained⟩
          | .returned block =>
              let (client, memory) := setBlockAllocator block pointer heap.memory
              ⟨.returned client, { heap with memory := memory }, allocation.obtained⟩

def xfree (pointer : Nat) (heap : Xallocator) : Xallocator :=
  if pointer = 0 then heap
  else
    let allocator := getBlockAllocator pointer heap.memory
    let block := getBlockPtr pointer
    let (after, memory) := (heap.instances allocator).deallocate block heap.memory
    { heap.setInstance allocator after with memory := memory }

def memcpy (destination source count : Nat) (heap : Xallocator) : Xallocator :=
  { heap with memory := heap.memory.store destination (heap.memory.load source count) }

def xrealloc (oldMem : Nat) (size : UInt64) (answers : Answers) (heap : Xallocator) :
    Option Reply :=
  if oldMem = 0 then heap.xmalloc size answers
  else if size = 0 then some ⟨.returned 0, heap.xfree oldMem, []⟩
  else
    (heap.xmalloc size answers).map fun reply =>
      match reply.outcome with
      | .thrown => reply
      | .returned newMem =>
          if newMem ≠ 0 then
            let heap := reply.state
            let oldAllocator := heap.instances (getBlockAllocator oldMem heap.memory)
            let oldSize := oldAllocator.blockSize - sizeofPointer
            let count := if oldSize < size then oldSize else size
            { reply with state := (heap.memcpy newMem oldMem count.toNat).xfree oldMem }
          else { reply with outcome := .returned 0 }

section

variable {heap : Xallocator} {size : UInt64}

theorem getAllocator_cases {fresh : Option Nat} {found : Outcome Nat × Xallocator}
    (ran : heap.xallocatorGetAllocator size fresh = some found) :
    (∃ allocator ∈ heap.allocators, (heap.instances allocator).blockSize = blockSizeFor size ∧
      found = (.returned allocator, heap)) ∨
    (∀ allocator ∈ heap.allocators, (heap.instances allocator).blockSize ≠ blockSizeFor size) ∧
      ((fresh = none ∧ found = (.thrown, heap)) ∨
      ∃ allocator, fresh = some allocator ∧ heap.allocators.length < maxAllocators ∧
        found = (.returned allocator, { heap.setInstance allocator
          (Allocator.create (blockSizeFor size) 0 0 0) with
            allocators := heap.allocators ++ [allocator] })) := by
  unfold xallocatorGetAllocator at ran
  cases search : heap.findAllocator (blockSizeFor size) with
  | some allocator =>
      simp only [search] at ran
      cases ran
      have matched := List.find?_some search
      have serves := of_decide_eq_true matched
      exact .inl ⟨allocator, List.mem_of_find?_eq_some search, serves, rfl⟩
  | none =>
      simp only [search] at ran
      right
      constructor
      · intro allocator member serves
        have refused := List.find?_eq_none.mp search allocator member
        exact refused (decide_eq_true serves)
      · cases fresh with
        | none =>
            cases ran
            exact .inl ⟨rfl, rfl⟩
        | some allocator =>
            obtain ⟨inserted, insert, rfl⟩ := Option.map_eq_some_iff.mp ran
            unfold insertAllocator at insert
            split at insert
            · rename_i room
              cases insert
              exact .inr ⟨allocator, rfl, room, rfl⟩
            · cases insert

theorem allocation_blockSize {allocator : Allocator} {request : UInt64} {handler : Bool}
    {fresh : Option Nat} {memory : Memory} {allocation : Allocator.Allocation}
    (ran : allocator.allocate request handler fresh memory = some allocation) :
    allocation.allocator.blockSize = allocator.blockSize := by
  obtain ⟨-, head | pool | exhausted | thrown | grown⟩ := Allocator.allocate_cases ran
  · rw [head.2]
    rfl
  · rw [pool.2.2.2]
    rfl
  · rw [exhausted.2.2.2.2]
    rfl
  · rw [thrown.2.2.2]
  · obtain ⟨-, -, block, -, rfl⟩ := grown
    rfl

theorem xfree_eq {pointer : Nat} (present : pointer ≠ 0) : heap.xfree pointer =
    { heap.setInstance (getBlockAllocator pointer heap.memory)
        ((heap.instances (getBlockAllocator pointer heap.memory)).deallocate (getBlockPtr pointer)
          heap.memory).1 with
      memory := ((heap.instances (getBlockAllocator pointer heap.memory)).deallocate
        (getBlockPtr pointer) heap.memory).2 } := by
  rw [xfree, if_neg present]

theorem xmalloc_cases {answers : Answers} {reply : Reply}
    (ran : heap.xmalloc size answers = some reply) :
    ∃ found, heap.xallocatorGetAllocator size answers.allocator = some found ∧
      ((found.1 = .thrown ∧ reply = ⟨.thrown, found.2, []⟩) ∨
      ∃ pointer allocation, found.1 = .returned pointer ∧
        (found.2.instances pointer).allocate (sizeofPointer + size) false answers.block
          found.2.memory = some allocation ∧
        ((allocation.outcome = .thrown ∧
          reply = ⟨.thrown, found.2.setInstance pointer allocation.allocator,
            allocation.obtained⟩) ∨
        ∃ block, allocation.outcome = .returned block ∧
          reply = ⟨.returned (block + wordSize),
            { found.2.setInstance pointer allocation.allocator with
              memory := found.2.memory.storeWord block pointer }, allocation.obtained⟩)) := by
  obtain ⟨found, get, rest⟩ := Option.bind_eq_some_iff.mp ran
  refine ⟨found, get, ?_⟩
  cases outcome : found.1 with
  | thrown =>
      simp only [outcome] at rest
      exact .inl ⟨rfl, (Option.some.inj rest).symm⟩
  | returned pointer =>
      simp only [outcome] at rest
      obtain ⟨allocation, allocate, rfl⟩ := Option.map_eq_some_iff.mp rest
      refine .inr ⟨pointer, allocation, rfl, allocate, ?_⟩
      cases result : allocation.outcome with
      | thrown => exact .inl ⟨rfl, rfl⟩
      | returned block => exact .inr ⟨block, rfl, rfl⟩

end

end Xallocator

end ToySystem.Heap
