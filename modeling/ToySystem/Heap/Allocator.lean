import ToySystem.Data.Links
import ToySystem.Data.Regions
import ToySystem.Heap.SizeClass

namespace ToySystem.Heap

open ToySystem.Data

/-! # The fixed block allocator

`engine/Allocator.cpp`.  Pointers are addresses, NULL is 0, and an allocator is the
values of its members but for `m_name`.  The blocks on the free list hang together
by the word at their start.
-/

/-- What a call of code that asks `operator new` for memory ends with: where there is
none left, `std::bad_alloc` passes through it. -/
inductive Outcome (Value : Type) where
  | returned (value : Value)
  | thrown
deriving DecidableEq

inductive AllocatorMode where
  | heapBlocks
  | heapPool
  | staticPool
deriving DecidableEq, Repr

structure Allocator where
  blockSize : UInt64
  objectSize : UInt64
  maxObjects : UInt32
  allocatorMode : AllocatorMode
  head : Nat
  /-- Not set in heap blocks mode. -/
  pool : Nat
  poolIndex : UInt32
  blockCnt : UInt32
  blocksInUse : UInt32
  allocations : UInt32
  deallocations : UInt32

namespace Allocator

/-- The constructor; `newPool` is what `new CHAR[]` returns in it. -/
def create (size : UInt64) (objects : UInt32) (memory newPool : Nat) : Allocator where
  blockSize := if size < sizeofPointer then sizeofPointer else size
  objectSize := size
  maxObjects := objects
  allocatorMode :=
    if objects = 0 then .heapBlocks else if memory = 0 then .heapPool else .staticPool
  head := 0
  pool := if memory = 0 then newPool else memory
  poolIndex := 0
  blockCnt := 0
  blocksInUse := 0
  allocations := 0
  deallocations := 0

def pop (memory : Memory) (allocator : Allocator) : Nat × Allocator :=
  if allocator.head = 0 then (0, allocator)
  else (allocator.head, { allocator with head := memory.loadWord allocator.head })

def push (block : Nat) (allocator : Allocator) (memory : Memory) : Allocator × Memory :=
  ({ allocator with head := block }, memory.storeWord block allocator.head)

/-- The region of a block. -/
def region (allocator : Allocator) (block : Nat) : Region := ⟨block, allocator.blockSize.toNat⟩

/-- The next block of the pool. -/
def poolBlock (allocator : Allocator) : Nat :=
  allocator.pool + (allocator.poolIndex.toUInt64 * allocator.blockSize).toNat

/-- The last lines of `Allocate`. -/
def counted (allocator : Allocator) : Allocator :=
  { allocator with
    blocksInUse := allocator.blocksInUse + 1
    allocations := allocator.allocations + 1 }

theorem head_update (allocator : Allocator) (next : Nat) :
    { allocator with head := next }.head = next := rfl

@[simp] theorem counted_head (allocator : Allocator) : allocator.counted.head = allocator.head :=
  rfl

@[simp] theorem counted_blockSize (allocator : Allocator) :
    allocator.counted.blockSize = allocator.blockSize := rfl

structure Allocation where
  outcome : Outcome Nat
  allocator : Allocator
  /-- What `operator new` has returned. -/
  obtained : List Region

/-- `fresh` is what `operator new` returns, if it returns, and `handler` whether there
is a new handler (one that returns).  `none` is the trap of a failed assertion. -/
def allocate (size : UInt64) (handler : Bool) (fresh : Option Nat) (memory : Memory)
    (allocator : Allocator) : Option Allocation :=
  if size ≤ allocator.objectSize then
    let popped := allocator.pop memory
    let block := popped.1
    let allocator := popped.2
    if block ≠ 0 then some ⟨.returned block, allocator.counted, []⟩
    else if allocator.maxObjects ≠ 0 then
      if allocator.poolIndex < allocator.maxObjects then
        let block := allocator.poolBlock
        let allocator := { allocator with poolIndex := allocator.poolIndex + 1 }
        some ⟨.returned block, allocator.counted, []⟩
      else if handler then some ⟨.returned 0, allocator.counted, []⟩
      else none
    else
      let allocator := { allocator with blockCnt := allocator.blockCnt + 1 }
      match fresh with
      | none => some ⟨.thrown, allocator, []⟩
      | some block => some ⟨.returned block, allocator.counted, [allocator.region block]⟩
  else none

def deallocate (block : Nat) (allocator : Allocator) (memory : Memory) : Allocator × Memory :=
  let (allocator, memory) := allocator.push block memory
  ({ allocator with
    blocksInUse := allocator.blocksInUse - 1
    deallocations := allocator.deallocations + 1 }, memory)

/-- The blocks that the loop of the destructor deletes, so many rounds of it; `none`
where it is not through then. -/
def deleteBlocks (memory : Memory) (allocator : Allocator) : Nat → Option (List Nat)
  | 0 => if allocator.head = 0 then some [] else none
  | rounds + 1 =>
      if allocator.head = 0 then some []
      else
        let (block, allocator) := allocator.pop memory
        (allocator.deleteBlocks memory rounds).map (block :: ·)

/-- The destructor: what it deletes. -/
def destroy (rounds : Nat) (memory : Memory) (allocator : Allocator) : Option (List Nat) :=
  match allocator.allocatorMode with
  | .heapPool => some [allocator.pool]
  | .heapBlocks => allocator.deleteBlocks memory rounds
  | .staticPool => some []

section

variable {memory : Memory} {allocator : Allocator}

theorem pop_null (empty : allocator.head = 0) : allocator.pop memory = (0, allocator) := by
  rw [pop, if_pos empty]

theorem pop_head (present : allocator.head ≠ 0) : allocator.pop memory =
    (allocator.head, { allocator with head := memory.loadWord allocator.head }) := by
  rw [pop, if_neg present]

theorem allocate_cases {size : UInt64} {handler : Bool} {fresh : Option Nat}
    {allocation : Allocation}
    (ran : allocator.allocate size handler fresh memory = some allocation) :
    size ≤ allocator.objectSize ∧
      ((allocator.head ≠ 0 ∧ allocation = ⟨.returned allocator.head,
          { allocator with head := memory.loadWord allocator.head }.counted, []⟩) ∨
      (allocator.head = 0 ∧ allocator.maxObjects ≠ 0 ∧
        allocator.poolIndex < allocator.maxObjects ∧ allocation = ⟨.returned allocator.poolBlock,
          { allocator with poolIndex := allocator.poolIndex + 1 }.counted, []⟩) ∨
      (allocator.head = 0 ∧ allocator.maxObjects ≠ 0 ∧
        ¬ allocator.poolIndex < allocator.maxObjects ∧ handler = true ∧
        allocation = ⟨.returned 0, allocator.counted, []⟩) ∨
      (allocator.head = 0 ∧ allocator.maxObjects = 0 ∧ fresh = none ∧
        allocation = ⟨.thrown, { allocator with blockCnt := allocator.blockCnt + 1 }, []⟩) ∨
      (allocator.head = 0 ∧ allocator.maxObjects = 0 ∧ ∃ block, fresh = some block ∧
        allocation = ⟨.returned block,
          { allocator with blockCnt := allocator.blockCnt + 1 }.counted,
          [allocator.region block]⟩)) := by
  unfold allocate at ran
  split at ran
  · rename_i fits
    refine ⟨fits, ?_⟩
    by_cases present : allocator.head = 0
    · rw [pop_null present] at ran
      simp only [ne_eq, not_true_eq_false, if_false] at ran
      split at ran
      · rename_i pooled
        split at ran
        · rename_i left
          exact .inr (.inl ⟨present, pooled, left, (Option.some.inj ran).symm⟩)
        · rename_i left
          split at ran
          · rename_i handled
            exact .inr (.inr (.inl ⟨present, pooled, left, handled, (Option.some.inj ran).symm⟩))
          · cases ran
      · rename_i pooled
        have blocks := not_not.mp pooled
        cases fresh with
        | none => exact .inr (.inr (.inr (.inl ⟨present, blocks, rfl, (Option.some.inj ran).symm⟩)))
        | some block =>
            exact .inr (.inr (.inr (.inr
              ⟨present, blocks, block, rfl, (Option.some.inj ran).symm⟩)))
    · rw [pop_head present] at ran
      simp only [ne_eq, present, not_false_eq_true, if_true] at ran
      exact .inl ⟨present, (Option.some.inj ran).symm⟩
  · cases ran

theorem allocate_head {size : UInt64} (handler : Bool) (fresh : Option Nat)
    (fits : size ≤ allocator.objectSize) (present : allocator.head ≠ 0) :
    allocator.allocate size handler fresh memory = some ⟨.returned allocator.head,
      { allocator with head := memory.loadWord allocator.head }.counted, []⟩ := by
  rw [allocate, if_pos fits, pop_head present]
  exact if_pos present

theorem allocate_pool {size : UInt64} (handler : Bool) (fresh : Option Nat)
    (fits : size ≤ allocator.objectSize) (empty : allocator.head = 0)
    (pooled : allocator.maxObjects ≠ 0) (left : allocator.poolIndex < allocator.maxObjects) :
    allocator.allocate size handler fresh memory = some ⟨.returned allocator.poolBlock,
      { allocator with poolIndex := allocator.poolIndex + 1 }.counted, []⟩ := by
  rw [allocate, if_pos fits, pop_null empty]
  simp only [ne_eq, not_true_eq_false, if_false]
  rw [if_pos pooled, if_pos left]

theorem allocate_heap {size : UInt64} {fresh : Nat} (handler : Bool)
    (fits : size ≤ allocator.objectSize) (empty : allocator.head = 0)
    (blocks : allocator.maxObjects = 0) :
    allocator.allocate size handler (some fresh) memory = some ⟨.returned fresh,
      { allocator with blockCnt := allocator.blockCnt + 1 }.counted,
      [allocator.region fresh]⟩ := by
  rw [allocate, if_pos fits, pop_null empty]
  simp only [ne_eq, not_true_eq_false, if_false]
  rw [if_neg (not_not.mpr blocks)]
  rfl

/-- Without a maximum of objects only a request that is too large is trapped. -/
theorem allocate_some {size : UInt64} (handler : Bool) (fresh : Option Nat)
    (fits : size ≤ allocator.objectSize) (blocks : allocator.maxObjects = 0) :
    ∃ allocation, allocator.allocate size handler fresh memory = some allocation := by
  by_cases empty : allocator.head = 0
  · cases fresh with
    | some block => exact ⟨_, allocate_heap handler fits empty blocks⟩
    | none =>
        rw [allocate, if_pos fits, pop_null empty]
        simp only [ne_eq, not_true_eq_false, if_false]
        rw [if_neg (not_not.mpr blocks)]
        exact ⟨_, rfl⟩
  · exact ⟨_, allocate_head handler fresh fits empty⟩

end

/-- All blocks that the allocator has obtained are on its free list or in use, and
they lie apart from each other. -/
structure Keeps (memory : Memory) (allocator : Allocator) (obtained free used : List Nat) :
    Prop where
  room : wordSize ≤ allocator.blockSize.toNat
  chain : Chain memory.loadWord 0 allocator.head free
  parts : (free ++ used).Perm obtained
  apart : obtained.Pairwise fun first second =>
    (allocator.region first).Apart (allocator.region second)
  placed : ∀ block ∈ obtained, block ≠ 0 ∧ block + allocator.blockSize.toNat ≤ 2 ^ 64

namespace Keeps

variable {memory : Memory} {allocator : Allocator} {obtained free used : List Nat}

theorem obtained_of_free {block : Nat} (keeps : Keeps memory allocator obtained free used)
    (member : block ∈ free) : block ∈ obtained :=
  keeps.parts.mem_iff.mp (List.mem_append_left used member)

theorem obtained_of_used {block : Nat} (keeps : Keeps memory allocator obtained free used)
    (member : block ∈ used) : block ∈ obtained :=
  keeps.parts.mem_iff.mp (List.mem_append_right free member)

theorem apart_of_ne {first second : Nat} (keeps : Keeps memory allocator obtained free used)
    (inFirst : first ∈ obtained) (inSecond : second ∈ obtained) (differ : first ≠ second) :
    (allocator.region first).Apart (allocator.region second) := by
  have symmetric : Std.Symm fun first second =>
      (allocator.region first).Apart (allocator.region second) :=
    ⟨fun _ _ apart => apart.symm⟩
  exact keeps.apart.forall inFirst inSecond differ

theorem nodup (keeps : Keeps memory allocator obtained free used) : (free ++ used).Nodup := by
  refine keeps.parts.nodup_iff.mpr (keeps.apart.imp ?_)
  intro first second apart
  have positive : 0 < allocator.blockSize.toNat := Nat.lt_of_lt_of_le (by decide) keeps.room
  exact apart.base_ne positive positive

theorem free_ne_used {first second : Nat} (keeps : Keeps memory allocator obtained free used)
    (isFree : first ∈ free) (inUse : second ∈ used) : first ≠ second :=
  (List.nodup_append.mp keeps.nodup).2.2 first isFree second inUse

theorem head_lt (keeps : Keeps memory allocator obtained free used) : allocator.head < 2 ^ 64 := by
  by_cases present : allocator.head = 0
  · rw [present]
    decide
  · obtain ⟨rest, split, -⟩ := keeps.chain.pop present
    have member : allocator.head ∈ free := by
      rw [split]
      exact List.mem_cons_self
    obtain ⟨-, bound⟩ := keeps.placed _ (keeps.obtained_of_free member)
    have positive : 0 < allocator.blockSize.toNat := Nat.lt_of_lt_of_le (by decide) keeps.room
    omega

/-- The word that links a block. -/
theorem word_inside (keeps : Keeps memory allocator obtained free used) (block : Nat) :
    Region.Inside ⟨block, wordSize⟩ (allocator.region block) :=
  ⟨Nat.le_refl block, Nat.add_le_add_left keeps.room block⟩

/-- The blocks between the free list and use. -/
theorem move {after : Allocator} {later : Memory} {head : Nat} {laterFree laterUsed : List Nat}
    (keeps : Keeps memory allocator obtained free used)
    (sameSize : after.blockSize = allocator.blockSize) (newHead : after.head = head)
    (chain : Chain later.loadWord 0 head laterFree)
    (parts : (laterFree ++ laterUsed).Perm (free ++ used)) :
    Keeps later after obtained laterFree laterUsed where
  room := by
    rw [sameSize]
    exact keeps.room
  chain := by
    rw [newHead]
    exact chain
  parts := parts.trans keeps.parts
  apart := by
    refine keeps.apart.imp ?_
    intro first second apart
    rw [region, region, sameSize]
    exact apart
  placed := by
    rw [sameSize]
    exact keeps.placed

theorem same {after : Allocator} (keeps : Keeps memory allocator obtained free used)
    (sameSize : after.blockSize = allocator.blockSize) (sameHead : after.head = allocator.head) :
    Keeps memory after obtained free used :=
  keeps.move sameSize sameHead keeps.chain (.refl _)

/-- Writes that spare the blocks on the free list change nothing. -/
theorem frame {after : Memory} {written : Region}
    (keeps : Keeps memory allocator obtained free used) (same : memory.SameOutside written after)
    (spared : ∀ block ∈ free, (allocator.region block).Apart written) :
    Keeps after allocator obtained free used := by
  refine keeps.move rfl rfl (keeps.chain.congr ?_) (.refl _)
  intro block member
  exact same.loadWord ((spared block member).inside (keeps.word_inside block)).symm

theorem create (size : UInt64) (objects : UInt32) (pool newPool : Nat) (memory : Memory) :
    Keeps memory (Allocator.create size objects pool newPool) [] [] [] where
  room := by
    change wordSize ≤ (if size < sizeofPointer then sizeofPointer else size).toNat
    split
    · decide
    · rename_i large
      exact UInt64.le_iff_toNat_le.mp (UInt64.not_lt.mp large)
  chain := .nil
  parts := .nil
  apart := .nil
  placed := by simp

theorem pop (keeps : Keeps memory allocator obtained free used) (present : allocator.head ≠ 0) :
    ∃ rest, free = allocator.head :: rest ∧
      Keeps memory { allocator with head := memory.loadWord allocator.head }.counted obtained rest
        (allocator.head :: used) := by
  obtain ⟨rest, split, chain⟩ := keeps.chain.pop present
  have parts : (rest ++ allocator.head :: used).Perm (free ++ used) := by
    rw [split]
    exact List.perm_middle
  exact ⟨rest, split, keeps.move (counted_blockSize _) (counted_head _) chain parts⟩

/-- A block that was never in use before. -/
theorem grow {block : Nat} {after : Allocator}
    (keeps : Keeps memory allocator obtained free used) (empty : allocator.head = 0)
    (sameSize : after.blockSize = allocator.blockSize) (sameHead : after.head = allocator.head)
    (fresh : ∀ other ∈ obtained, (allocator.region block).Apart (allocator.region other))
    (placed : block ≠ 0 ∧ block + allocator.blockSize.toNat ≤ 2 ^ 64) :
    free = [] ∧ Keeps memory after (block :: obtained) [] (block :: used) := by
  have none := keeps.chain.nodes_eq_nil empty
  subst free
  refine ⟨rfl, ⟨?_, ?_, keeps.parts.cons block, ?_, ?_⟩⟩
  · rw [sameSize]
    exact keeps.room
  · rw [sameHead]
    exact keeps.chain
  · refine List.pairwise_cons.mpr ⟨?_, ?_⟩
    · intro other member
      rw [region, region, sameSize]
      exact fresh other member
    · refine keeps.apart.imp ?_
      intro first second apart
      rw [region, region, sameSize]
      exact apart
  · rw [sameSize, List.forall_mem_cons]
    exact ⟨placed, keeps.placed⟩

theorem deallocate {block : Nat} (keeps : Keeps memory allocator obtained free used)
    (inUse : block ∈ used) :
    Keeps (allocator.deallocate block memory).2 (allocator.deallocate block memory).1 obtained
      (block :: free) (used.erase block) := by
  have present := (keeps.placed _ (keeps.obtained_of_used inUse)).1
  have linked : Chain (memory.storeWord block allocator.head).loadWord 0 block (block :: free) := by
    refine keeps.chain.push present (Memory.loadWord_storeWord memory block keeps.head_lt) ?_
    intro other member
    have differ := keeps.free_ne_used member inUse
    have apart := keeps.apart_of_ne (keeps.obtained_of_free member)
      (keeps.obtained_of_used inUse) differ
    have words := (apart.inside (keeps.word_inside other)).symm.inside (keeps.word_inside block)
    exact (Memory.storeWord_sameOutside memory block allocator.head).loadWord words
  refine keeps.move rfl rfl linked ?_
  have moved : (block :: free ++ used.erase block).Perm (free ++ block :: used.erase block) :=
    List.perm_middle.symm
  exact moved.trans ((List.perm_cons_erase inUse).symm.append_left free)

theorem deleteBlocks_chain {rounds head : Nat} (chain : Chain memory.loadWord 0 head free)
    (here : allocator.head = head) (enough : free.length ≤ rounds) :
    allocator.deleteBlocks memory rounds = some free := by
  induction rounds generalizing allocator head free with
  | zero =>
      have none := List.eq_nil_of_length_eq_zero (Nat.le_zero.mp enough)
      subst none
      rw [Allocator.deleteBlocks, if_pos (here.trans chain.head_eq_null)]
  | succ rounds ih =>
      rw [Allocator.deleteBlocks]
      by_cases present : head = 0
      · rw [if_pos (here.trans present), chain.nodes_eq_nil present]
      · obtain ⟨rest, split, later⟩ := chain.pop present
        subst free head
        have bound : rest.length ≤ rounds := Nat.le_of_succ_le_succ enough
        have through := ih later (head_update allocator _) bound
        rw [if_neg present, pop_head present]
        simp only
        rw [through]
        rfl

/-- The destructor deletes the blocks on the free list, each once. -/
theorem deleteBlocks {rounds : Nat} (keeps : Keeps memory allocator obtained free used)
    (enough : free.length ≤ rounds) : allocator.deleteBlocks memory rounds = some free :=
  deleteBlocks_chain keeps.chain rfl enough

end Keeps

end Allocator

end ToySystem.Heap
