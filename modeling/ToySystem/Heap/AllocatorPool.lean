import ToySystem.Data.Run
import ToySystem.Heap.Allocator

namespace ToySystem.Heap

open ToySystem.Data

/-! # An allocator over a pool

`Allocator` and `AllocatorPool` with a fixed number of objects, under the calls of a
client that gives back only blocks it has, once, and writes only to blocks it has.
-/

structure Pool where
  allocator : Allocator
  memory : Memory
  /-- The blocks in the client's hands. -/
  used : List Nat

namespace Pool

inductive Call where
  | allocate (size : UInt64)
  | deallocate (block : Nat)
  | write (address : Nat) (bytes : List UInt8)

/-- NULL is not a block. -/
def received (used : List Nat) : Outcome Nat → List Nat
  | .returned block => if block = 0 then used else block :: used
  | .thrown => used

def step (handler : Bool) (pool : Pool) : Call → Option Pool
  | .allocate size =>
      (pool.allocator.allocate size handler none pool.memory).map fun allocation =>
        { pool with
          allocator := allocation.allocator
          used := received pool.used allocation.outcome }
  | .deallocate block =>
      let (allocator, memory) := pool.allocator.deallocate block pool.memory
      some ⟨allocator, memory, pool.used.erase block⟩
  | .write address bytes => some { pool with memory := pool.memory.store address bytes }

/-- The rules of a client. -/
def Allowed (pool : Pool) : Call → Prop
  | .allocate _ => True
  | .deallocate block => block ∈ pool.used
  | .write address bytes =>
      ∃ block ∈ pool.used, Region.Inside ⟨address, bytes.length⟩ (pool.allocator.region block)

/-- The pool of `objects` blocks at `base`. -/
def start (size : UInt64) (objects : UInt32) (base : Nat) (memory : Memory) : Pool :=
  ⟨Allocator.create size objects base 0, memory, []⟩

/-- The first so many blocks, the last one first. -/
def blocks (base size : Nat) : Nat → List Nat
  | 0 => []
  | count + 1 => (base + count * size) :: blocks base size count

theorem blocks_length (base size count : Nat) : (blocks base size count).length = count := by
  induction count with
  | zero => rfl
  | succ count ih => rw [blocks, List.length_cons, ih]

theorem mem_blocks {base size count block : Nat} (member : block ∈ blocks base size count) :
    ∃ index < count, block = base + index * size := by
  induction count with
  | zero => cases member
  | succ count ih =>
      rcases List.mem_cons.mp member with here | earlier
      · exact ⟨count, Nat.lt_succ_self count, here⟩
      · obtain ⟨index, below, place⟩ := ih earlier
        exact ⟨index, Nat.lt_succ_of_lt below, place⟩

/-- A request gets a block. -/
def Serves (handler : Bool) (request : UInt64) (pool : Pool) : Prop :=
  ∃ allocation block, pool.allocator.allocate request handler none pool.memory = some allocation ∧
    allocation.outcome = .returned block ∧ block ≠ 0

/-- What an allocator over a pool keeps. -/
structure Served (size : UInt64) (objects : UInt32) (base : Nat) (pool : Pool) : Prop where
  objectSize : pool.allocator.objectSize = size
  blockSize : pool.allocator.blockSize = (Allocator.create size objects base 0).blockSize
  maxObjects : pool.allocator.maxObjects = objects
  place : pool.allocator.pool = base
  index : pool.allocator.poolIndex.toNat ≤ objects.toNat
  keeps : ∃ free, Allocator.Keeps pool.memory pool.allocator
    (blocks base pool.allocator.blockSize.toNat pool.allocator.poolIndex.toNat) free pool.used

section

variable {size : UInt64} {objects : UInt32} {base : Nat} {handler : Bool}

theorem served_start (present : base ≠ 0) (memory : Memory) :
    Served size objects base (start size objects base memory) where
  objectSize := rfl
  blockSize := rfl
  maxObjects := rfl
  place := if_neg present
  index := Nat.zero_le _
  keeps := ⟨[], Allocator.Keeps.create size objects base 0 memory⟩

theorem poolBlock_eq {pool : Pool} (served : Served size objects base pool)
    (fits : base + pool.allocator.blockSize.toNat * objects.toNat ≤ 2 ^ 64) (present : base ≠ 0)
    (left : pool.allocator.poolIndex < objects) :
    pool.allocator.poolBlock =
      base + pool.allocator.poolIndex.toNat * pool.allocator.blockSize.toNat := by
  have below : pool.allocator.poolIndex.toNat < objects.toNat := UInt32.lt_iff_toNat_lt.mp left
  have product : pool.allocator.poolIndex.toNat * pool.allocator.blockSize.toNat ≤
      pool.allocator.blockSize.toNat * objects.toNat := by
    rw [Nat.mul_comm]
    exact Nat.mul_le_mul_left _ (Nat.le_of_lt below)
  rw [Allocator.poolBlock, served.place, UInt64.toNat_mul, UInt32.toNat_toUInt64,
    Nat.mod_eq_of_lt (by omega)]

/-- The next block of the pool, where the free list is empty. -/
theorem Served.grow {pool : Pool} (served : Served size objects base pool)
    (fits : base + pool.allocator.blockSize.toNat * objects.toNat ≤ 2 ^ 64) (present : base ≠ 0)
    (empty : pool.allocator.head = 0) (left : pool.allocator.poolIndex < objects) :
    Served size objects base ⟨{ pool.allocator with
      poolIndex := pool.allocator.poolIndex + 1 }.counted, pool.memory,
      pool.allocator.poolBlock :: pool.used⟩ := by
  obtain ⟨free, keeps⟩ := served.keeps
  have below : pool.allocator.poolIndex.toNat < objects.toNat := UInt32.lt_iff_toNat_lt.mp left
  have bound := objects.toNat_lt
  have next : (pool.allocator.poolIndex + 1).toNat = pool.allocator.poolIndex.toNat + 1 := by
    rw [UInt32.toNat_add]
    exact Nat.mod_eq_of_lt (by simp; omega)
  have place := poolBlock_eq served fits present left
  have last : (pool.allocator.poolIndex.toNat + 1) * pool.allocator.blockSize.toNat ≤
      pool.allocator.blockSize.toNat * objects.toNat := by
    rw [Nat.mul_comm]
    exact Nat.mul_le_mul_left _ below
  have room : pool.allocator.poolBlock ≠ 0 ∧
      pool.allocator.poolBlock + pool.allocator.blockSize.toNat ≤ 2 ^ 64 := by
    rw [Nat.succ_mul] at last
    rw [place]
    omega
  have fresh : ∀ other ∈ blocks base pool.allocator.blockSize.toNat
      pool.allocator.poolIndex.toNat,
      (pool.allocator.region pool.allocator.poolBlock).Apart (pool.allocator.region other) := by
    intro other member
    obtain ⟨index, earlier, otherPlace⟩ := mem_blocks member
    have step : (index + 1) * pool.allocator.blockSize.toNat ≤
        pool.allocator.poolIndex.toNat * pool.allocator.blockSize.toNat :=
      Nat.mul_le_mul_right _ earlier
    rw [Nat.succ_mul] at step
    refine .inr ?_
    change other + pool.allocator.blockSize.toNat ≤ pool.allocator.poolBlock
    rw [place, otherPlace]
    omega
  refine ⟨served.objectSize, served.blockSize, served.maxObjects, served.place, ?_, [], ?_⟩
  · change (pool.allocator.poolIndex + 1).toNat ≤ objects.toNat
    omega
  · let after := { pool.allocator with poolIndex := pool.allocator.poolIndex + 1 }.counted
    have sameSize : after.blockSize = pool.allocator.blockSize := rfl
    have grown := (keeps.grow empty sameSize rfl fresh room).2
    have more : blocks base pool.allocator.blockSize.toNat (pool.allocator.poolIndex + 1).toNat =
        pool.allocator.poolBlock ::
          blocks base pool.allocator.blockSize.toNat pool.allocator.poolIndex.toNat := by
      rw [next, blocks, place]
    rw [← more] at grown
    exact grown

theorem Served.step {pool after : Pool} {call : Call} (served : Served size objects base pool)
    (nonempty : objects ≠ 0) (present : base ≠ 0)
    (fits : base + pool.allocator.blockSize.toNat * objects.toNat ≤ 2 ^ 64)
    (allowed : pool.Allowed call) (stepped : pool.step handler call = some after) :
    Served size objects base after := by
  obtain ⟨free, keeps⟩ := served.keeps
  cases call with
  | allocate request =>
      obtain ⟨allocation, ran, rfl⟩ := Option.map_eq_some_iff.mp stepped
      have pooled : pool.allocator.maxObjects ≠ 0 := by
        rw [served.maxObjects]
        exact nonempty
      obtain ⟨-, head | pool | exhausted | thrown | heap⟩ := Allocator.allocate_cases ran
      · obtain ⟨here, rfl⟩ := head
        obtain ⟨rest, -, popped⟩ := keeps.pop here
        refine ⟨served.objectSize, served.blockSize, served.maxObjects, served.place, served.index,
          rest, ?_⟩
        simp only [received, if_neg here]
        exact popped
      · obtain ⟨empty, -, left, rfl⟩ := pool
        rw [served.maxObjects] at left
        have grown := served.grow fits present empty left
        have nonnull : pool.allocator.poolBlock ≠ 0 := by
          rw [poolBlock_eq served fits present left]
          omega
        simp only [received, if_neg nonnull]
        exact grown
      · obtain ⟨-, -, -, -, rfl⟩ := exhausted
        refine ⟨served.objectSize, served.blockSize, served.maxObjects, served.place, served.index,
          free, ?_⟩
        simp only [received, if_true]
        exact keeps.same rfl rfl
      · exact absurd thrown.2.1 pooled
      · exact absurd heap.2.1 pooled
  | deallocate block =>
      cases stepped
      exact ⟨served.objectSize, served.blockSize, served.maxObjects, served.place, served.index,
        block :: free, keeps.deallocate allowed⟩
  | write address bytes =>
      cases stepped
      obtain ⟨block, inUse, inside⟩ := allowed
      refine ⟨served.objectSize, served.blockSize, served.maxObjects, served.place, served.index,
        free, keeps.frame (Memory.store_sameOutside pool.memory address bytes) ?_⟩
      intro other isFree
      have apart := keeps.apart_of_ne (keeps.obtained_of_free isFree)
        (keeps.obtained_of_used inUse) (keeps.free_ne_used isFree inUse)
      exact (apart.symm.inside inside).symm

theorem Served.serves_iff {pool : Pool} {request : UInt64} (handler : Bool) (served : Served size objects base pool)
    (nonempty : objects ≠ 0) (present : base ≠ 0)
    (fits : base + pool.allocator.blockSize.toNat * objects.toNat ≤ 2 ^ 64)
    (small : request ≤ size) : pool.Serves handler request ↔ pool.used.length < objects.toNat := by
  obtain ⟨free, keeps⟩ := served.keeps
  have lengths := keeps.parts.length_eq
  rw [List.length_append, blocks_length] at lengths
  have index := served.index
  have pooled : pool.allocator.maxObjects ≠ 0 := by
    rw [served.maxObjects]
    exact nonempty
  have accepted : request ≤ pool.allocator.objectSize := by
    rw [served.objectSize]
    exact small
  constructor
  · rintro ⟨allocation, block, ran, returned, nonnull⟩
    obtain ⟨-, head | next | exhausted | thrown | heap⟩ := Allocator.allocate_cases ran
    · obtain ⟨rest, split, -⟩ := keeps.pop head.1
      rw [split, List.length_cons] at lengths
      omega
    · obtain ⟨empty, -, left, -⟩ := next
      rw [served.maxObjects] at left
      have below : pool.allocator.poolIndex.toNat < objects.toNat := UInt32.lt_iff_toNat_lt.mp left
      omega
    · obtain ⟨-, -, -, -, rfl⟩ := exhausted
      cases returned
      exact absurd rfl nonnull
    · exact absurd thrown.2.1 pooled
    · exact absurd heap.2.1 pooled
  · intro fewer
    by_cases empty : pool.allocator.head = 0
    · have nothing := keeps.chain.nodes_eq_nil empty
      rw [nothing, List.length_nil] at lengths
      have left : pool.allocator.poolIndex < objects := UInt32.lt_iff_toNat_lt.mpr (by omega)
      have nonnull : pool.allocator.poolBlock ≠ 0 := by
        rw [poolBlock_eq served fits present left]
        omega
      rw [← served.maxObjects] at left
      exact ⟨_, _, Allocator.allocate_pool handler none accepted empty pooled left, rfl, nonnull⟩
    · exact ⟨_, _, Allocator.allocate_head handler none accepted empty, rfl, empty⟩

/-- The bytes from one block of the pool to the next. -/
def stride (size : UInt64) (objects : UInt32) (base : Nat) : Nat :=
  (Allocator.create size objects base 0).blockSize.toNat

theorem stride_room : sizeofPointer.toNat ≤ stride size objects base :=
  (Allocator.Keeps.create size objects base 0 fun _ => 0).room

theorem stride_large (large : sizeofPointer ≤ size) : stride size objects base = size.toNat := by
  change (if size < sizeofPointer then sizeofPointer else size).toNat = size.toNat
  rw [if_neg (UInt64.not_lt.mpr large)]

theorem served_visited {memory : Memory} {calls : List Call} (nonempty : objects ≠ 0)
    (present : base ≠ 0) (fits : base + stride size objects base * objects.toNat ≤ 2 ^ 64)
    (allowed : ∀ transition ∈ path (step handler) (start size objects base memory) calls,
      transition.before.Allowed transition.event) :
    ∀ pool ∈ visited (step handler) (start size objects base memory) calls,
      Served size objects base pool := by
  refine visited_invariant (served_start present memory) ?_ allowed
  intro before call after served permitted stepped
  refine served.step nonempty present ?_ permitted stepped
  rw [served.blockSize]
  exact fits

/-- The blocks in the client's hands are distinct blocks of the pool, and a request is
refused exactly when it has all of them. -/
theorem pool_blocks {memory : Memory} {calls : List Call} (nonempty : objects ≠ 0)
    (present : base ≠ 0) (fits : base + stride size objects base * objects.toNat ≤ 2 ^ 64)
    (allowed : ∀ transition ∈ path (step handler) (start size objects base memory) calls,
      transition.before.Allowed transition.event) :
    ∀ pool ∈ visited (step handler) (start size objects base memory) calls,
      pool.used.Nodup ∧
      (∀ block ∈ pool.used,
        ∃ index < objects.toNat, block = base + index * stride size objects base) ∧
      ∀ request ≤ size, pool.Serves handler request ↔ pool.used.length < objects.toNat := by
  intro pool reached
  have served := served_visited nonempty present fits allowed pool reached
  obtain ⟨free, keeps⟩ := served.keeps
  have stride_eq : pool.allocator.blockSize.toNat = stride size objects base := by
    rw [served.blockSize, stride]
  refine ⟨(List.nodup_append.mp keeps.nodup).2.1, ?_, ?_⟩
  · intro block inUse
    obtain ⟨index, below, place⟩ := mem_blocks (keeps.obtained_of_used inUse)
    refine ⟨index, Nat.lt_of_lt_of_le below served.index, ?_⟩
    rw [← stride_eq]
    exact place
  · intro request small
    refine served.serves_iff handler nonempty present ?_ small
    rw [stride_eq]
    exact fits

/-- A client that only asks has each block of the pool in turn. -/
theorem run_allocate (handler : Bool) (nonempty : objects ≠ 0) (present : base ≠ 0) (memory : Memory)
    (fits : base + stride size objects base * objects.toNat ≤ 2 ^ 64) {count : Nat}
    (enough : count ≤ objects.toNat) : ∃ pool,
      run (step handler) (start size objects base memory) (List.replicate count (.allocate 0)) =
        some pool ∧ pool.used.length = count := by
  induction count with
  | zero => exact ⟨_, rfl, rfl⟩
  | succ count ih =>
      obtain ⟨pool, ran, length⟩ := ih (Nat.le_of_succ_le enough)
      have served : Served size objects base pool := by
        refine served_visited nonempty present fits ?_ pool (run_mem_visited ran)
        intro transition member
        have asked := event_mem_of_mem_path member
        rw [List.eq_of_mem_replicate asked]
        trivial
      have fitsHere : base + pool.allocator.blockSize.toNat * objects.toNat ≤ 2 ^ 64 := by
        rw [served.blockSize]
        exact fits
      have serves := (served.serves_iff handler nonempty present fitsHere UInt64.zero_le).mpr
        (by omega)
      obtain ⟨allocation, block, allocated, returned, nonnull⟩ := serves
      let next : Pool := ⟨allocation.allocator, pool.memory, received pool.used allocation.outcome⟩
      have stepped : pool.step handler (.allocate 0) = some next := by
        rw [step, allocated]
        rfl
      refine ⟨next, ?_, ?_⟩
      · rw [List.replicate_succ', run_append, ran, Option.bind_some, run_cons stepped]
        rfl
      · change (received pool.used allocation.outcome).length = count + 1
        rw [returned, received, if_neg nonnull, List.length_cons, length]

theorem last_used {pool : Pool} (served : Served size objects base pool)
    (nonempty : objects ≠ 0) (all : pool.used.length = objects.toNat) :
    base + (objects.toNat - 1) * stride size objects base ∈ pool.used := by
  obtain ⟨free, keeps⟩ := served.keeps
  have lengths := keeps.parts.length_eq
  rw [List.length_append, blocks_length] at lengths
  have index := served.index
  have nothing : free = [] := List.eq_nil_of_length_eq_zero (by omega)
  have full : pool.allocator.poolIndex.toNat = objects.toNat - 1 + 1 := by
    have positive : objects.toNat ≠ 0 := fun zero => nonempty (UInt32.toNat_inj.mp zero)
    omega
  have parts := keeps.parts
  rw [nothing, List.nil_append, full, served.blockSize] at parts
  exact parts.mem_iff.mpr List.mem_cons_self

/-- The array of an `AllocatorPool` has room for its blocks, unless its objects are
smaller than a pointer. -/
theorem pool_inside_iff (nonempty : objects ≠ 0) (present : base ≠ 0)
    (fits : base + stride size objects base * objects.toNat ≤ 2 ^ 64) (memory : Memory) :
    (∀ calls, (∀ transition ∈ path (step handler) (start size objects base memory) calls,
        transition.before.Allowed transition.event) →
      ∀ pool ∈ visited (step handler) (start size objects base memory) calls,
        ∀ block ∈ pool.used, Region.Inside (pool.allocator.region block)
          ⟨base, size.toNat * objects.toNat⟩) ↔ sizeofPointer ≤ size := by
  have positive : 0 < objects.toNat :=
    Nat.pos_of_ne_zero fun zero => nonempty (UInt32.toNat_inj.mp zero)
  constructor
  · intro inside
    obtain ⟨pool, ran, all⟩ := run_allocate handler nonempty present memory fits (Nat.le_refl _)
    have asks : ∀ transition ∈ path (step handler) (start size objects base memory)
        (List.replicate objects.toNat (.allocate 0)),
        transition.before.Allowed transition.event := by
      intro transition member
      have asked := event_mem_of_mem_path member
      rw [List.eq_of_mem_replicate asked]
      trivial
    have reached := run_mem_visited ran
    have served := served_visited nonempty present fits asks pool reached
    obtain ⟨-, ends⟩ := inside _ asks pool reached _ (last_used served nonempty all)
    have end_eq : (objects.toNat - 1) * stride size objects base + stride size objects base =
        stride size objects base * objects.toNat := by
      rw [← Nat.succ_mul, Nat.mul_comm]
      congr 1
      omega
    have stride_eq : pool.allocator.blockSize.toNat = stride size objects base := by
      rw [served.blockSize, stride]
    change base + _ + pool.allocator.blockSize.toNat ≤ base + _ at ends
    rw [stride_eq, Nat.add_assoc, end_eq] at ends
    have least : stride size objects base ≤ size.toNat :=
      Nat.le_of_mul_le_mul_right (Nat.le_of_add_le_add_left ends) positive
    exact UInt64.le_iff_toNat_le.mpr (Nat.le_trans stride_room least)
  · intro large calls allowed pool reached block inUse
    have served := served_visited nonempty present fits allowed pool reached
    obtain ⟨-, places, -⟩ := pool_blocks nonempty present fits allowed pool reached
    obtain ⟨index, below, place⟩ := places block inUse
    have size_eq : pool.allocator.blockSize.toNat = size.toNat := by
      rw [served.blockSize]
      exact stride_large large
    have last : (index + 1) * size.toNat ≤ objects.toNat * size.toNat :=
      Nat.mul_le_mul_right _ below
    rw [stride_large large] at place
    rw [Nat.succ_mul, Nat.mul_comm objects.toNat] at last
    constructor
    · change base ≤ block
      omega
    · change block + pool.allocator.blockSize.toNat ≤ base + size.toNat * objects.toNat
      rw [size_eq]
      omega

end

instance (pool : Pool) : DecidablePred pool.Allowed
  | .allocate _ => inferInstanceAs (Decidable True)
  | .deallocate block => inferInstanceAs (Decidable (block ∈ pool.used))
  | .write address bytes =>
      inferInstanceAs (Decidable (∃ block ∈ pool.used,
        Region.Inside ⟨address, bytes.length⟩ (pool.allocator.region block)))

/-- Two objects, of which the first is given back and given out again. -/
def sampleCalls : List Call :=
  [.allocate 16, .allocate 16, .write 4096 [1, 2, 3], .deallocate 4096, .allocate 8]

theorem sampleCalls_run : (run (step false) (start 16 2 4096 fun _ => 0) sampleCalls).isSome =
    true := by
  decide +kernel

theorem pool_blocks_sample : ∃ pool,
    run (step false) (start 16 2 4096 fun _ => 0) sampleCalls = some pool ∧ pool.used.Nodup ∧
    (∀ block ∈ pool.used, ∃ index < 2, block = 4096 + index * stride 16 2 4096) ∧
    ∀ request ≤ 16, pool.Serves false request ↔ pool.used.length < 2 := by
  obtain ⟨pool, ran⟩ := Option.isSome_iff_exists.mp sampleCalls_run
  exact ⟨pool, ran, pool_blocks (by decide) (by decide) (by decide) (by decide +kernel) pool
    (run_mem_visited ran)⟩

/-- Objects of four bytes. -/
theorem pool_inside_small :
    ¬ ∀ calls, (∀ transition ∈ path (step false) (start 4 10 4096 fun _ => 0) calls,
        transition.before.Allowed transition.event) →
      ∀ pool ∈ visited (step false) (start 4 10 4096 fun _ => 0) calls,
        ∀ block ∈ pool.used, Region.Inside (pool.allocator.region block) ⟨4096, 4 * 10⟩ := by
  have inside_iff := @pool_inside_iff 4 10 4096 false (by decide) (by decide) (by decide)
    fun _ => 0
  intro inside
  exact absurd (inside_iff.mp inside) (by decide)

end Pool

end ToySystem.Heap
