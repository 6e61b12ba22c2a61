import Mathlib.Data.List.Perm.Subperm
import ToySystem.Heap.XallocatorClient

namespace ToySystem.Heap

open ToySystem.Data

/-! # The assertions of the xallocator

A request traps where it needs a sixteenth allocator or a block larger than the largest
power of two, and nowhere else.
-/

namespace Xallocator

def blockSizes (heap : Xallocator) : List UInt64 :=
  heap.allocators.map fun pointer => (heap.instances pointer).blockSize

section

variable {heap : Xallocator} {regions areas : List Region} {blocks : Nat → Blocks}
  {size : UInt64} {answers : Answers}

theorem setInstance_blockSizes {pointer : Nat} {allocator : Allocator}
    (sameSize : allocator.blockSize = (heap.instances pointer).blockSize) :
    (heap.setInstance pointer allocator).blockSizes = heap.blockSizes := by
  refine List.map_congr_left ?_
  intro other _
  by_cases here : other = pointer
  · rw [here, setInstance_self, sameSize]
  · rw [setInstance_of_ne here]

theorem xfree_blockSizes (heap : Xallocator) (pointer : Nat) :
    (heap.xfree pointer).blockSizes = heap.blockSizes := by
  by_cases null : pointer = 0
  · rw [xfree, if_pos null]
  · rw [xfree_eq null]
    exact setInstance_blockSizes rfl

theorem getAllocator_blockSizes {found : Outcome Nat × Xallocator}
    (small : size.toNat + wordSize ≤ 2 ^ 63) (fresh : heap.Fresh regions size answers)
    (ran : heap.xallocatorGetAllocator size answers.allocator = some found) :
    found.2.blockSizes = heap.blockSizes ∨
      found.2.blockSizes = heap.blockSizes ++ [blockSizeFor size] := by
  rcases getAllocator_cases ran with existing | ⟨-, thrown | created⟩
  · obtain ⟨pointer, -, -, rfl⟩ := existing
    exact .inl rfl
  · rw [thrown.2]
    exact .inl rfl
  · obtain ⟨pointer, answered, -, rfl⟩ := created
    have absent := (fresh.allocator pointer answered).1
    right
    have older : heap.allocators.map (fun other => ((heap.setInstance pointer
        (Allocator.create (blockSizeFor size) 0 0 0)).instances other).blockSize) =
        heap.blockSizes := by
      refine List.map_congr_left ?_
      intro other inTable
      have differ : other ≠ pointer := by
        rintro rfl
        exact absent inTable
      rw [setInstance_of_ne differ]
    change (heap.allocators ++ [pointer]).map _ = _
    rw [List.map_append, List.map_singleton, older, setInstance_self, create_blockSize small]

theorem xmalloc_blockSizes {reply : Reply} (valid : Valid heap regions areas blocks)
    (small : size.toNat + wordSize < 2 ^ 64) (fresh : heap.Fresh regions size answers)
    (ran : heap.xmalloc size answers = some reply) : reply.state.blockSizes = heap.blockSizes ∨
      reply.state.blockSizes = heap.blockSizes ++ [blockSizeFor size] := by
  by_cases large : 2 ^ 63 < size.toNat + wordSize
  · rw [valid.xmalloc_large large small ran]
    exact .inl rfl
  · obtain ⟨found, get, result⟩ := xmalloc_cases ran
    have table := getAllocator_blockSizes (Nat.le_of_not_lt large) fresh get
    have same : reply.state.blockSizes = found.2.blockSizes := by
      rcases result with thrown | allocated
      · rw [thrown.2]
      · obtain ⟨pointer, allocation, -, allocate, thrown | given⟩ := allocated
        · rw [thrown.2]
          exact setInstance_blockSizes (allocation_blockSize allocate)
        · obtain ⟨block, -, rfl⟩ := given
          exact setInstance_blockSizes (allocation_blockSize allocate)
    rw [same]
    exact table

/-- `xrealloc` frees, or asks `xmalloc`; what it does after that leaves the table alone. -/
theorem xrealloc_blockSizes {pointer : Nat} {reply : Reply}
    (ran : heap.xrealloc pointer size answers = some reply) :
    reply.state.blockSizes = heap.blockSizes ∨ ∃ given, heap.xmalloc size answers = some given ∧
      reply.state.blockSizes = given.state.blockSizes := by
  unfold xrealloc at ran
  split at ran
  · exact .inr ⟨reply, ran, rfl⟩
  · split at ran
    · cases ran
      exact .inl (xfree_blockSizes heap pointer)
    · obtain ⟨given, malloc, rfl⟩ := Option.map_eq_some_iff.mp ran
      refine .inr ⟨given, malloc, ?_⟩
      cases outcome : given.outcome with
      | thrown => simp only
      | returned newMem =>
          simp only
          split
          · exact xfree_blockSizes _ pointer
          · rfl

theorem xrealloc_traps {pointer : Nat} (trapped : heap.xrealloc pointer size answers = none) :
    heap.xmalloc size answers = none := by
  unfold xrealloc at trapped
  split at trapped
  · exact trapped
  · split at trapped
    · cases trapped
    · exact Option.map_eq_none_iff.mp trapped

theorem getAllocator_traps {fresh : Option Nat} :
    heap.xallocatorGetAllocator size fresh = none ↔ blockSizeFor size ∉ heap.blockSizes ∧
      fresh ≠ none ∧ maxAllocators ≤ heap.blockSizes.length := by
  have served : blockSizeFor size ∈ heap.blockSizes ↔
      (heap.findAllocator (blockSizeFor size)).isSome := by
    rw [findAllocator, List.find?_isSome, blockSizes, List.mem_map]
    simp only [decide_eq_true_eq]
  rw [served, blockSizes, List.length_map]
  unfold xallocatorGetAllocator
  cases search : heap.findAllocator (blockSizeFor size) with
  | some pointer => simp [search]
  | none =>
      simp only [search]
      cases fresh with
      | none => simp
      | some pointer =>
          simp only [Option.map_eq_none_iff, insertAllocator]
          change (if heap.allocators.length < maxAllocators then _ else none) = none ↔ _
          split
          · rename_i room
            simp
            omega
          · rename_i full
            simp
            omega

/-- From an allocator that serves the request there is a block. -/
theorem allocate_ready {allocator : Allocator} (small : size.toNat + wordSize ≤ 2 ^ 63)
    (objectSize : allocator.objectSize = blockSizeFor size) (blocks : allocator.maxObjects = 0)
    (fresh : Option Nat) (memory : Memory) :
    allocator.allocate (sizeofPointer + size) false fresh memory ≠ none := by
  have whole := add_header (Nat.lt_of_le_of_lt small (by decide))
  have fits : sizeofPointer + size ≤ allocator.objectSize := by
    rw [objectSize, UInt64.add_comm, UInt64.le_iff_toNat_le, whole]
    exact (blockSizeFor_room small).1
  obtain ⟨allocation, allocated⟩ := Allocator.allocate_some false fresh fits blocks
  rw [allocated]
  exact Option.some_ne_none allocation

/-- Of the requests that some block size serves, those trap that need one more
allocator than there may be. -/
theorem xmalloc_traps (valid : Valid heap regions areas blocks)
    (small : size.toNat + wordSize ≤ 2 ^ 63) : heap.xmalloc size answers = none ↔
      blockSizeFor size ∉ heap.blockSizes ∧ answers.allocator ≠ none ∧
        maxAllocators ≤ heap.blockSizes.length := by
  rw [← getAllocator_traps]
  constructor
  · intro trapped
    cases get : heap.xallocatorGetAllocator size answers.allocator with
    | none => rfl
    | some found =>
        rw [xmalloc, get, Option.bind_some] at trapped
        rcases getAllocator_cases get with existing | ⟨-, thrown | created⟩
        · obtain ⟨pointer, inTable, serves, rfl⟩ := existing
          have ready := valid.ready pointer inTable
          exact absurd (Option.map_eq_none_iff.mp trapped)
            (allocate_ready small (ready.objectSize.trans serves) ready.maxObjects _ _)
        · rw [thrown.2] at trapped
          cases trapped
        · obtain ⟨pointer, -, -, rfl⟩ := created
          have none := Option.map_eq_none_iff.mp trapped
          simp only [setInstance_self] at none
          exact absurd none (allocate_ready small rfl rfl _ _)
  · intro trapped
    rw [xmalloc, trapped]
    rfl

/-- The bytes behind the header of a block that was handed out. -/
def roomAt (pointer : Nat) (heap : Xallocator) : Nat :=
  (heap.instances (getBlockAllocator pointer heap.memory)).blockSize.toNat - wordSize

theorem roomAt_given {reply : Reply} {pointer : Nat} (valid : Valid heap regions areas blocks)
    (fresh : heap.Fresh regions size answers) (ran : heap.xmalloc size answers = some reply)
    (returned : reply.outcome = .returned pointer) : reply.state.roomAt pointer =
      (Allocator.create (blockSizeFor size) 0 0 0).blockSize.toNat - wordSize := by
  obtain ⟨found, get, result⟩ := xmalloc_cases ran
  rcases result with thrown | ⟨owner, allocation, here, allocate, thrown | given⟩
  · rw [thrown.2] at returned
    cases returned
  · rw [thrown.2] at returned
    cases returned
  · obtain ⟨block, -, rfl⟩ := given
    cases returned
    have served : owner < 2 ^ 64 ∧ (found.2.instances owner).blockSize =
        (Allocator.create (blockSizeFor size) 0 0 0).blockSize := by
      rcases getAllocator_cases get with existing | ⟨-, thrown | created⟩
      · obtain ⟨other, inTable, serves, rfl⟩ := existing
        cases here
        refine ⟨(valid.ready owner inTable).address, ?_⟩
        have room := (valid.keeps owner inTable).room
        rw [serves] at room ⊢
        have large : sizeofPointer ≤ blockSizeFor size := UInt64.le_iff_toNat_le.mpr room
        exact (if_neg (UInt64.not_lt.mpr large)).symm
      · rw [thrown.2] at here
        cases here
      · obtain ⟨other, answered, -, rfl⟩ := created
        cases here
        refine ⟨(fresh.allocator owner answered).2, ?_⟩
        simp only [setInstance_self]
    have header : getBlockAllocator (block + wordSize) (found.2.memory.storeWord block owner) =
        owner := by
      rw [getBlockAllocator, getBlockPtr, Nat.add_sub_cancel]
      exact Memory.loadWord_storeWord found.2.memory block served.1
    rw [roomAt, header]
    change ((found.2.setInstance owner allocation.allocator).instances owner).blockSize.toNat - _ = _
    rw [setInstance_self, allocation_blockSize allocate, served.2]

end

end Xallocator

namespace Session

/-- The memory that a call asks for. -/
def Call.request : Call → UInt64
  | .xmalloc size _ => size
  | .xfree _ => 0
  | .xrealloc _ size _ => size
  | .write .. => 0

/-- The largest request that the allocators have been tuned for. -/
def commonRequest : UInt64 := 32760

section

variable {heap : Xallocator} {regions areas : List Region} {blocks : Nat → Blocks}

theorem xmalloc_served {size : UInt64} (answers : Answers)
    (valid : heap.Valid regions areas blocks) (common : heap.blockSizes ⊆ commonSizes)
    (few : size ≤ commonRequest) : heap.xmalloc size answers ≠ none := by
  have bound : size.toNat ≤ 32760 := UInt64.le_iff_toNat_le.mp few
  have small : size.toNat + wordSize ≤ 2 ^ 63 := by
    unfold wordSize
    omega
  intro trapped
  obtain ⟨unserved, -, full⟩ := (Xallocator.xmalloc_traps valid small).mp trapped
  have distinct : (blockSizeFor size :: heap.blockSizes).Nodup :=
    List.nodup_cons.mpr ⟨unserved, valid.sizes⟩
  have among : blockSizeFor size :: heap.blockSizes ⊆ commonSizes :=
    List.cons_subset.mpr ⟨blockSizeFor_common few, common⟩
  have most := (distinct.subperm among).length_le
  have table : commonSizes.length = maxAllocators := rfl
  rw [List.length_cons] at most
  omega

theorem xmalloc_common {size : UInt64} {answers : Answers} {reply : Xallocator.Reply}
    (valid : heap.Valid regions areas blocks) (common : heap.blockSizes ⊆ commonSizes)
    (few : size ≤ commonRequest) (fresh : heap.Fresh regions size answers)
    (ran : heap.xmalloc size answers = some reply) :
    reply.state.blockSizes ⊆ commonSizes := by
  have bound : size.toNat ≤ 32760 := UInt64.le_iff_toNat_le.mp few
  have small : size.toNat + wordSize < 2 ^ 64 := by
    unfold wordSize
    omega
  rcases Xallocator.xmalloc_blockSizes valid small fresh ran with same | longer
  · rw [same]
    exact common
  · rw [longer, List.append_subset]
    exact ⟨common, List.cons_subset.mpr ⟨blockSizeFor_common few, List.nil_subset _⟩⟩

end

/-- An allowed call with a request of that size at most. -/
def Modest (session : Session) (call : Call) : Prop :=
  session.Allowed call ∧ call.request ≤ commonRequest

/-- What a run of such calls keeps. -/
structure Common (session : Session) : Prop where
  agrees : Agrees session.heap session.regions session.objects
  sizes : session.heap.blockSizes ⊆ commonSizes

theorem Common.step {session after : Session} {call : Call} (common : session.Common)
    (allowed : session.Allowed call) (few : call.request ≤ commonRequest)
    (stepped : session.step call = some after) : after.Common := by
  refine ⟨common.agrees.step allowed stepped, ?_⟩
  obtain ⟨⟨blocks, valid⟩, -⟩ := common.agrees
  cases call with
  | xmalloc size answers =>
      obtain ⟨reply, ran, rfl⟩ := Option.map_eq_some_iff.mp stepped
      exact xmalloc_common valid common.sizes few allowed.2 ran
  | xfree pointer =>
      cases stepped
      rw [Xallocator.xfree_blockSizes]
      exact common.sizes
  | xrealloc pointer size answers =>
      obtain ⟨reply, ran, rfl⟩ := Option.map_eq_some_iff.mp stepped
      obtain ⟨-, -, fresh⟩ := allowed
      rcases Xallocator.xrealloc_blockSizes ran with same | asked
      · rw [same]
        exact common.sizes
      · obtain ⟨given, malloc, same⟩ := asked
        rw [same]
        exact xmalloc_common valid common.sizes few fresh malloc
  | write pointer offset bytes =>
      cases stepped
      exact common.sizes

theorem Common.served {session : Session} {call : Call} (common : session.Common)
    (few : call.request ≤ commonRequest) : session.step call ≠ none := by
  obtain ⟨⟨blocks, valid⟩, -⟩ := common.agrees
  intro trapped
  cases call with
  | xmalloc size answers =>
      exact xmalloc_served answers valid common.sizes few (Option.map_eq_none_iff.mp trapped)
  | xfree pointer => cases trapped
  | xrealloc pointer size answers =>
      exact xmalloc_served answers valid common.sizes few
        (Xallocator.xrealloc_traps (Option.map_eq_none_iff.mp trapped))
  | write pointer offset bytes => cases trapped

/-- One request for each block size. -/
def oneOfEach : List Call :=
  [.xmalloc 0 ⟨some 1, some 65536⟩, .xmalloc 8 ⟨some 2, some 131072⟩,
    .xmalloc 24 ⟨some 3, some 196608⟩, .xmalloc 56 ⟨some 4, some 262144⟩,
    .xmalloc 120 ⟨some 5, some 327680⟩, .xmalloc 248 ⟨some 6, some 393216⟩,
    .xmalloc 388 ⟨some 7, some 458752⟩, .xmalloc 504 ⟨some 8, some 524288⟩,
    .xmalloc 760 ⟨some 9, some 589824⟩, .xmalloc 1016 ⟨some 10, some 655360⟩,
    .xmalloc 2040 ⟨some 11, some 720896⟩, .xmalloc 4088 ⟨some 12, some 786432⟩,
    .xmalloc 8184 ⟨some 13, some 851968⟩, .xmalloc 16376 ⟨some 14, some 917504⟩,
    .xmalloc 32760 ⟨some 15, some 983040⟩]

def oneMore : Call := .xmalloc 32761 ⟨some 16, some 2097152⟩

theorem oneMore_traps :
    (run step emptySession oneOfEach).any (fun session =>
      session.Allowed oneMore && (session.step oneMore).isNone) = true ∧
    (∀ transition ∈ path step emptySession oneOfEach,
      transition.before.Allowed transition.event) ∧
    ∀ call ∈ oneOfEach, call.request ≤ commonRequest := by
  decide +kernel

/-- No allowed call is trapped, as long as the requests are below a limit, exactly up to
the request that fills the largest of the fifteen common blocks. -/
theorem never_traps_iff (limit : UInt64) :
    (∀ instances memory calls, (∀ call ∈ calls, Call.request call ≤ limit) →
      (∀ transition ∈ path step (start instances memory) calls,
        transition.before.Allowed transition.event) →
      ∀ session ∈ visited step (start instances memory) calls, ∀ call : Call,
        call.request ≤ limit → session.Allowed call → session.step call ≠ none) ↔
      limit ≤ commonRequest := by
  constructor
  · intro served
    by_contra beyond
    have more : commonRequest < limit := UInt64.not_le.mp beyond
    obtain ⟨trapped, allowed, few⟩ := oneMore_traps
    obtain ⟨session, ran, last⟩ := (Option.any_eq_true _ _).mp trapped
    rw [Bool.and_eq_true, decide_eq_true_eq, Option.isNone_iff_eq_none] at last
    have next : oneMore.request ≤ limit := by
      have least := UInt64.lt_iff_toNat_lt.mp more
      exact UInt64.le_iff_toNat_le.mpr least
    refine served _ _ oneOfEach ?_ allowed session (run_mem_visited ran) oneMore next last.1 last.2
    intro call member
    exact UInt64.le_of_lt (UInt64.lt_of_le_of_lt (few call member) more)
  · intro below instances memory calls few allowed session reached call small permitted
    have requests : ∀ transition ∈ path step (start instances memory) calls,
        transition.before.Modest transition.event := by
      intro transition member
      refine ⟨allowed transition member, ?_⟩
      exact UInt64.le_trans (few _ (event_mem_of_mem_path member)) below
    have common : session.Common := by
      refine visited_invariant ?_ ?_ requests session reached
      · exact ⟨Agrees.start instances memory, List.nil_subset _⟩
      · intro before event after valid both stepped
        exact valid.step both.1 both.2 stepped
    exact common.served (UInt64.le_trans small below)

/-- What `xmalloc` returns has room for the request, and wastes less than what is asked for,
exactly up to 2^63 bytes with the header; a request that no block size serves returns
nothing, and one whose sum with the header wraps around returns room for no byte. -/
theorem xmalloc_room {instances : Nat → Allocator} {memory : Memory} {calls : List Call}
    {session : Session} {size : UInt64} {answers : Answers} {reply : Xallocator.Reply}
    {pointer : Nat} (ran : run step (start instances memory) calls = some session)
    (allowed : ∀ transition ∈ path step (start instances memory) calls,
      transition.before.Allowed transition.event)
    (fresh : session.heap.Fresh session.regions size answers)
    (given : session.heap.xmalloc size answers = some reply)
    (returned : reply.outcome = .returned pointer) :
    (size.toNat + wordSize ≤ 2 ^ 63 ∧ size.toNat ≤ reply.state.roomAt pointer ∧
      reply.state.roomAt pointer < 2 * size.toNat + wordSize) ∨
    (2 ^ 64 ≤ size.toNat + wordSize ∧ reply.state.roomAt pointer = 0) := by
  obtain ⟨⟨blocks, valid⟩, -⟩ := agrees_visited allowed session (run_mem_visited ran)
  have room := Xallocator.roomAt_given valid fresh given returned
  have width : wordSize = 8 := rfl
  by_cases large : 2 ^ 63 < size.toNat + wordSize
  · right
    by_cases wrapped : 2 ^ 64 ≤ size.toNat + wordSize
    · refine ⟨wrapped, ?_⟩
      have little := UInt64.le_iff_toNat_le.mp (blockSizeFor_wrapped wrapped)
      have least : (Allocator.create (blockSizeFor size) 0 0 0).blockSize.toNat ≤ 8 := by
        change (if blockSizeFor size < sizeofPointer then sizeofPointer
          else blockSizeFor size).toNat ≤ 8
        split
        · decide
        · exact little
      omega
    · rw [valid.xmalloc_large large (Nat.lt_of_not_le wrapped) given] at returned
      cases returned
  · left
    have small := Nat.le_of_not_lt large
    obtain ⟨enough, waste⟩ := blockSizeFor_room small
    rw [Xallocator.create_blockSize small] at room
    omega

/-- After some calls: a request of 20 bytes, and one of 2^64 - 1. -/
theorem wrapped_room : ∃ session first second, run step emptySession sampleCalls = some session ∧
    session.heap.xmalloc 20 ⟨none, none⟩ = some first ∧ 20 ≤ first.state.roomAt 65544 ∧
    session.heap.xmalloc 18446744073709551615 ⟨some 3, some 4096⟩ = some second ∧
    second.state.roomAt 4104 = 0 := by
  let replies (session : Session) (size : UInt64) (answers : Answers) (pointer : Nat) : Bool :=
    decide (session.heap.Fresh session.regions size answers) &&
      (session.heap.xmalloc size answers).any fun reply => reply.outcome == .returned pointer
  have computed : (run step emptySession sampleCalls).any (fun session =>
      replies session 20 ⟨none, none⟩ 65544 &&
        replies session 18446744073709551615 ⟨some 3, some 4096⟩ 4104) = true := by
    decide +kernel
  obtain ⟨session, ran, both⟩ := (Option.any_eq_true _ _).mp computed
  obtain ⟨ordinary, huge⟩ := Bool.and_eq_true_iff.mp both
  obtain ⟨fresh, replied⟩ := Bool.and_eq_true_iff.mp ordinary
  obtain ⟨first, given, returned⟩ := (Option.any_eq_true _ _).mp replied
  obtain ⟨hugeFresh, hugeReplied⟩ := Bool.and_eq_true_iff.mp huge
  obtain ⟨second, hugeGiven, hugeReturned⟩ := (Option.any_eq_true _ _).mp hugeReplied
  refine ⟨session, first, second, ran, given, ?_, hugeGiven, ?_⟩
  · rcases xmalloc_room ran sampleCalls_allowed (of_decide_eq_true fresh) given
      (eq_of_beq returned) with room | wrapped
    · exact room.2.1
    · exact absurd wrapped.1 (by decide)
  · rcases xmalloc_room ran sampleCalls_allowed (of_decide_eq_true hugeFresh) hugeGiven
      (eq_of_beq hugeReturned) with room | wrapped
    · exact absurd room.1 (by decide)
    · exact wrapped.2

end Session

end ToySystem.Heap
