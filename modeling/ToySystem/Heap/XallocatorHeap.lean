import Mathlib.Data.List.Nodup
import ToySystem.Data.Ledger
import ToySystem.Heap.Xallocator

namespace ToySystem.Heap

open ToySystem.Data

/-! # The xallocator as a heap

Between its allocators the xallocator divides what it got from `operator new`: each
block is free or under an area in the client's hands, whose header names the
allocator.
-/

/-- The blocks of an allocator. -/
structure Blocks where
  obtained : List Nat
  free : List Nat
  used : List Nat

namespace Xallocator

def regionsOf (heap : Xallocator) (blocks : Nat → Blocks) (pointer : Nat) : List Region :=
  (blocks pointer).obtained.map (heap.instances pointer).region

/-- An instance that serves the requests of one size class. -/
structure Ready (pointer : Nat) (allocator : Allocator) : Prop where
  address : pointer < 2 ^ 64
  objectSize : allocator.objectSize = allocator.blockSize
  maxObjects : allocator.maxObjects = 0
  allocatorMode : allocator.allocatorMode = .heapBlocks

/-- An area in the client's hands. -/
structure Lives (heap : Xallocator) (blocks : Nat → Blocks) (area : Region) : Prop where
  behind : wordSize ≤ area.base
  small : area.size + wordSize ≤ 2 ^ 63
  owner : getBlockAllocator area.base heap.memory ∈ heap.allocators
  used : getBlockPtr area.base ∈ (blocks (getBlockAllocator area.base heap.memory)).used
  serves : (heap.instances (getBlockAllocator area.base heap.memory)).blockSize =
    blockSizeFor (UInt64.ofNat area.size)

structure Valid (heap : Xallocator) (regions areas : List Region) (blocks : Nat → Blocks) :
    Prop where
  ready : ∀ pointer ∈ heap.allocators, Ready pointer (heap.instances pointer)
  sizes : (heap.allocators.map fun pointer => (heap.instances pointer).blockSize).Nodup
  keeps : ∀ pointer ∈ heap.allocators, Allocator.Keeps heap.memory (heap.instances pointer)
    (blocks pointer).obtained (blocks pointer).free (blocks pointer).used
  ledger : regions.Perm (heap.allocators.flatMap (heap.regionsOf blocks))
  apart : regions.Pairwise Region.Apart
  lives : ∀ area ∈ areas, Lives heap blocks area
  nodup : (areas.map Region.base).Nodup
  covered : ∀ pointer ∈ heap.allocators, ∀ block ∈ (blocks pointer).used,
    ∃ area ∈ areas, area.base = block + wordSize

section

variable {heap : Xallocator} {regions areas : List Region} {blocks : Nat → Blocks}

theorem foreign_apart (ledger : regions.Perm (heap.allocators.flatMap (heap.regionsOf blocks)))
    (apart : regions.Pairwise Region.Apart) {first second firstBlock secondBlock : Nat}
    (inFirst : first ∈ heap.allocators) (inSecond : second ∈ heap.allocators)
    (differ : first ≠ second) (ofFirst : firstBlock ∈ (blocks first).obtained)
    (ofSecond : secondBlock ∈ (blocks second).obtained) :
    ((heap.instances first).region firstBlock).Apart
      ((heap.instances second).region secondBlock) := by
  have all := (ledger.pairwise_iff fun apart => apart.symm).mp apart
  have between := (List.pairwise_flatMap.mp all).2
  have symmetric : Std.Symm fun first second =>
      ∀ one ∈ heap.regionsOf blocks first, ∀ other ∈ heap.regionsOf blocks second,
        one.Apart other :=
    ⟨fun _ _ apart one inOne other inOther => (apart other inOther one inOne).symm⟩
  exact between.forall inFirst inSecond differ _ (List.mem_map_of_mem ofFirst) _
    (List.mem_map_of_mem ofSecond)

theorem regionsOf_other {other pointer : Nat} {allocator : Allocator} {parts : Blocks}
    (differ : other ≠ pointer) : (heap.setInstance pointer allocator).regionsOf
      (Function.update blocks pointer parts) other = heap.regionsOf blocks other := by
  rw [regionsOf, regionsOf, Function.update_of_ne differ, setInstance_of_ne differ]

theorem regionsOf_self {pointer : Nat} {allocator : Allocator} {parts : Blocks}
    (sameSize : allocator.blockSize = (heap.instances pointer).blockSize) :
    (heap.setInstance pointer allocator).regionsOf (Function.update blocks pointer parts) pointer =
      parts.obtained.map (heap.instances pointer).region := by
  rw [regionsOf, Function.update_self, setInstance_self]
  refine List.map_congr_left ?_
  intro block _
  rw [Allocator.region, Allocator.region, sameSize]

/-- Nothing more was obtained. -/
theorem regions_same {pointer : Nat} {allocator : Allocator} {parts : Blocks}
    (sameSize : allocator.blockSize = (heap.instances pointer).blockSize)
    (none : parts.obtained = (blocks pointer).obtained) : heap.allocators.flatMap
      ((heap.setInstance pointer allocator).regionsOf (Function.update blocks pointer parts)) =
      heap.allocators.flatMap (heap.regionsOf blocks) := by
  refine List.flatMap_congr ?_
  intro other _
  by_cases here : other = pointer
  · subst here
    rw [regionsOf_self sameSize, none, regionsOf]
  · exact regionsOf_other here

/-- The blocks of another allocator than the one that has changed. -/
theorem changed_apart {pointer other block rest : Nat} {allocator : Allocator} {parts : Blocks}
    (ledger : regions.Perm (heap.allocators.flatMap
      ((heap.setInstance pointer allocator).regionsOf (Function.update blocks pointer parts))))
    (apart : regions.Pairwise Region.Apart) (member : pointer ∈ heap.allocators)
    (inTable : other ∈ heap.allocators) (differ : other ≠ pointer)
    (ofOther : rest ∈ (blocks other).obtained) (passed : block ∈ parts.obtained) :
    ((heap.instances other).region rest).Apart (allocator.region block) := by
  have foreign := @foreign_apart (heap.setInstance pointer allocator) regions
    (Function.update blocks pointer parts) ledger apart other pointer rest block inTable member
    differ
  rw [Function.update_of_ne differ, Function.update_self, setInstance_self,
    setInstance_of_ne differ] at foreign
  exact foreign ofOther passed

theorem create_blockSize {size : UInt64} (small : size.toNat + wordSize ≤ 2 ^ 63) :
    (Allocator.create (blockSizeFor size) 0 0 0).blockSize = blockSizeFor size := by
  have room := (blockSizeFor_room small).1
  refine if_neg ?_
  intro less
  have below := UInt64.lt_iff_toNat_lt.mp less
  have header : sizeofPointer.toNat = 8 := rfl
  omega

namespace Valid

theorem allocators_nodup (valid : Valid heap regions areas blocks) : heap.allocators.Nodup :=
  List.Nodup.of_map _ valid.sizes

theorem size_inj (valid : Valid heap regions areas blocks) {first second : Nat}
    (inFirst : first ∈ heap.allocators) (inSecond : second ∈ heap.allocators)
    (same : (heap.instances first).blockSize = (heap.instances second).blockSize) :
    first = second :=
  List.inj_on_of_nodup_map valid.sizes inFirst inSecond same

theorem blocks_apart (valid : Valid heap regions areas blocks)
    {first second firstBlock secondBlock : Nat}
    (inFirst : first ∈ heap.allocators) (inSecond : second ∈ heap.allocators)
    (ofFirst : firstBlock ∈ (blocks first).obtained)
    (ofSecond : secondBlock ∈ (blocks second).obtained)
    (differ : first = second → firstBlock ≠ secondBlock) :
    ((heap.instances first).region firstBlock).Apart
      ((heap.instances second).region secondBlock) := by
  by_cases same : first = second
  · subst same
    exact (valid.keeps first inFirst).apart_of_ne ofFirst ofSecond (differ rfl)
  · exact foreign_apart valid.ledger valid.apart inFirst inSecond same ofFirst ofSecond

/-- The word that an area's header is in. -/
theorem header_inside (valid : Valid heap regions areas blocks) {area : Region}
    (member : area ∈ areas) : Region.Inside ⟨getBlockPtr area.base, wordSize⟩
      ((heap.instances (getBlockAllocator area.base heap.memory)).region
        (getBlockPtr area.base)) :=
  (valid.keeps _ (valid.lives area member).owner).word_inside _

theorem owner_obtained (valid : Valid heap regions areas blocks) {area : Region}
    (member : area ∈ areas) : getBlockPtr area.base ∈
      (blocks (getBlockAllocator area.base heap.memory)).obtained :=
  (valid.keeps _ (valid.lives area member).owner).obtained_of_used (valid.lives area member).used

/-- One allocator passes a block of its on, and the word at its start is written. -/
theorem change {pointer block : Nat} {allocator : Allocator} {memory : Memory} {parts : Blocks}
    {laterRegions laterAreas : List Region} (valid : Valid heap regions areas blocks)
    (member : pointer ∈ heap.allocators)
    (sameSize : allocator.blockSize = (heap.instances pointer).blockSize)
    (ready : Ready pointer allocator)
    (keeps : Allocator.Keeps memory allocator parts.obtained parts.free parts.used)
    (ledger : laterRegions.Perm (heap.allocators.flatMap
      ((heap.setInstance pointer allocator).regionsOf (Function.update blocks pointer parts))))
    (apart : laterRegions.Pairwise Region.Apart)
    (passed : block ∈ parts.obtained) (same : heap.memory.SameOutside ⟨block, wordSize⟩ memory)
    (kept : ∀ used ∈ (blocks pointer).used, used ≠ block → used ∈ parts.used)
    (lives : ∀ area ∈ laterAreas, area ∈ areas ∧ getBlockPtr area.base ≠ block ∨
      Lives { heap.setInstance pointer allocator with memory := memory }
        (Function.update blocks pointer parts) area)
    (nodup : (laterAreas.map Region.base).Nodup)
    (covered : ∀ used ∈ parts.used, ∃ area ∈ laterAreas, area.base = used + wordSize)
    (stay : ∀ area ∈ areas, getBlockPtr area.base ≠ block → area ∈ laterAreas) :
    Valid { heap.setInstance pointer allocator with memory := memory } laterRegions laterAreas
      (Function.update blocks pointer parts) := by
  -- The blocks of the other allocators are those they were, and apart from this one.
  have spared : ∀ other ∈ heap.allocators, other ≠ pointer → ∀ rest ∈ (blocks other).obtained,
      ((heap.instances other).region rest).Apart (allocator.region block) := by
    intro other inTable differ rest ofOther
    exact changed_apart ledger apart member inTable differ ofOther passed
  have word := keeps.word_inside block
  constructor
  case ready =>
    intro other inTable
    by_cases here : other = pointer
    · subst here
      simp only [setInstance_self]
      exact ready
    · simp only [setInstance_of_ne here]
      exact valid.ready other inTable
  case sizes =>
    have sizes : heap.allocators.map (fun other =>
        ((heap.setInstance pointer allocator).instances other).blockSize) =
        heap.allocators.map fun other => (heap.instances other).blockSize := by
      refine List.map_congr_left ?_
      intro other inTable
      by_cases here : other = pointer
      · subst here
        rw [setInstance_self, sameSize]
      · rw [setInstance_of_ne here]
    change (heap.allocators.map _).Nodup
    rw [sizes]
    exact valid.sizes
  case keeps =>
    intro other inTable
    by_cases here : other = pointer
    · subst here
      simp only [setInstance_self, Function.update_self]
      exact keeps
    · simp only [setInstance_of_ne here, Function.update_of_ne here]
      refine (valid.keeps other inTable).frame same ?_
      intro free isFree
      have ofOther := (valid.keeps other inTable).obtained_of_free isFree
      exact ((spared other inTable here free ofOther).symm.inside word).symm
  case ledger => exact ledger
  case apart => exact apart
  case lives =>
    intro area later
    rcases lives area later with old | new
    · obtain ⟨inAreas, differ⟩ := old
      have live := valid.lives area inAreas
      have own := valid.header_inside inAreas
      have untouched : getBlockAllocator area.base memory =
          getBlockAllocator area.base heap.memory := by
        refine same.loadWord ?_
        by_cases here : getBlockAllocator area.base heap.memory = pointer
        · have inUse := live.used
          rw [here] at inUse own
          have both := keeps.apart_of_ne
            (keeps.obtained_of_used (kept _ inUse differ)) passed differ
          exact (both.symm.inside word).symm.inside (keeps.word_inside _) |>.symm
        · have foreign := spared _ live.owner here _ (valid.owner_obtained inAreas)
          exact ((foreign.inside own).symm.inside word)
      refine ⟨live.behind, live.small, ?_, ?_, ?_⟩
      · simp only [untouched]
        exact live.owner
      · simp only [untouched]
        by_cases here : getBlockAllocator area.base heap.memory = pointer
        · have inUse := live.used
          rw [here] at inUse ⊢
          rw [Function.update_self]
          exact kept _ inUse differ
        · rw [Function.update_of_ne here]
          exact live.used
      · simp only [untouched]
        by_cases here : getBlockAllocator area.base heap.memory = pointer
        · have size := live.serves
          rw [here] at size ⊢
          rw [setInstance_self, sameSize]
          exact size
        · rw [setInstance_of_ne here]
          exact live.serves
    · exact new
  case nodup => exact nodup
  case covered =>
    intro other inTable used
    by_cases here : other = pointer
    · subst here
      rw [Function.update_self]
      exact covered used
    · rw [Function.update_of_ne here]
      intro inUse
      obtain ⟨area, inAreas, base⟩ := valid.covered other inTable used inUse
      have ofOther := (valid.keeps other inTable).obtained_of_used inUse
      have room : 0 < (heap.instances other).blockSize.toNat :=
        Nat.lt_of_lt_of_le (by decide) (valid.keeps other inTable).room
      have differ : used ≠ block := (spared other inTable here used ofOther).base_ne room
        (Nat.lt_of_lt_of_le (by decide) keeps.room)
      refine ⟨area, stay area inAreas ?_, base⟩
      rw [base, getBlockPtr, Nat.add_sub_cancel]
      exact differ

/-- The area and the header before it are in its block. -/
theorem area_inside (valid : Valid heap regions areas blocks) {area : Region}
    (member : area ∈ areas) : area.Inside
      ((heap.instances (getBlockAllocator area.base heap.memory)).region
        (getBlockPtr area.base)) := by
  have live := valid.lives area member
  have small := live.small
  have same : (UInt64.ofNat area.size).toNat = area.size := by
    rw [UInt64.toNat_ofNat']
    exact Nat.mod_eq_of_lt (by omega)
  have room := (@blockSizeFor_room (UInt64.ofNat area.size) (by rw [same]; exact small)).1
  rw [same, ← live.serves] at room
  have behind := live.behind
  have width : wordSize = 8 := rfl
  simp only [Region.Inside, Allocator.region, getBlockPtr]
  omega

theorem ptr_ne (valid : Valid heap regions areas blocks) {first second : Region}
    (inFirst : first ∈ areas) (inSecond : second ∈ areas) (differ : first.base ≠ second.base) :
    getBlockPtr first.base ≠ getBlockPtr second.base := by
  have firstBehind := (valid.lives first inFirst).behind
  have secondBehind := (valid.lives second inSecond).behind
  unfold getBlockPtr
  omega

theorem owners_apart (valid : Valid heap regions areas blocks) {first second : Region}
    (inFirst : first ∈ areas) (inSecond : second ∈ areas) (differ : first.base ≠ second.base) :
    ((heap.instances (getBlockAllocator first.base heap.memory)).region
      (getBlockPtr first.base)).Apart
      ((heap.instances (getBlockAllocator second.base heap.memory)).region
        (getBlockPtr second.base)) :=
  valid.blocks_apart (valid.lives first inFirst).owner (valid.lives second inSecond).owner
    (valid.owner_obtained inFirst) (valid.owner_obtained inSecond)
    fun _ => valid.ptr_ne inFirst inSecond differ

theorem areas_apart (valid : Valid heap regions areas blocks) {first second : Region}
    (inFirst : first ∈ areas) (inSecond : second ∈ areas) (differ : first.base ≠ second.base) :
    first.Apart second :=
  (((valid.owners_apart inFirst inSecond differ).inside (valid.area_inside inFirst)).symm.inside
    (valid.area_inside inSecond)).symm

theorem header_apart (valid : Valid heap regions areas blocks) {first second : Region}
    (inFirst : first ∈ areas) (inSecond : second ∈ areas) (differ : first.base ≠ second.base) :
    first.Apart ⟨getBlockPtr second.base, wordSize⟩ :=
  (((valid.owners_apart inFirst inSecond differ).inside (valid.area_inside inFirst)).symm.inside
    (valid.header_inside inSecond)).symm

/-- `xmalloc` puts a block into the client's hands. -/
theorem hand {pointer block : Nat} {allocator : Allocator} {obtained free : List Nat}
    {laterRegions : List Region} {size : UInt64} (valid : Valid heap regions areas blocks)
    (member : pointer ∈ heap.allocators)
    (serves : (heap.instances pointer).blockSize = blockSizeFor size)
    (small : size.toNat + wordSize ≤ 2 ^ 63)
    (sameSize : allocator.blockSize = (heap.instances pointer).blockSize)
    (ready : Ready pointer allocator)
    (keeps : Allocator.Keeps heap.memory allocator obtained free (block :: (blocks pointer).used))
    (ledger : laterRegions.Perm (heap.allocators.flatMap
      ((heap.setInstance pointer allocator).regionsOf
        (Function.update blocks pointer ⟨obtained, free, block :: (blocks pointer).used⟩))))
    (apart : laterRegions.Pairwise Region.Apart) :
    Valid { heap.setInstance pointer allocator with memory := heap.memory.storeWord block pointer }
      laterRegions (⟨block + wordSize, size.toNat⟩ :: areas)
      (Function.update blocks pointer ⟨obtained, free, block :: (blocks pointer).used⟩) := by
  have same := Memory.storeWord_sameOutside heap.memory block pointer
  have passed := keeps.obtained_of_used List.mem_cons_self
  have written : Allocator.Keeps (heap.memory.storeWord block pointer) allocator obtained free
      (block :: (blocks pointer).used) := by
    refine keeps.frame same ?_
    intro other isFree
    have both := keeps.apart_of_ne (keeps.obtained_of_free isFree) passed
      (keeps.free_ne_used isFree List.mem_cons_self)
    exact (both.symm.inside (keeps.word_inside block)).symm
  have unused : block ∉ (blocks pointer).used :=
    (List.nodup_cons.mp (List.nodup_append.mp keeps.nodup).2.1).1
  have fresh : ∀ area ∈ areas, getBlockPtr area.base ≠ block := by
    intro area inAreas equal
    have live := valid.lives area inAreas
    by_cases here : getBlockAllocator area.base heap.memory = pointer
    · have inUse := live.used
      rw [here, equal] at inUse
      exact unused inUse
    · have own := valid.keeps _ live.owner
      have foreign := changed_apart ledger apart member live.owner here
        (valid.owner_obtained inAreas) passed
      exact foreign.base_ne (Nat.lt_of_lt_of_le (by decide) own.room)
        (Nat.lt_of_lt_of_le (by decide) keeps.room) equal
  refine valid.change member sameSize ready written ledger apart passed same ?_ ?_ ?_ ?_ ?_
  · intro used inUse _
    exact List.mem_cons_of_mem block inUse
  · rw [List.forall_mem_cons]
    refine ⟨.inr ?_, fun area inAreas => .inl ⟨inAreas, fresh area inAreas⟩⟩
    have header : getBlockAllocator (block + wordSize) (heap.memory.storeWord block pointer) =
        pointer := by
      rw [getBlockAllocator, getBlockPtr, Nat.add_sub_cancel]
      exact Memory.loadWord_storeWord heap.memory block ready.address
    refine ⟨Nat.le_add_left _ _, small, ?_, ?_, ?_⟩
    · rw [header]
      exact member
    · rw [header, Function.update_self, getBlockPtr, Nat.add_sub_cancel]
      exact List.mem_cons_self
    · rw [header, UInt64.ofNat_toNat]
      change ((heap.setInstance pointer allocator).instances pointer).blockSize = _
      rw [setInstance_self, sameSize, serves]
  · rw [List.map_cons, List.nodup_cons]
    refine ⟨?_, valid.nodup⟩
    intro taken
    obtain ⟨area, inAreas, base⟩ := List.mem_map.mp taken
    refine fresh area inAreas ?_
    rw [base, getBlockPtr, Nat.add_sub_cancel]
  · rw [List.forall_mem_cons]
    refine ⟨⟨_, List.mem_cons_self, rfl⟩, ?_⟩
    intro used inUse
    obtain ⟨area, inAreas, base⟩ := valid.covered pointer member used inUse
    exact ⟨area, List.mem_cons_of_mem _ inAreas, base⟩
  · intro area inAreas _
    exact List.mem_cons_of_mem _ inAreas

theorem xfree {area : Region} (valid : Valid heap regions areas blocks) (member : area ∈ areas) :
    ∃ later, Valid (heap.xfree area.base) regions
      (areas.filter fun other => other.base ≠ area.base) later ∧
      heap.memory.SameOutside ⟨getBlockPtr area.base, wordSize⟩ (heap.xfree area.base).memory := by
  have live := valid.lives area member
  have behind := live.behind
  have nonnull : area.base ≠ 0 := Nat.ne_of_gt (Nat.lt_of_lt_of_le (by decide) behind)
  have keeps := valid.keeps _ live.owner
  have ready := valid.ready _ live.owner
  have released := keeps.deallocate live.used
  have distinct := (List.nodup_append.mp keeps.nodup).2.1
  let pointer := getBlockAllocator area.base heap.memory
  let block := getBlockPtr area.base
  let parts : Blocks :=
    ⟨(blocks pointer).obtained, block :: (blocks pointer).free, (blocks pointer).used.erase block⟩
  have same : heap.memory.SameOutside ⟨block, wordSize⟩
      ((heap.instances pointer).deallocate block heap.memory).2 :=
    Memory.storeWord_sameOutside heap.memory block (heap.instances pointer).head
  have unchanged := @regions_same heap blocks pointer
    ((heap.instances pointer).deallocate block heap.memory).1 parts rfl rfl
  have ledger := valid.ledger
  rw [← unchanged] at ledger
  have stay : ∀ other ∈ areas, getBlockPtr other.base ≠ block →
      other ∈ areas.filter fun other => other.base ≠ area.base := by
    intro other inAreas differ
    refine List.mem_filter.mpr ⟨inAreas, decide_eq_true ?_⟩
    intro equal
    rw [equal] at differ
    exact differ rfl
  rw [xfree_eq nonnull]
  refine ⟨Function.update blocks pointer parts, ?_, same⟩
  refine valid.change live.owner rfl ⟨ready.address, ready.objectSize, ready.maxObjects, ready.allocatorMode⟩ released
    ledger valid.apart (keeps.obtained_of_used live.used) same ?_ ?_ ?_ ?_ stay
  · intro used inUse differ
    exact (List.mem_erase_of_ne differ).mpr inUse
  · intro other inLater
    obtain ⟨inAreas, differ⟩ := List.mem_filter.mp inLater
    exact .inl ⟨inAreas, valid.ptr_ne inAreas member (of_decide_eq_true differ)⟩
  · exact valid.nodup.sublist (List.filter_sublist.map Region.base)
  · intro used inUse
    obtain ⟨differ, wasUsed⟩ := distinct.mem_erase_iff.mp inUse
    obtain ⟨other, inAreas, base⟩ := valid.covered pointer live.owner used wasUsed
    refine ⟨other, stay other inAreas ?_, base⟩
    rw [base, getBlockPtr, Nat.add_sub_cancel]
    exact differ

/-- Only the counters of an allocator have changed. -/
theorem recount {pointer : Nat} {allocator : Allocator} (valid : Valid heap regions areas blocks)
    (member : pointer ∈ heap.allocators) (ready : Ready pointer allocator)
    (sameSize : allocator.blockSize = (heap.instances pointer).blockSize)
    (sameHead : allocator.head = (heap.instances pointer).head) :
    Valid (heap.setInstance pointer allocator) regions areas blocks := by
  have same : ∀ other, ((heap.setInstance pointer allocator).instances other).blockSize =
      (heap.instances other).blockSize := by
    intro other
    by_cases here : other = pointer
    · rw [here, setInstance_self, sameSize]
    · rw [setInstance_of_ne here]
  have ledger := valid.ledger
  have owned : (heap.setInstance pointer allocator).regionsOf blocks = heap.regionsOf blocks := by
    funext other
    refine List.map_congr_left ?_
    intro block _
    rw [Allocator.region, Allocator.region, same]
  rw [← owned] at ledger
  refine ⟨?_, ?_, ?_, ledger, valid.apart, ?_, valid.nodup, valid.covered⟩
  · intro other inTable
    by_cases here : other = pointer
    · subst here
      rw [setInstance_self]
      exact ready
    · rw [setInstance_of_ne here]
      exact valid.ready other inTable
  · simp only [same]
    exact valid.sizes
  · intro other inTable
    by_cases here : other = pointer
    · subst here
      rw [setInstance_self]
      exact (valid.keeps other inTable).same sameSize sameHead
    · rw [setInstance_of_ne here]
      exact valid.keeps other inTable
  · intro area inAreas
    have live := valid.lives area inAreas
    refine ⟨live.behind, live.small, live.owner, live.used, ?_⟩
    rw [same]
    exact live.serves

theorem create {pointer : Nat} {size : UInt64} (valid : Valid heap regions areas blocks)
    (absent : pointer ∉ heap.allocators) (address : pointer < 2 ^ 64)
    (small : size.toNat + wordSize ≤ 2 ^ 63)
    (unserved : ∀ other ∈ heap.allocators,
      (heap.instances other).blockSize ≠ blockSizeFor size) :
    Valid { heap.setInstance pointer (Allocator.create (blockSizeFor size) 0 0 0) with
      allocators := heap.allocators ++ [pointer] } regions areas
        (Function.update blocks pointer ⟨[], [], []⟩) ∧
      (Allocator.create (blockSizeFor size) 0 0 0).blockSize = blockSizeFor size := by
  have blockSize := create_blockSize small
  refine ⟨?_, blockSize⟩
  have other_ne : ∀ other ∈ heap.allocators, other ≠ pointer := by
    rintro other inTable rfl
    exact absent inTable
  constructor
  case ready =>
    intro other inTable
    rcases List.mem_append.mp inTable with old | new
    · simp only [setInstance_of_ne (other_ne other old)]
      exact valid.ready other old
    · cases List.mem_singleton.mp new
      simp only [setInstance_self]
      exact ⟨address, blockSize.symm, rfl, rfl⟩
  case sizes =>
    have older : heap.allocators.map (fun other => ((heap.setInstance pointer
        (Allocator.create (blockSizeFor size) 0 0 0)).instances other).blockSize) =
        heap.allocators.map fun other => (heap.instances other).blockSize := by
      refine List.map_congr_left ?_
      intro other inTable
      rw [setInstance_of_ne (other_ne other inTable)]
    rw [List.map_append, List.map_singleton, older, setInstance_self, blockSize, List.nodup_append]
    refine ⟨valid.sizes, List.nodup_singleton _, ?_⟩
    intro served inSizes added isNew
    obtain ⟨other, inTable, rfl⟩ := List.mem_map.mp inSizes
    rw [List.mem_singleton.mp isNew]
    exact unserved other inTable
  case keeps =>
    intro other inTable
    rcases List.mem_append.mp inTable with old | new
    · simp only [setInstance_of_ne (other_ne other old), Function.update_of_ne (other_ne other old)]
      exact valid.keeps other old
    · cases List.mem_singleton.mp new
      simp only [setInstance_self, Function.update_self]
      exact Allocator.Keeps.create ..
  case ledger =>
    have older : heap.allocators.flatMap ((heap.setInstance pointer
        (Allocator.create (blockSizeFor size) 0 0 0)).regionsOf
          (Function.update blocks pointer ⟨[], [], []⟩)) =
        heap.allocators.flatMap (heap.regionsOf blocks) := by
      refine List.flatMap_congr ?_
      intro other inTable
      exact regionsOf_other (other_ne other inTable)
    have nothing : (heap.setInstance pointer (Allocator.create (blockSizeFor size) 0 0 0)).regionsOf
        (Function.update blocks pointer ⟨[], [], []⟩) pointer = [] := by
      rw [regionsOf, Function.update_self, List.map_nil]
    have ledger := valid.ledger
    rw [← older, ← List.append_nil (List.flatMap _ _), ← nothing] at ledger
    rw [List.flatMap_append, List.flatMap_singleton]
    exact ledger
  case apart => exact valid.apart
  case lives =>
    intro area inAreas
    have live := valid.lives area inAreas
    have differ := other_ne _ live.owner
    refine ⟨live.behind, live.small, List.mem_append_left _ live.owner, ?_, ?_⟩
    · simp only [setInstance_memory, Function.update_of_ne differ]
      exact live.used
    · simp only [setInstance_memory, setInstance_of_ne differ]
      exact live.serves
  case nodup => exact valid.nodup
  case covered =>
    intro other inTable used
    rcases List.mem_append.mp inTable with old | new
    · rw [Function.update_of_ne (other_ne other old)]
      exact valid.covered other old used
    · cases List.mem_singleton.mp new
      rw [Function.update_self]
      intro inUse
      cases inUse

end Valid

/-- What `operator new` returns is nowhere in use. -/
structure Fresh (heap : Xallocator) (regions : List Region) (size : UInt64) (answers : Answers) :
    Prop where
  allocator : ∀ pointer, answers.allocator = some pointer →
    pointer ∉ heap.allocators ∧ pointer < 2 ^ 64
  block : ∀ block, answers.block = some block → block ≠ 0 ∧
    block + (blockSizeFor size).toNat ≤ 2 ^ 64 ∧
    ∀ region ∈ regions, Region.Apart ⟨block, (blockSizeFor size).toNat⟩ region

instance {heap : Xallocator} {regions : List Region} {size : UInt64} {answers : Answers} :
    Decidable (heap.Fresh regions size answers) :=
  decidable_of_iff
    ((∀ pointer ∈ answers.allocator, pointer ∉ heap.allocators ∧ pointer < 2 ^ 64) ∧
      ∀ block ∈ answers.block, block ≠ 0 ∧ block + (blockSizeFor size).toNat ≤ 2 ^ 64 ∧
        ∀ region ∈ regions, Region.Apart ⟨block, (blockSizeFor size).toNat⟩ region)
    ⟨fun fresh => ⟨fresh.1, fresh.2⟩, fun fresh => ⟨fresh.allocator, fresh.block⟩⟩

/-- What `xmalloc` leaves behind. -/
inductive Handed (heap : Xallocator) (regions areas : List Region) (size : UInt64) (reply : Reply) :
    Prop where
  | returned (block : Nat) (later : Nat → Blocks)
      (outcome : reply.outcome = .returned (block + wordSize))
      (valid : Valid reply.state (reply.obtained ++ regions)
        (⟨block + wordSize, size.toNat⟩ :: areas) later)
      (same : heap.memory.SameOutside ⟨block, wordSize⟩ reply.state.memory)
      (grown : reply.obtained = [] ∨ reply.obtained = [⟨block, (blockSizeFor size).toNat⟩] ∧
        ∃ pointer ∈ reply.state.allocators, (later pointer).free = [] ∧
          (reply.state.instances pointer).blockSize = blockSizeFor size)
  | thrown (later : Nat → Blocks) (outcome : reply.outcome = .thrown)
      (obtained : reply.obtained = []) (valid : Valid reply.state regions areas later)
      (same : reply.state.memory = heap.memory)

namespace Valid

theorem getAllocator {size : UInt64} {answers : Answers} {found : Outcome Nat × Xallocator}
    (valid : Valid heap regions areas blocks) (small : size.toNat + wordSize ≤ 2 ^ 63)
    (fresh : Fresh heap regions size answers)
    (ran : heap.xallocatorGetAllocator size answers.allocator = some found) :
    found.2.memory = heap.memory ∧ ∃ later, Valid found.2 regions areas later ∧
      ∀ pointer, found.1 = .returned pointer → pointer ∈ found.2.allocators ∧
        (found.2.instances pointer).blockSize = blockSizeFor size := by
  rcases getAllocator_cases ran with existing | ⟨unserved, thrown | created⟩
  · obtain ⟨pointer, inTable, serves, rfl⟩ := existing
    refine ⟨rfl, blocks, valid, ?_⟩
    intro other returned
    cases returned
    exact ⟨inTable, serves⟩
  · obtain ⟨-, rfl⟩ := thrown
    refine ⟨rfl, blocks, valid, ?_⟩
    intro other returned
    cases returned
  · obtain ⟨pointer, answered, -, rfl⟩ := created
    obtain ⟨absent, address⟩ := fresh.allocator pointer answered
    obtain ⟨later, blockSize⟩ := valid.create absent address small unserved
    refine ⟨rfl, _, later, ?_⟩
    intro other returned
    cases returned
    refine ⟨List.mem_append_right _ (List.mem_singleton.mpr rfl), ?_⟩
    simp only [setInstance_self]
    exact blockSize

theorem allocate {pointer : Nat} {size : UInt64} {answers : Answers}
    {allocation : Allocator.Allocation} (valid : Valid heap regions areas blocks)
    (member : pointer ∈ heap.allocators)
    (serves : (heap.instances pointer).blockSize = blockSizeFor size)
    (small : size.toNat + wordSize ≤ 2 ^ 63)
    (fresh : ∀ block, answers.block = some block → block ≠ 0 ∧
      block + (blockSizeFor size).toNat ≤ 2 ^ 64 ∧
      ∀ region ∈ regions, Region.Apart ⟨block, (blockSizeFor size).toNat⟩ region)
    (ran : (heap.instances pointer).allocate (sizeofPointer + size) false answers.block
      heap.memory = some allocation) :
    (∃ block, allocation.outcome = .returned block ∧ ∃ later,
      Valid { heap.setInstance pointer allocation.allocator with
        memory := heap.memory.storeWord block pointer } (allocation.obtained ++ regions)
        (⟨block + wordSize, size.toNat⟩ :: areas) later ∧ (allocation.obtained = [] ∨
          allocation.obtained = [(heap.instances pointer).region block] ∧
            (later pointer).free = [])) ∨
    (allocation.outcome = .thrown ∧ allocation.obtained = [] ∧
      Valid (heap.setInstance pointer allocation.allocator) regions areas blocks) := by
  have keeps := valid.keeps pointer member
  have ready := valid.ready pointer member
  obtain ⟨-, head | pool | exhausted | thrown | grown⟩ := Allocator.allocate_cases ran
  · obtain ⟨present, rfl⟩ := head
    obtain ⟨rest, -, popped⟩ := keeps.pop present
    let allocator := { heap.instances pointer with
      head := heap.memory.loadWord (heap.instances pointer).head }.counted
    let parts : Blocks := ⟨(blocks pointer).obtained, rest,
      (heap.instances pointer).head :: (blocks pointer).used⟩
    have ledger := valid.ledger
    rw [← @regions_same heap blocks pointer allocator parts rfl rfl] at ledger
    have sameSize : allocator.blockSize = (heap.instances pointer).blockSize := rfl
    have still : Ready pointer allocator :=
      ⟨ready.address, ready.objectSize, ready.maxObjects, ready.allocatorMode⟩
    have handed := valid.hand member serves small sameSize still popped ledger valid.apart
    exact .inl ⟨_, rfl, _, handed, .inl rfl⟩
  · exact absurd ready.maxObjects pool.2.1
  · exact absurd ready.maxObjects exhausted.2.1
  · obtain ⟨-, -, -, rfl⟩ := thrown
    refine .inr ⟨rfl, rfl, ?_⟩
    exact valid.recount member ⟨ready.address, ready.objectSize, ready.maxObjects, ready.allocatorMode⟩ rfl rfl
  · obtain ⟨empty, -, block, answered, rfl⟩ := grown
    obtain ⟨nonnull, fits, unused⟩ := fresh block answered
    rw [← serves] at fits unused
    let allocator := { heap.instances pointer with
      blockCnt := (heap.instances pointer).blockCnt + 1 }.counted
    let parts : Blocks := ⟨block :: (blocks pointer).obtained, [],
      block :: (blocks pointer).used⟩
    have sameSize : allocator.blockSize = (heap.instances pointer).blockSize := rfl
    have away : ∀ other ∈ (blocks pointer).obtained,
        ((heap.instances pointer).region block).Apart ((heap.instances pointer).region other) := by
      intro other isObtained
      refine unused _ (valid.ledger.mem_iff.mpr ?_)
      exact List.mem_flatMap.mpr ⟨pointer, member, List.mem_map_of_mem isObtained⟩
    have larger := (keeps.grow empty sameSize rfl away ⟨nonnull, fits⟩).2
    have ledger : ((heap.instances pointer).region block :: regions).Perm
        (heap.allocators.flatMap ((heap.setInstance pointer allocator).regionsOf
          (Function.update blocks pointer parts))) := by
      refine (valid.ledger.cons _).trans (List.Perm.symm ?_)
      refine flatMap_perm_cons valid.allocators_nodup member ?_ ?_
      · rw [regionsOf_self sameSize, List.map_cons, regionsOf]
      · intro other _ differ
        exact regionsOf_other differ
    have apart := List.pairwise_cons.mpr ⟨unused, valid.apart⟩
    have still : Ready pointer allocator :=
      ⟨ready.address, ready.objectSize, ready.maxObjects, ready.allocatorMode⟩
    have handed := valid.hand member serves small sameSize still larger ledger apart
    have spent : (Function.update blocks pointer parts pointer).free = [] := by
      rw [Function.update_self]
    exact .inl ⟨_, rfl, _, handed, .inr ⟨rfl, spent⟩⟩

theorem xmalloc {size : UInt64} {answers : Answers} {reply : Reply}
    (valid : Valid heap regions areas blocks) (small : size.toNat + wordSize ≤ 2 ^ 63)
    (fresh : Fresh heap regions size answers) (ran : heap.xmalloc size answers = some reply) :
    Handed heap regions areas size reply := by
  obtain ⟨found, get, result⟩ := xmalloc_cases ran
  obtain ⟨memory, later, served, here⟩ := valid.getAllocator small fresh get
  rcases result with thrown | allocated
  · obtain ⟨-, rfl⟩ := thrown
    exact .thrown later rfl rfl served memory
  · obtain ⟨pointer, allocation, outcome, allocate, result⟩ := allocated
    obtain ⟨member, serves⟩ := here pointer outcome
    rcases served.allocate member serves small fresh.block allocate with block | thrown
    · obtain ⟨block, returned, handed, after, grown⟩ := block
      rcases result with thrown | given
      · rw [returned] at thrown
        cases thrown.1
      · obtain ⟨other, otherReturned, rfl⟩ := given
        rw [returned] at otherReturned
        cases otherReturned
        refine .returned block handed rfl after ?_ ?_
        · rw [← memory]
          exact Memory.storeWord_sameOutside found.2.memory block pointer
        · rcases grown with nothing | ⟨one, spent⟩
          · exact .inl nothing
          · rw [Allocator.region, serves] at one
            refine .inr ⟨one, pointer, member, spent, ?_⟩
            simp only [setInstance_self]
            exact (allocation_blockSize allocate).trans serves
    · obtain ⟨threw, none, after⟩ := thrown
      rcases result with thrown | given
      · obtain ⟨-, rfl⟩ := thrown
        exact .thrown later rfl none after memory
      · obtain ⟨block, returned, -⟩ := given
        rw [threw] at returned
        cases returned

/-- A request that no block size serves is not served: the assertion traps it. -/
theorem xmalloc_large {size : UInt64} {answers : Answers} {reply : Reply}
    (valid : Valid heap regions areas blocks) (large : 2 ^ 63 < size.toNat + wordSize)
    (small : size.toNat + wordSize < 2 ^ 64) (ran : heap.xmalloc size answers = some reply) :
    reply = ⟨.thrown, heap, []⟩ := by
  have none := blockSizeFor_large large small
  obtain ⟨found, get, result⟩ := xmalloc_cases ran
  rcases getAllocator_cases get with existing | ⟨-, thrown | created⟩
  · obtain ⟨pointer, inTable, serves, -⟩ := existing
    have room := (valid.keeps pointer inTable).room
    rw [serves, none] at room
    exact absurd room (by decide)
  · obtain ⟨-, rfl⟩ := thrown
    rcases result with thrown | allocated
    · exact thrown.2
    · obtain ⟨pointer, allocation, returned, -⟩ := allocated
      cases returned
  · obtain ⟨pointer, -, -, rfl⟩ := created
    rcases result with thrown | allocated
    · cases thrown.1
    · obtain ⟨other, allocation, returned, allocate, -⟩ := allocated
      cases returned
      have fits := (Allocator.allocate_cases allocate).1
      simp only [setInstance_self] at fits
      have objectSize : (Allocator.create (blockSizeFor size) 0 0 0).objectSize =
          blockSizeFor size := rfl
      rw [objectSize, none] at fits
      have least := UInt64.le_iff_toNat_le.mp fits
      have whole := add_header small
      rw [UInt64.add_comm, whole] at least
      exact absurd least (by simp)

/-- The client writes to its areas. -/
theorem write {memory : Memory} {area written : Region} (valid : Valid heap regions areas blocks)
    (member : area ∈ areas) (inside : written.Inside area)
    (same : heap.memory.SameOutside written memory) :
    Valid { heap with memory := memory } regions areas blocks where
  ready := valid.ready
  sizes := valid.sizes
  keeps := by
    intro pointer inTable
    refine (valid.keeps pointer inTable).frame (same.widen inside) ?_
    intro free isFree
    have live := valid.lives area member
    have own := valid.area_inside member
    have ofFree := (valid.keeps pointer inTable).obtained_of_free isFree
    have differ : pointer = getBlockAllocator area.base heap.memory →
        free ≠ getBlockPtr area.base := by
      rintro rfl
      exact (valid.keeps _ live.owner).free_ne_used isFree live.used
    have both := valid.blocks_apart inTable live.owner ofFree (valid.owner_obtained member) differ
    exact (both.symm.inside own).symm
  ledger := valid.ledger
  apart := valid.apart
  lives := by
    intro other inAreas
    have live := valid.lives other inAreas
    have header : area.Apart ⟨getBlockPtr other.base, wordSize⟩ := by
      by_cases here : area.base = other.base
      · have ends : getBlockPtr other.base + wordSize = other.base :=
          Nat.sub_add_cancel live.behind
        exact .inr (Nat.le_of_eq (ends.trans here.symm))
      · exact valid.header_apart member inAreas here
    have untouched : getBlockAllocator other.base memory =
        getBlockAllocator other.base heap.memory :=
      same.loadWord (header.inside inside)
    refine ⟨live.behind, live.small, ?_, ?_, ?_⟩
    · rw [untouched]
      exact live.owner
    · rw [untouched]
      exact live.used
    · rw [untouched]
      exact live.serves
  nodup := valid.nodup
  covered := valid.covered

end Valid

end

end Xallocator

end ToySystem.Heap
