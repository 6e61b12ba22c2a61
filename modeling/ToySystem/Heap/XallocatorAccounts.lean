import Mathlib.Data.List.Flatten
import ToySystem.Heap.XallocatorClient

namespace ToySystem.Heap

open ToySystem.Data

/-! # The accounts of the xallocator

How many blocks of a size it gets from `operator new`, and which of them
`xalloc_destroy` gives back.
-/

/-- The block under an area. -/
def blockOf (area : Region) : Region :=
  ⟨Xallocator.getBlockPtr area.base, (blockSizeFor (UInt64.ofNat area.size)).toNat⟩

namespace Xallocator

/-- The loop over `_allocators`: the blocks that it gives back. -/
def destroyAll (rounds : Nat) (heap : Xallocator) : List Nat → Option (List Region)
  | [] => some []
  | pointer :: rest =>
      let allocator := heap.instances pointer
      (allocator.destroy rounds heap.memory).bind fun blocks =>
        (destroyAll rounds heap rest).map fun later => blocks.map allocator.region ++ later

/-- Each destructor loops so many rounds at most. -/
def xallocDestroy (rounds : Nat) (heap : Xallocator) : Option (List Region) :=
  heap.destroyAll rounds heap.allocators

section

variable {heap : Xallocator} {regions areas : List Region} {blocks : Nat → Blocks}

/-- The areas of an allocator. -/
def areasOf (heap : Xallocator) (areas : List Region) (pointer : Nat) : List Region :=
  areas.filter fun area => getBlockAllocator area.base heap.memory = pointer

theorem Valid.used_perm (valid : Valid heap regions areas blocks) {pointer : Nat}
    (member : pointer ∈ heap.allocators) :
    ((heap.areasOf areas pointer).map fun area => getBlockPtr area.base).Perm
      (blocks pointer).used := by
  have keeps := valid.keeps pointer member
  have distinct : ((heap.areasOf areas pointer).map fun area => getBlockPtr area.base).Nodup := by
    refine List.Nodup.map_on ?_ ((List.Nodup.of_map _ valid.nodup).filter _)
    intro first inFirst second inSecond same
    by_contra differ
    have firstArea := (List.mem_filter.mp inFirst).1
    have secondArea := (List.mem_filter.mp inSecond).1
    refine valid.ptr_ne firstArea secondArea ?_ same
    intro base
    exact differ (List.inj_on_of_nodup_map valid.nodup firstArea secondArea base)
  refine (List.perm_ext_iff_of_nodup distinct (List.nodup_append.mp keeps.nodup).2.1).mpr ?_
  intro block
  constructor
  · intro inAreas
    obtain ⟨area, isOf, rfl⟩ := List.mem_map.mp inAreas
    obtain ⟨isArea, owner⟩ := List.mem_filter.mp isOf
    rw [← of_decide_eq_true owner]
    exact (valid.lives area isArea).used
  · intro inUse
    obtain ⟨area, isArea, base⟩ := valid.covered pointer member block inUse
    have here : getBlockPtr area.base = block := by
      rw [base, getBlockPtr, Nat.add_sub_cancel]
    refine List.mem_map.mpr ⟨area, List.mem_filter.mpr ⟨isArea, decide_eq_true ?_⟩, here⟩
    by_contra differ
    have live := valid.lives area isArea
    have own := valid.keeps _ live.owner
    have foreign := valid.blocks_apart live.owner member (valid.owner_obtained isArea)
      (keeps.obtained_of_used inUse) fun same => absurd same differ
    exact foreign.base_ne (Nat.lt_of_lt_of_le (by decide) own.room)
      (Nat.lt_of_lt_of_le (by decide) keeps.room) here

/-- All blocks from `operator new` are free, or under an area. -/
theorem Valid.blocks_perm (valid : Valid heap regions areas blocks) :
    regions.Perm ((heap.allocators.flatMap fun pointer =>
      (blocks pointer).free.map (heap.instances pointer).region) ++ areas.map blockOf) := by
  have parts : ∀ pointer ∈ heap.allocators, (heap.regionsOf blocks pointer).Perm
      ((blocks pointer).free.map (heap.instances pointer).region ++
        (heap.areasOf areas pointer).map blockOf) := by
    intro pointer member
    have keeps := valid.keeps pointer member
    have under : (heap.areasOf areas pointer).map blockOf =
        ((heap.areasOf areas pointer).map fun area => getBlockPtr area.base).map
          (heap.instances pointer).region := by
      rw [List.map_map]
      refine List.map_congr_left ?_
      intro area isOf
      obtain ⟨isArea, owner⟩ := List.mem_filter.mp isOf
      have serves := (valid.lives area isArea).serves
      rw [of_decide_eq_true owner] at serves
      rw [blockOf, ← serves]
      rfl
    rw [under, regionsOf]
    have split := keeps.parts.symm.map (heap.instances pointer).region
    rw [List.map_append] at split
    exact split.trans (((valid.used_perm member).symm.map _).append_left _)
  have all := valid.ledger.trans (List.Perm.flatMap_left heap.allocators parts)
  refine all.trans ((List.flatMap_append_perm heap.allocators _ _).symm.trans ?_)
  refine List.Perm.append_left _ ?_
  rw [← List.map_flatMap]
  refine List.Perm.map blockOf (sorted_perm valid.allocators_nodup ?_)
  intro area isArea
  exact (valid.lives area isArea).owner

theorem Valid.regions_nodup (valid : Valid heap regions areas blocks) : regions.Nodup := by
  refine List.Pairwise.imp_of_mem ?_ valid.apart
  intro first second inFirst _ apart same
  subst same
  obtain ⟨pointer, member, isOf⟩ := List.mem_flatMap.mp (valid.ledger.mem_iff.mp inFirst)
  obtain ⟨block, isObtained, rfl⟩ := List.mem_map.mp isOf
  have positive : 0 < (heap.instances pointer).blockSize.toNat :=
    Nat.lt_of_lt_of_le (by decide) (valid.keeps pointer member).room
  exact apart.base_ne positive positive rfl

theorem Valid.destroyAll (valid : Valid heap regions areas blocks) {rounds : Nat}
    {pointers : List Nat} (among : pointers ⊆ heap.allocators)
    (enough : ∀ pointer ∈ pointers, (blocks pointer).free.length ≤ rounds) :
    heap.destroyAll rounds pointers = some (pointers.flatMap fun pointer =>
      (blocks pointer).free.map (heap.instances pointer).region) := by
  induction pointers with
  | nil => rfl
  | cons pointer rest ih =>
      rw [List.cons_subset] at among
      rw [List.forall_mem_cons] at enough
      have keeps := valid.keeps pointer among.1
      have deleted : (heap.instances pointer).destroy rounds heap.memory =
          some (blocks pointer).free := by
        rw [Allocator.destroy, (valid.ready pointer among.1).allocatorMode]
        exact keeps.deleteBlocks enough.1
      rw [Xallocator.destroyAll, deleted, ih among.2 enough.2]
      rfl

/-- `xalloc_destroy` gives back each block once, but for those under the areas that the
client still has. -/
theorem Valid.xallocDestroy (valid : Valid heap regions areas blocks) {rounds : Nat}
    (enough : regions.length ≤ rounds) : ∃ deleted, heap.xallocDestroy rounds = some deleted ∧
      regions.Perm (deleted ++ areas.map blockOf) := by
  refine ⟨_, valid.destroyAll (List.Subset.refl _) ?_, valid.blocks_perm⟩
  intro pointer member
  refine Nat.le_trans ?_ enough
  have lengths := valid.ledger.length_eq
  have free := (valid.keeps pointer member).parts.length_eq
  have one : (heap.regionsOf blocks pointer).length ≤
      (heap.allocators.flatMap (heap.regionsOf blocks)).length := by
    rw [List.flatMap_def]
    exact (List.sublist_flatten_of_mem (List.mem_map_of_mem member)).length_le
  rw [regionsOf, List.length_map] at one
  rw [List.length_append] at free
  omega

/-- The blocks of a size. -/
def blocksOf (blockSize : UInt64) (regions : List Region) : Nat :=
  regions.countP fun region => region.size = blockSize.toNat

/-- The areas that are in blocks of a size. -/
def areasIn (blockSize : UInt64) (areas : List Region) : Nat :=
  areas.countP fun area => blockSizeFor (UInt64.ofNat area.size) = blockSize

theorem blockOf_count (blockSize : UInt64) (areas : List Region) :
    blocksOf blockSize (areas.map blockOf) = areasIn blockSize areas := by
  rw [blocksOf, areasIn, List.countP_map]
  refine List.countP_congr ?_
  intro area _
  simp only [Function.comp, blockOf, decide_eq_true_eq, UInt64.toNat_inj]

theorem areasIn_cons (blockSize size : UInt64) (pointer : Nat) (areas : List Region) :
    areasIn blockSize (⟨pointer, size.toNat⟩ :: areas) =
      areasIn blockSize areas + if blockSizeFor size = blockSize then 1 else 0 := by
  rw [areasIn, List.countP_cons, areasIn]
  simp only [UInt64.ofNat_toNat, decide_eq_true_eq]

theorem blocksOf_cons (blockSize size : UInt64) (block : Nat) (regions : List Region) :
    blocksOf blockSize (⟨block, size.toNat⟩ :: regions) =
      blocksOf blockSize regions + if size = blockSize then 1 else 0 := by
  rw [blocksOf, List.countP_cons, blocksOf]
  simp only [UInt64.toNat_inj, decide_eq_true_eq]

/-- The free blocks of a size. -/
def spare (blockSize : UInt64) (heap : Xallocator) (blocks : Nat → Blocks) : Nat :=
  blocksOf blockSize (heap.allocators.flatMap fun pointer =>
    (blocks pointer).free.map (heap.instances pointer).region)

theorem Valid.blocks_count (valid : Valid heap regions areas blocks) (blockSize : UInt64) :
    blocksOf blockSize regions = spare blockSize heap blocks + areasIn blockSize areas := by
  rw [blocksOf, valid.blocks_perm.countP_eq, List.countP_append]
  exact congrArg (spare blockSize heap blocks + ·) (blockOf_count blockSize areas)

/-- An allocator whose free list is empty leaves no block of its size to spare. -/
theorem Valid.spare_none (valid : Valid heap regions areas blocks) {pointer : Nat}
    (member : pointer ∈ heap.allocators) (spent : (blocks pointer).free = []) :
    spare (heap.instances pointer).blockSize heap blocks = 0 := by
  rw [spare, blocksOf, List.countP_eq_zero]
  intro region isFree
  obtain ⟨other, inTable, isOf⟩ := List.mem_flatMap.mp isFree
  obtain ⟨block, free, rfl⟩ := List.mem_map.mp isOf
  rw [decide_eq_true_eq]
  intro same
  have equal := valid.size_inj inTable member (UInt64.toNat_inj.mp same)
  subst equal
  rw [spent] at free
  cases free

end

end Xallocator

namespace Session

/-- The blocks of a size that came from `operator new`. -/
def blocksOf (blockSize : UInt64) (session : Session) : Nat :=
  Xallocator.blocksOf blockSize session.regions

/-- The objects that the program has in such blocks. -/
def live (blockSize : UInt64) (session : Session) : Nat :=
  Xallocator.areasIn blockSize (session.objects.map Object.region)

/-- The size of the object that a call makes, if it makes one. -/
def made (size : UInt64) (reply : Xallocator.Reply) : Option UInt64 :=
  match reply.outcome with
  | .returned _ => some size
  | .thrown => none

def makes (session : Session) : Call → Option UInt64
  | .xmalloc size answers => (session.heap.xmalloc size answers).bind (made size)
  | .xrealloc pointer size answers =>
      if pointer ≠ 0 ∧ size = 0 then none
      else (session.heap.xmalloc size answers).bind (made size)
  | .xfree _ | .write .. => none

/-- The blocks of a size in use at once: those before the call, and that of the object it
makes.  `xrealloc` has the old and the new object for a while. -/
def demand (blockSize : UInt64) (transition : Transition Session Call) : Nat :=
  transition.before.live blockSize +
    if (transition.before.makes transition.event).map blockSizeFor = some blockSize then 1 else 0

section

variable {heap : Xallocator} {regions : List Region} {objects : List Object}
  (blockSize : UInt64)

theorem live_le (agrees : Agrees heap regions objects) :
    Xallocator.areasIn blockSize (objects.map Object.region) ≤
      Xallocator.blocksOf blockSize regions := by
  obtain ⟨⟨blocks, valid⟩, -⟩ := agrees
  rw [valid.blocks_count]
  exact Nat.le_add_left _ _

theorem xmalloc_level {size : UInt64} {answers : Answers} {reply : Xallocator.Reply}
    (agrees : Agrees heap regions objects) (small : size.toNat + wordSize < 2 ^ 64)
    (fresh : heap.Fresh regions size answers) (ran : heap.xmalloc size answers = some reply) :
    Xallocator.blocksOf blockSize (reply.obtained ++ regions) =
      max (Xallocator.blocksOf blockSize regions)
        (Xallocator.areasIn blockSize (objects.map Object.region) +
          if (made size reply).map blockSizeFor = some blockSize then 1 else 0) := by
  have level := live_le blockSize agrees
  obtain ⟨⟨blocks, valid⟩, -⟩ := agrees
  by_cases large : 2 ^ 63 < size.toNat + wordSize
  · rw [valid.xmalloc_large large small ran]
    simp only [made, Option.map_none, List.nil_append, reduceCtorEq, if_false]
    omega
  · cases valid.xmalloc (Nat.le_of_not_lt large) fresh ran with
    | thrown later outcome obtained after same =>
        simp only [made, outcome, obtained, Option.map_none, List.nil_append, reduceCtorEq,
          if_false]
        omega
    | returned block later outcome after same grown =>
        have counts := after.blocks_count blockSize
        rw [Xallocator.areasIn_cons] at counts
        simp only [made, outcome, Option.map_some, Option.some.injEq]
        rcases grown with nothing | ⟨one, pointer, member, spent, serves⟩
        · rw [nothing, List.nil_append] at counts ⊢
          omega
        · rw [one, List.singleton_append, Xallocator.blocksOf_cons] at counts ⊢
          by_cases here : blockSizeFor size = blockSize
          · have none := after.spare_none member spent
            rw [serves, here] at none
            rw [none] at counts
            omega
          · simp only [here, if_false] at counts ⊢
            omega

/-- `xrealloc` takes its blocks from `xmalloc`. -/
theorem xrealloc_obtained {pointer : Nat} {size : UInt64} {answers : Answers}
    {reply : Xallocator.Reply} (asks : ¬ (pointer ≠ 0 ∧ size = 0))
    (ran : heap.xrealloc pointer size answers = some reply) :
    ∃ given, heap.xmalloc size answers = some given ∧ given.obtained = reply.obtained := by
  unfold Xallocator.xrealloc at ran
  split at ran
  · exact ⟨reply, ran, rfl⟩
  · rename_i present
    split at ran
    · rename_i zero
      exact absurd ⟨present, zero⟩ asks
    · obtain ⟨given, malloc, rfl⟩ := Option.map_eq_some_iff.mp ran
      refine ⟨given, malloc, ?_⟩
      cases given.outcome with
      | thrown => rfl
      | returned newMem =>
          simp only
          split
          · rfl
          · rfl

theorem step_level {session after : Session} {call : Call}
    (agrees : Agrees session.heap session.regions session.objects)
    (allowed : session.Allowed call) (stepped : session.step call = some after) :
    after.blocksOf blockSize =
      max (session.blocksOf blockSize) (demand blockSize ⟨session, call, after⟩) := by
  have level := live_le blockSize agrees
  cases call with
  | xmalloc size answers =>
      obtain ⟨reply, ran, rfl⟩ := Option.map_eq_some_iff.mp stepped
      simp only [demand, makes, ran, Option.bind_some]
      exact xmalloc_level blockSize agrees allowed.1 allowed.2 ran
  | xfree pointer =>
      cases stepped
      simp only [demand, makes, Option.map_none, reduceCtorEq, if_false]
      exact (Nat.max_eq_left level).symm
  | write pointer offset bytes =>
      cases stepped
      simp only [demand, makes, Option.map_none, reduceCtorEq, if_false]
      exact (Nat.max_eq_left level).symm
  | xrealloc pointer size answers =>
      obtain ⟨reply, ran, rfl⟩ := Option.map_eq_some_iff.mp stepped
      obtain ⟨-, small, fresh⟩ := allowed
      simp only [demand, makes]
      by_cases frees : pointer ≠ 0 ∧ size = 0
      · rw [Xallocator.xrealloc, if_neg frees.1, if_pos frees.2] at ran
        cases ran
        simp only [if_pos frees, Option.map_none, reduceCtorEq, if_false]
        exact (Nat.max_eq_left level).symm
      · obtain ⟨given, malloc, same⟩ := xrealloc_obtained frees ran
        simp only [if_neg frees, malloc, Option.bind_some]
        have raised := xmalloc_level blockSize agrees small fresh malloc
        rw [same] at raised
        exact raised

/-- The high-water mark: the blocks of a size that came from `operator new` are as many
as were ever in use at once. -/
theorem blocks_peak {instances : Nat → Allocator} {memory : Memory} {calls : List Call}
    {final : Session} (ran : run step (start instances memory) calls = some final)
    (allowed : ∀ transition ∈ path step (start instances memory) calls,
      transition.before.Allowed transition.event) :
    final.blocksOf blockSize =
      ((path step (start instances memory) calls).map (demand blockSize)).foldl max 0 := by
  refine @run_peak _ _ step (fun session => Agrees session.heap session.regions session.objects)
    Allowed (blocksOf blockSize) (demand blockSize) (start instances memory) final calls
    (Agrees.start instances memory) ?_ allowed ran
  intro before call after agrees permitted stepped
  exact ⟨agrees.step permitted stepped, step_level blockSize agrees permitted stepped⟩

/-- What the program still has when `xalloc_destroy` is called is what is leaked. -/
theorem destroy_accounts {instances : Nat → Allocator} {memory : Memory} {calls : List Call}
    {final : Session} (ran : run step (start instances memory) calls = some final)
    (allowed : ∀ transition ∈ path step (start instances memory) calls,
      transition.before.Allowed transition.event) {rounds : Nat}
    (enough : final.regions.length ≤ rounds) :
    ∃ deleted, final.heap.xallocDestroy rounds = some deleted ∧ final.regions.Nodup ∧
      final.regions.Perm
        (deleted ++ final.objects.map fun object => blockOf object.region) := by
  obtain ⟨⟨blocks, valid⟩, -⟩ := agrees_visited allowed final (run_mem_visited ran)
  obtain ⟨deleted, destroyed, parts⟩ := valid.xallocDestroy enough
  rw [List.map_map] at parts
  exact ⟨deleted, destroyed, valid.regions_nodup, parts⟩

/-- The second object took the block that the first one left. -/
theorem sampleCalls_peak : ∃ final, run step emptySession sampleCalls = some final ∧
    final.blocksOf 32 = 1 := by
  obtain ⟨final, ran⟩ := Option.isSome_iff_exists.mp sampleCalls_run
  refine ⟨final, ran, ?_⟩
  rw [blocks_peak 32 ran sampleCalls_allowed]
  decide +kernel

/-- One block is given back, and the one of the object that grew is leaked. -/
theorem sampleCalls_leak : ∃ final deleted, run step emptySession sampleCalls = some final ∧
    final.heap.xallocDestroy final.regions.length = some deleted ∧ deleted.length = 1 ∧
    final.regions.Perm
      (deleted ++ final.objects.map fun object => blockOf object.region) := by
  obtain ⟨final, ran, sizes⟩ := Option.any_eq_true
    (fun final : Session => final.regions.length == 2 && final.objects.length == 1) _ |>.mp (show
    (run step emptySession sampleCalls).any _ = true by decide +kernel)
  rw [Bool.and_eq_true, beq_iff_eq, beq_iff_eq] at sizes
  obtain ⟨deleted, destroyed, -, parts⟩ := destroy_accounts ran sampleCalls_allowed (Nat.le_refl _)
  have count := parts.length_eq
  rw [List.length_append, List.length_map, sizes.1, sizes.2] at count
  exact ⟨final, deleted, ran, destroyed, by omega, parts⟩

end

end Session

end ToySystem.Heap
