import ToySystem.Data.Run
import ToySystem.Heap.XallocatorHeap

namespace ToySystem.Heap

open ToySystem.Data

/-! # A client of the xallocator

A program that calls `xmalloc`, `xfree` and `xrealloc` and writes to what it got, and
beside the state of the xallocator the objects that the program has by the rules of the
C standard.
-/

structure Session where
  heap : Xallocator
  /-- The blocks from `operator new`. -/
  regions : List Region
  objects : List Object

namespace Session

inductive Call where
  | xmalloc (size : UInt64) (answers : Answers)
  | xfree (pointer : Nat)
  | xrealloc (pointer : Nat) (size : UInt64) (answers : Answers)
  | write (pointer offset : Nat) (bytes : List UInt8)

def without (pointer : Nat) (objects : List Object) : List Object :=
  objects.filter fun object => object.pointer ≠ pointer

def allocated (size : UInt64) (objects : List Object) : Outcome Nat → List Object
  | .returned pointer => if pointer = 0 then objects else .fresh pointer size.toNat :: objects
  | .thrown => objects

/-- With a size of 0 the object is freed. -/
def reallocated (pointer : Nat) (size : UInt64) (objects : List Object) (outcome : Outcome Nat) :
    List Object :=
  if pointer = 0 then allocated size objects outcome
  else if size = 0 then without pointer objects
  else
    match outcome with
    | .thrown => objects
    | .returned fresh =>
        if fresh = 0 then objects
        else
          match objects.find? fun object => object.pointer = pointer with
          | none => objects
          | some object => .resized fresh size.toNat object :: without pointer objects

def written (pointer offset : Nat) (bytes : List UInt8) (objects : List Object) : List Object :=
  objects.map fun object =>
    if object.pointer = pointer then object.written offset bytes else object

/-- `none` is the trap of a failed assertion. -/
def step (session : Session) : Call → Option Session
  | .xmalloc size answers =>
      (session.heap.xmalloc size answers).map fun reply =>
        ⟨reply.state, reply.obtained ++ session.regions,
          allocated size session.objects reply.outcome⟩
  | .xfree pointer =>
      some ⟨session.heap.xfree pointer, session.regions, without pointer session.objects⟩
  | .xrealloc pointer size answers =>
      (session.heap.xrealloc pointer size answers).map fun reply =>
        ⟨reply.state, reply.obtained ++ session.regions,
          reallocated pointer size session.objects reply.outcome⟩
  | .write pointer offset bytes =>
      some ⟨{ session.heap with memory := session.heap.memory.store (pointer + offset) bytes },
        session.regions, written pointer offset bytes session.objects⟩

/-- Before the first call. -/
def start (instances : Nat → Allocator) (memory : Memory) : Session := ⟨⟨[], instances, memory⟩, [], []⟩

/-- The rules of the client and of `operator new`.  The sum of a request and the header
is one of `size_t`, too. -/
def Allowed (session : Session) : Call → Prop
  | .xmalloc size answers => size.toNat + wordSize < 2 ^ 64 ∧
      session.heap.Fresh session.regions size answers
  | .xfree pointer => pointer = 0 ∨ ∃ object ∈ session.objects, object.pointer = pointer
  | .xrealloc pointer size answers =>
      (pointer = 0 ∨ ∃ object ∈ session.objects, object.pointer = pointer) ∧
        size.toNat + wordSize < 2 ^ 64 ∧ session.heap.Fresh session.regions size answers
  | .write pointer offset bytes => ∃ object ∈ session.objects, object.pointer = pointer ∧
      offset + bytes.length ≤ object.bytes.length

instance (session : Session) : DecidablePred session.Allowed
  | .xmalloc .. => inferInstanceAs (Decidable (_ ∧ _))
  | .xfree _ => inferInstanceAs (Decidable (_ ∨ _))
  | .xrealloc .. => inferInstanceAs (Decidable (_ ∧ _ ∧ _))
  | .write .. => inferInstanceAs (Decidable (∃ object ∈ session.objects, _))

/-- The memory has what the program has written. -/
def Agrees (heap : Xallocator) (regions : List Region) (objects : List Object) : Prop :=
  (∃ blocks, heap.Valid regions (objects.map Object.region) blocks) ∧
    ∀ object ∈ objects, object.Holds heap.memory

section

variable {heap : Xallocator} {regions : List Region} {objects : List Object}

theorem lesser_toNat (first second : UInt64) :
    (if first < second then first else second).toNat = min first.toNat second.toNat := by
  split
  · rename_i less
    exact (Nat.min_eq_left (Nat.le_of_lt (UInt64.lt_iff_toNat_lt.mp less))).symm
  · rename_i more
    exact (Nat.min_eq_right (UInt64.le_iff_toNat_le.mp (UInt64.not_lt.mp more))).symm

theorem without_regions (pointer : Nat) : (without pointer objects).map Object.region =
    (objects.map Object.region).filter fun area => area.base ≠ pointer := by
  rw [without, List.filter_map]
  rfl

theorem written_regions (pointer offset : Nat) (bytes : List UInt8) :
    (written pointer offset bytes objects).map Object.region = objects.map Object.region := by
  rw [written, List.map_map]
  refine List.map_congr_left ?_
  intro object _
  rw [Function.comp]
  split
  · exact Object.written_region ..
  · rfl

namespace Agrees

theorem pointer_ne (agrees : Agrees heap regions objects) {object : Object}
    (member : object ∈ objects) : object.pointer ≠ 0 := by
  obtain ⟨⟨blocks, valid⟩, -⟩ := agrees
  have behind := (valid.lives _ (List.mem_map_of_mem member)).behind
  exact Nat.ne_of_gt (Nat.lt_of_lt_of_le (by decide) behind)

theorem without_null (agrees : Agrees heap regions objects) : without 0 objects = objects :=
  List.filter_eq_self.mpr fun _ member => decide_eq_true (agrees.pointer_ne member)

theorem xfree {object : Object} (agrees : Agrees heap regions objects)
    (member : object ∈ objects) :
    Agrees (heap.xfree object.pointer) regions (without object.pointer objects) := by
  obtain ⟨⟨blocks, valid⟩, holds⟩ := agrees
  have inAreas := List.mem_map_of_mem (f := Object.region) member
  obtain ⟨later, freed, same⟩ := valid.xfree inAreas
  rw [← without_regions] at freed
  refine ⟨⟨later, freed⟩, ?_⟩
  intro other inLater
  obtain ⟨stays, differ⟩ := List.mem_filter.mp inLater
  exact (holds other stays).frame same (valid.header_apart (List.mem_map_of_mem stays) inAreas
    (of_decide_eq_true differ))

theorem write {object : Object} {offset : Nat} {bytes : List UInt8}
    (agrees : Agrees heap regions objects) (member : object ∈ objects)
    (inside : offset + bytes.length ≤ object.bytes.length) :
    Agrees { heap with memory := heap.memory.store (object.pointer + offset) bytes } regions
      (written object.pointer offset bytes objects) := by
  obtain ⟨⟨blocks, valid⟩, holds⟩ := agrees
  have inAreas := List.mem_map_of_mem (f := Object.region) member
  have same := Memory.store_sameOutside heap.memory (object.pointer + offset) bytes
  have within : Region.Inside ⟨object.pointer + offset, bytes.length⟩ object.region := by
    simp only [Region.Inside, Object.region]
    omega
  constructor
  · rw [written_regions]
    exact ⟨blocks, valid.write inAreas within same⟩
  · intro other inLater
    obtain ⟨old, inObjects, rfl⟩ := List.mem_map.mp inLater
    by_cases here : old.pointer = object.pointer
    · rw [if_pos here, ← here]
      exact (holds old inObjects).write offset bytes
    · rw [if_neg here]
      have apart := valid.areas_apart (List.mem_map_of_mem inObjects) inAreas here
      exact (holds old inObjects).frame same ((apart.symm.inside within).symm)

theorem xmalloc {size : UInt64} {answers : Answers} {reply : Xallocator.Reply}
    (agrees : Agrees heap regions objects) (small : size.toNat + wordSize < 2 ^ 64)
    (fresh : heap.Fresh regions size answers) (ran : heap.xmalloc size answers = some reply) :
    Agrees reply.state (reply.obtained ++ regions) (allocated size objects reply.outcome) := by
  obtain ⟨⟨blocks, valid⟩, holds⟩ := agrees
  by_cases large : 2 ^ 63 < size.toNat + wordSize
  · rw [valid.xmalloc_large large small ran]
    exact ⟨⟨blocks, valid⟩, holds⟩
  · cases valid.xmalloc (Nat.le_of_not_lt large) fresh ran with
    | thrown later outcome obtained after same =>
        rw [outcome, obtained]
        refine ⟨⟨later, after⟩, ?_⟩
        rw [same]
        exact holds
    | returned block later outcome after same grown =>
        have nonnull : block + wordSize ≠ 0 := Nat.succ_ne_zero _
        rw [outcome, allocated, if_neg nonnull]
        constructor
        · rw [List.map_cons, Object.fresh_region]
          exact ⟨later, after⟩
        · rw [List.forall_mem_cons]
          refine ⟨Object.fresh_holds _ _ _, ?_⟩
          intro object member
          have inAreas := List.mem_map_of_mem (f := Object.region) member
          have differ : object.region.base ≠ block + wordSize := by
            intro same
            refine (List.nodup_cons.mp after.nodup).1 ?_
            rw [List.mem_map]
            exact ⟨_, inAreas, same⟩
          have apart := after.header_apart (List.mem_cons_of_mem _ inAreas) List.mem_cons_self differ
          rw [Xallocator.getBlockPtr, Nat.add_sub_cancel] at apart
          exact (holds object member).frame same apart

theorem head_ne {object new : Object} (agrees : Agrees heap regions (new :: objects))
    (member : object ∈ objects) : object.pointer ≠ new.pointer := by
  obtain ⟨⟨blocks, valid⟩, -⟩ := agrees
  have distinct := valid.nodup
  rw [List.map_cons, List.map_cons, List.map_map] at distinct
  intro same
  refine (List.nodup_cons.mp distinct).1 ?_
  exact List.mem_map.mpr ⟨object, member, same⟩

/-- The client's bytes of an object are those `xrealloc` can copy. -/
theorem oldSize_le {object : Object} (agrees : Agrees heap regions objects)
    (member : object ∈ objects) :
    object.bytes.length ≤ ((heap.instances (Xallocator.getBlockAllocator object.pointer
      heap.memory)).blockSize - sizeofPointer).toNat := by
  obtain ⟨⟨blocks, valid⟩, -⟩ := agrees
  have inAreas := List.mem_map_of_mem (f := Object.region) member
  obtain ⟨-, ends⟩ := valid.area_inside inAreas
  have behind := (valid.lives _ inAreas).behind
  have room := (valid.keeps _ (valid.lives _ inAreas).owner).room
  have header : sizeofPointer.toNat = 8 := rfl
  have width : wordSize = 8 := rfl
  have covers : sizeofPointer ≤ (heap.instances (Xallocator.getBlockAllocator object.pointer
      heap.memory)).blockSize := UInt64.le_iff_toNat_le.mpr room
  rw [UInt64.toNat_sub_of_le _ _ covers]
  simp only [Object.region, Allocator.region, Xallocator.getBlockPtr] at ends behind ⊢
  omega

/-- The copy to a fresh object. -/
theorem memcpy {object : Object} {pointer size count : Nat}
    (agrees : Agrees heap regions (.fresh pointer size :: objects)) (member : object ∈ objects)
    (room : count ≤ size) (known : min object.bytes.length size ≤ count) :
    Agrees (heap.memcpy pointer object.pointer count) regions
      (.resized pointer size object :: objects) := by
  have distinct : ∀ other ∈ objects, other.pointer ≠ pointer := fun _ => agrees.head_ne
  obtain ⟨⟨blocks, valid⟩, holds⟩ := agrees
  rw [List.map_cons, Object.fresh_region] at valid
  have same := Memory.store_sameOutside heap.memory pointer (heap.memory.load object.pointer count)
  rw [Memory.load_length] at same
  have within : Region.Inside ⟨pointer, count⟩ ⟨pointer, size⟩ :=
    ⟨Nat.le_refl pointer, Nat.add_le_add_left room pointer⟩
  constructor
  · rw [List.map_cons, Object.resized_region]
    exact ⟨blocks, valid.write List.mem_cons_self within same⟩
  · rw [List.forall_mem_cons] at holds ⊢
    refine ⟨(holds.2 object member).copy known, ?_⟩
    intro other inObjects
    have inAreas := List.mem_map_of_mem (f := Object.region) inObjects
    have apart := valid.areas_apart (List.mem_cons_of_mem _ inAreas) List.mem_cons_self
      (distinct other inObjects)
    exact (holds.2 other inObjects).frame same ((apart.symm.inside within).symm)

theorem find_object (agrees : Agrees heap regions objects) {object : Object}
    (member : object ∈ objects) :
    objects.find? (fun other => other.pointer = object.pointer) = some object := by
  obtain ⟨⟨blocks, valid⟩, -⟩ := agrees
  have distinct := valid.nodup
  rw [List.map_map] at distinct
  cases search : objects.find? fun other => other.pointer = object.pointer with
  | none => exact absurd (decide_eq_true rfl) (List.find?_eq_none.mp search object member)
  | some other =>
      have found := List.find?_some search
      have same : other.pointer = object.pointer := of_decide_eq_true found
      have inObjects := List.mem_of_find?_eq_some search
      rw [List.inj_on_of_nodup_map distinct inObjects member same]

theorem xrealloc {object : Object} {size : UInt64} {answers : Answers}
    {reply : Xallocator.Reply} (agrees : Agrees heap regions objects) (member : object ∈ objects)
    (small : size.toNat + wordSize < 2 ^ 64) (fresh : heap.Fresh regions size answers)
    (ran : heap.xrealloc object.pointer size answers = some reply) :
    Agrees reply.state (reply.obtained ++ regions)
      (reallocated object.pointer size objects reply.outcome) := by
  have present := agrees.pointer_ne member
  rw [Xallocator.xrealloc, if_neg present] at ran
  by_cases zero : size = 0
  · rw [if_pos zero] at ran
    cases ran
    rw [reallocated.eq_def, if_neg present, if_pos zero]
    exact agrees.xfree member
  · rw [if_neg zero] at ran
    obtain ⟨given, malloc, rfl⟩ := Option.map_eq_some_iff.mp ran
    have after := agrees.xmalloc small fresh malloc
    rw [reallocated.eq_def, if_neg present, if_neg zero]
    cases outcome : given.outcome with
    | thrown =>
        rw [outcome] at after
        simp only [outcome]
        exact after
    | returned newMem =>
        rw [outcome] at after
        by_cases null : newMem = 0
        · rw [null] at after
          simp only [null, ne_eq, not_true_eq_false, if_false, if_true]
          exact after
        · rw [allocated, if_neg null] at after
          simp only [null, ne_eq, not_false_eq_true, if_true, if_false, agrees.find_object member]
          have bytes := after.oldSize_le (List.mem_cons_of_mem _ member)
          have differ : newMem ≠ object.pointer := (after.head_ne member).symm
          let oldSize := (given.state.instances (Xallocator.getBlockAllocator object.pointer
            given.state.memory)).blockSize - sizeofPointer
          have count := lesser_toNat oldSize size
          have known : min object.bytes.length size.toNat ≤
              (if oldSize < size then oldSize else size).toNat := by
            rw [count]
            exact min_le_min_right _ bytes
          have room : (if oldSize < size then oldSize else size).toNat ≤ size.toNat := by
            rw [count]
            exact min_le_right _ _
          have copied := after.memcpy member room known
          have freed := copied.xfree (List.mem_cons_of_mem _ member)
          have stays : without object.pointer (.resized newMem size.toNat object :: objects) =
              .resized newMem size.toNat object :: without object.pointer objects :=
            List.filter_cons_of_pos (decide_eq_true differ)
          rw [stays] at freed
          exact freed

theorem pairwise_apart (agrees : Agrees heap regions objects) :
    objects.Pairwise fun first second => first.region.Apart second.region := by
  obtain ⟨⟨blocks, valid⟩, -⟩ := agrees
  have distinct := valid.nodup
  rw [List.map_map] at distinct
  refine (List.Nodup.of_map _ distinct).pairwise_of_forall_ne ?_
  intro first inFirst second inSecond differ
  refine valid.areas_apart (List.mem_map_of_mem inFirst) (List.mem_map_of_mem inSecond) ?_
  intro same
  exact differ (List.inj_on_of_nodup_map distinct inFirst inSecond same)

theorem inside_region (agrees : Agrees heap regions objects) {object : Object}
    (member : object ∈ objects) : ∃ region ∈ regions, object.region.Inside region := by
  obtain ⟨⟨blocks, valid⟩, -⟩ := agrees
  have inAreas := List.mem_map_of_mem (f := Object.region) member
  refine ⟨_, valid.ledger.mem_iff.mpr ?_, valid.area_inside inAreas⟩
  exact List.mem_flatMap.mpr ⟨_, (valid.lives _ inAreas).owner,
    List.mem_map_of_mem (valid.owner_obtained inAreas)⟩

theorem start (instances : Nat → Allocator) (memory : Memory) :
    Agrees ⟨[], instances, memory⟩ [] [] := by
  refine ⟨⟨fun _ => ⟨[], [], []⟩, ?_⟩, by simp⟩
  constructor <;> simp

theorem step {session after : Session} {call : Call}
    (agrees : Agrees session.heap session.regions session.objects)
    (allowed : session.Allowed call) (stepped : session.step call = some after) :
    Agrees after.heap after.regions after.objects := by
  cases call with
  | xmalloc size answers =>
      obtain ⟨reply, ran, rfl⟩ := Option.map_eq_some_iff.mp stepped
      exact agrees.xmalloc allowed.1 allowed.2 ran
  | xfree pointer =>
      cases stepped
      rcases allowed with null | given
      · subst pointer
        simp only [agrees.without_null]
        exact agrees
      · obtain ⟨object, member, rfl⟩ := given
        exact agrees.xfree member
  | xrealloc pointer size answers =>
      obtain ⟨reply, ran, rfl⟩ := Option.map_eq_some_iff.mp stepped
      obtain ⟨null | given, small, fresh⟩ := allowed
      · subst pointer
        rw [Xallocator.xrealloc, if_pos rfl] at ran
        simp only [reallocated.eq_def, if_true]
        exact agrees.xmalloc small fresh ran
      · obtain ⟨object, member, rfl⟩ := given
        exact agrees.xrealloc member small fresh ran
  | write pointer offset bytes =>
      cases stepped
      obtain ⟨object, member, rfl, inside⟩ := allowed
      exact agrees.write member inside

end Agrees

end

theorem agrees_visited {instances : Nat → Allocator} {memory : Memory} {calls : List Call}
    (allowed : ∀ transition ∈ path step (start instances memory) calls,
      transition.before.Allowed transition.event) :
    ∀ session ∈ visited step (start instances memory) calls,
      Agrees session.heap session.regions session.objects :=
  visited_invariant (Agrees.start instances memory)
    (fun _ _ _ agrees permitted stepped => agrees.step permitted stepped) allowed

/-- The refinement: the objects that the program has by the standard lie apart in memory
from `operator new`, and hold what it has written to them. -/
theorem xallocator_refines {instances : Nat → Allocator} {memory : Memory} {calls : List Call}
    (allowed : ∀ transition ∈ path step (start instances memory) calls,
      transition.before.Allowed transition.event) :
    ∀ session ∈ visited step (start instances memory) calls,
      (session.objects.Pairwise fun first second => first.region.Apart second.region) ∧
      ∀ object ∈ session.objects, object.pointer ≠ 0 ∧ object.Holds session.heap.memory ∧
        ∃ region ∈ session.regions, object.region.Inside region := by
  intro session reached
  have agrees := agrees_visited allowed session reached
  refine ⟨agrees.pairwise_apart, ?_⟩
  intro object member
  exact ⟨agrees.pointer_ne member, agrees.2 object member, agrees.inside_region member⟩

def emptySession : Session := start (fun _ => Allocator.create 0 0 0 0) fun _ => 0

/-- An object grows, and the block it leaves serves the next request, which is freed. -/
def sampleCalls : List Call :=
  [.xmalloc 20 ⟨some 1, some 65536⟩, .write 65544 0 [1, 2, 3],
    .xrealloc 65544 300 ⟨some 2, some 131072⟩, .xmalloc 24 ⟨none, none⟩, .xfree 0, .xfree 65544]

theorem sampleCalls_allowed : ∀ transition ∈ path step emptySession sampleCalls,
    transition.before.Allowed transition.event := by
  decide +kernel

theorem sampleCalls_run : (run step emptySession sampleCalls).isSome = true := by
  decide +kernel

theorem sampleCalls_refined : ∃ session, run step emptySession sampleCalls = some session ∧
    (session.objects.Pairwise fun first second => first.region.Apart second.region) ∧
    ∀ object ∈ session.objects, object.pointer ≠ 0 ∧ object.Holds session.heap.memory ∧
      ∃ region ∈ session.regions, object.region.Inside region := by
  obtain ⟨session, ran⟩ := Option.isSome_iff_exists.mp sampleCalls_run
  exact ⟨session, ran, xallocator_refines sampleCalls_allowed session (run_mem_visited ran)⟩

end Session

end ToySystem.Heap
