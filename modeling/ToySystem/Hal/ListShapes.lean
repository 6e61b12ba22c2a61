import ToySystem.Data.Rings
import ToySystem.Hal.ListComm

namespace ToySystem.Hal.ListComm

open ToySystem.Data

/-! # The lists that lie in a heap

A shape says of which nodes a list is made, and which values are in them.  Each operation
has one rule, which says what it returns and which shapes the heap then holds.
-/

structure Shape (T : Type) where
  middle : Pointer
  elements : List (Pointer × T)

section

variable {T : Type}

/-- Where an iterator is that has these elements before it. -/
def firstOf (elements : List (Pointer × T)) (middle : Pointer) : Pointer :=
  (elements.map Prod.fst).headD middle

def elementPieces (element : Pointer × T) : List Piece := [.storage element.1, .value element.1]

namespace Shape

def nodes (shape : Shape T) : List Pointer := shape.elements.map Prod.fst

def values (shape : Shape T) : List T := shape.elements.map Prod.snd

def ring (shape : Shape T) : List Pointer := shape.middle :: shape.nodes

def pieces (shape : Shape T) : List Piece :=
  .storage shape.middle :: shape.elements.flatMap elementPieces

/-- The nodes of the list are as its shape says. -/
structure In (shape : Shape T) (heap : Heap T) : Prop where
  linked : Ring heap.mpNext heap.mpPrev shape.middle shape.nodes
  stored : ∀ element ∈ shape.elements, heap.mVal element.1 = element.2

variable {shape : Shape T} {heap final : Heap T} {node middle : Pointer} {val : T}
  {before after : List (Pointer × T)}

theorem In.frame (inHeap : shape.In heap)
    (next : ∀ node ∈ shape.ring, final.mpNext node = heap.mpNext node)
    (prev : ∀ node ∈ shape.ring, final.mpPrev node = heap.mpPrev node)
    (value : ∀ node ∈ shape.nodes, final.mVal node = heap.mVal node) : shape.In final where
  linked := inHeap.linked.congr next prev
  stored element member := by
    rw [value element.1 (List.mem_map_of_mem member)]
    exact inHeap.stored element member

theorem In.record (inHeap : shape.In heap) (operation : Operation Piece) :
    shape.In (heap.record operation) :=
  inHeap.frame (fun _ _ => rfl) (fun _ _ => rfl) (fun _ _ => rfl)

theorem nodes_split (middle : Pointer) (before after : List (Pointer × T)) (element : Pointer × T) :
    (⟨middle, before ++ element :: after⟩ : Shape T).nodes =
      before.map Prod.fst ++ element.1 :: after.map Prod.fst := by
  rw [nodes, List.map_append, List.map_cons]

theorem ring_split (middle : Pointer) (before after : List (Pointer × T)) (element : Pointer × T) :
    (⟨middle, before ++ element :: after⟩ : Shape T).ring.Perm
      (element.1 :: (⟨middle, before ++ after⟩ : Shape T).ring) := by
  rw [ring, nodes_split, ring, nodes, List.map_append, ← List.cons_append]
  exact List.perm_middle

theorem pieces_split (middle : Pointer) (before after : List (Pointer × T))
    (element : Pointer × T) :
    (⟨middle, before ++ element :: after⟩ : Shape T).pieces.Perm
      (.storage element.1 :: .value element.1 ::
        (⟨middle, before ++ after⟩ : Shape T).pieces) := by
  have moved : (before ++ element :: after).Perm (element :: (before ++ after)) :=
    List.perm_middle
  have spread := (moved.flatMap_right elementPieces).cons (.storage middle)
  refine spread.trans ?_
  have front : (Piece.storage middle :: (elementPieces element ++
      (before ++ after).flatMap elementPieces)).Perm
      (elementPieces element ++ .storage middle :: (before ++ after).flatMap elementPieces) :=
    List.perm_middle.symm
  exact front

theorem nodes_setVal (middle : Pointer) (before after : List (Pointer × T)) (node : Pointer)
    (val replacement : T) : (⟨middle, before ++ (node, replacement) :: after⟩ : Shape T).nodes =
      (⟨middle, before ++ (node, val) :: after⟩ : Shape T).nodes := by
  rw [nodes_split, nodes_split]

theorem pieces_setVal (middle : Pointer) (before after : List (Pointer × T)) (node : Pointer)
    (val replacement : T) : (⟨middle, before ++ (node, replacement) :: after⟩ : Shape T).pieces =
      (⟨middle, before ++ (node, val) :: after⟩ : Shape T).pieces := by
  rw [pieces, pieces, List.flatMap_append, List.flatMap_append]
  rfl

/-- As each element has a node of its own, the others keep their values. -/
theorem In.setVal (inHeap : (⟨middle, before ++ (node, val) :: after⟩ : Shape T).In heap)
    (replacement : T) : (⟨middle, before ++ (node, replacement) :: after⟩ : Shape T).In
      { heap with mVal := Function.update heap.mVal node replacement } where
  linked := nodes_setVal middle before after node val replacement ▸ inHeap.linked
  stored := by
    have distinct := (List.nodup_cons.mp inHeap.linked.distinct).2
    rw [nodes_split, List.nodup_middle, List.nodup_cons, ← List.map_append] at distinct
    intro element member
    have cases : element ∈ (node, replacement) :: (before ++ after) :=
      List.perm_middle.mem_iff.mp member
    rcases List.mem_cons.mp cases with same | old
    · rw [same]
      exact Function.update_self ..
    · have other : element.1 ≠ node := by
        intro same
        have again : element.1 ∈ (before ++ after).map Prod.fst := List.mem_map_of_mem old
        exact distinct.1 (same ▸ again)
      exact (Function.update_of_ne other ..).trans
        (inHeap.stored element
          (List.perm_middle.mem_iff.mpr (List.mem_cons_of_mem (node, val) old)))

theorem values_length (shape : Shape T) : shape.values.length = shape.elements.length :=
  List.length_map ..

theorem storage_mem (member : node ∈ shape.ring) : Piece.storage node ∈ shape.pieces := by
  rcases List.mem_cons.mp member with same | inner
  · rw [same]
    exact List.mem_cons_self
  · obtain ⟨element, inElements, rfl⟩ := List.mem_map.mp inner
    refine List.mem_cons_of_mem _ (List.mem_flatMap.mpr ⟨element, inElements, ?_⟩)
    exact List.mem_cons_self

theorem value_mem (member : node ∈ shape.nodes) : Piece.value node ∈ shape.pieces := by
  obtain ⟨element, inElements, rfl⟩ := List.mem_map.mp member
  refine List.mem_cons_of_mem _ (List.mem_flatMap.mpr ⟨element, inElements, ?_⟩)
  exact List.mem_cons_of_mem _ List.mem_cons_self

end Shape

/-- The heap holds these lists, and nothing else. -/
structure Heap.Holds (heap : Heap T) (shapes : List (Shape T)) : Prop where
  each : ∀ shape ∈ shapes, shape.In heap
  apart : (shapes.flatMap Shape.ring).Nodup
  balanced : Balances heap.log (shapes.flatMap Shape.pieces)

variable {heap final : Heap T} {shapes others : List (Shape T)} {shape : Shape T}
  {node middle : Pointer} {val : T} {before after : List (Pointer × T)}

namespace Heap.Holds

theorem perm (holds : heap.Holds shapes) (same : shapes.Perm others) : heap.Holds others where
  each shape member := holds.each shape (same.mem_iff.mpr member)
  apart := (same.flatMap_right Shape.ring).nodup_iff.mp holds.apart
  balanced := holds.balanced.perm (same.flatMap_right Shape.pieces)

theorem storage_mem (member : shape ∈ shapes) (inRing : node ∈ shape.ring) :
    Piece.storage node ∈ shapes.flatMap Shape.pieces :=
  List.mem_flatMap.mpr ⟨shape, member, Shape.storage_mem inRing⟩

theorem value_mem (member : shape ∈ shapes) (inNodes : node ∈ shape.nodes) :
    Piece.value node ∈ shapes.flatMap Shape.pieces :=
  List.mem_flatMap.mpr ⟨shape, member, Shape.value_mem inNodes⟩

theorem use (holds : heap.Holds shapes) {piece : Piece}
    (member : piece ∈ shapes.flatMap Shape.pieces) : (heap.record (.use piece)).Holds shapes where
  each shape inShapes := (holds.each shape inShapes).record (.use piece)
  apart := holds.apart
  balanced := holds.balanced.use member

/-- `new` hands out none of the nodes in use. -/
theorem new_away (holds : heap.Holds shapes) (member : node ∈ shapes.flatMap Shape.ring) :
    node ≠ heap.new.place heap.log := by
  obtain ⟨shape, inShapes, inRing⟩ := List.mem_flatMap.mp member
  obtain ⟨held, worked, order⟩ := holds.balanced
  exact heap.new.away heap.log held worked (.storage node)
    (order.mem_iff.mpr (storage_mem inShapes inRing))

/-- The lists but one stay as they are, as far as their nodes do. -/
theorem frame (holds : heap.Holds (shape :: others))
    (next : ∀ node ∈ others.flatMap Shape.ring, final.mpNext node = heap.mpNext node)
    (prev : ∀ node ∈ others.flatMap Shape.ring, final.mpPrev node = heap.mpPrev node)
    (value : ∀ node ∈ others.flatMap Shape.ring, final.mVal node = heap.mVal node) :
    ∀ other ∈ others, other.In final := by
  intro other member
  have reach : ∀ node ∈ other.ring, node ∈ others.flatMap Shape.ring :=
    fun node inRing => List.mem_flatMap.mpr ⟨other, member, inRing⟩
  have inHeap := holds.each other (List.mem_cons_of_mem shape member)
  exact inHeap.frame (fun node inRing => next node (reach node inRing))
    (fun node inRing => prev node (reach node inRing))
    (fun node inNodes => value node (reach node (List.mem_cons_of_mem _ inNodes)))

theorem others_apart (holds : heap.Holds (shape :: others)) (inRing : node ∈ shape.ring)
    {other : Pointer} (member : other ∈ others.flatMap Shape.ring) : other ≠ node := by
  have apart := holds.apart
  rw [List.flatMap_cons, List.nodup_append] at apart
  exact (apart.2.2 node inRing other member).symm

end Heap.Holds

theorem firstOf_mem_ring (middle : Pointer) (before after : List (Pointer × T)) :
    firstOf after middle ∈ (⟨middle, before ++ after⟩ : Shape T).ring := by
  cases after with
  | nil => exact List.mem_cons_self
  | cons element rest =>
      have inNodes : element.1 ∈ (⟨middle, before ++ element :: rest⟩ : Shape T).nodes :=
        List.mem_map_of_mem (List.mem_append_right before List.mem_cons_self)
      exact List.mem_cons_of_mem _ inNodes

theorem getNext_returns (holds : heap.Holds shapes) (member : shape ∈ shapes)
    (inRing : node ∈ shape.ring) :
    Returns (getNext node) heap fun following final =>
      following = heap.mpNext node ∧ final.Holds shapes :=
  .of_eq rfl ⟨rfl, holds.use (Heap.Holds.storage_mem member inRing)⟩

theorem begin_returns (holds : heap.Holds shapes) (member : shape ∈ shapes) :
    Returns (begin shape.middle) heap fun first final =>
      first = firstOf shape.elements shape.middle ∧ final.Holds shapes := by
  apply (getNext_returns holds member List.mem_cons_self).mono
  intro first final outcome
  obtain ⟨same, kept⟩ := outcome
  exact ⟨same.trans (holds.each shape member).linked.next_eq, kept⟩

theorem increment_returns (holds : heap.Holds shapes) (member : shape ∈ shapes)
    (parts : shape.elements = before ++ (node, val) :: after) :
    Returns (getNext node) heap fun following final =>
      following = firstOf after shape.middle ∧ final.Holds shapes := by
  obtain ⟨middle, elements⟩ := shape
  subst parts
  have linked := (holds.each _ member).linked
  rw [Shape.nodes_split] at linked
  have inRing : node ∈ (⟨middle, before ++ (node, val) :: after⟩ : Shape T).ring :=
    (Shape.ring_split middle before after (node, val)).mem_iff.mpr List.mem_cons_self
  apply (getNext_returns holds member inRing).mono
  intro following final outcome
  obtain ⟨same, kept⟩ := outcome
  exact ⟨same.trans linked.next_of_split, kept⟩

theorem decrement_returns (holds : heap.Holds shapes) (member : shape ∈ shapes)
    (parts : shape.elements = before ++ (node, val) :: after) :
    Returns (getPrev (firstOf after shape.middle)) heap fun preceding final =>
      preceding = node ∧ final.Holds shapes := by
  obtain ⟨middle, elements⟩ := shape
  subst parts
  have linked := (holds.each _ member).linked
  rw [Shape.nodes_split] at linked
  refine .of_eq rfl ⟨linked.prev_of_split, holds.use (Heap.Holds.storage_mem member ?_)⟩
  rw [List.append_cons]
  exact firstOf_mem_ring middle _ after

theorem getRef_returns (holds : heap.Holds shapes) (member : shape ∈ shapes)
    (parts : shape.elements = before ++ (node, val) :: after) :
    Returns (getRef node) heap fun ref final => ref = val ∧ final.Holds shapes := by
  have inElements : (node, val) ∈ shape.elements := by
    rw [parts]
    exact List.mem_append_right before List.mem_cons_self
  have inNodes : node ∈ shape.nodes := List.mem_map_of_mem inElements
  exact .of_eq rfl ⟨(holds.each shape member).stored (node, val) inElements,
    holds.use (Heap.Holds.value_mem member inNodes)⟩

/-- Iterators into one list are equal exactly if no elements lie between them. -/
theorem firstOf_eq_firstOf (holds : heap.Holds shapes) (member : shape ∈ shapes)
    {range : List (Pointer × T)} (parts : shape.elements = before ++ (range ++ after)) :
    firstOf (range ++ after) shape.middle = firstOf after shape.middle ↔ range = [] := by
  constructor
  · intro same
    cases range with
    | nil => rfl
    | cons element rest =>
        exfalso
        have distinct := (holds.each shape member).linked.distinct
        rw [Shape.nodes, parts, List.map_append, List.cons_append, List.map_cons] at distinct
        obtain ⟨outside, nodup⟩ := List.nodup_cons.mp distinct
        have once := (List.nodup_cons.mp (List.nodup_append.mp nodup).2.1).1
        have reached : firstOf after shape.middle = element.1 := same.symm
        cases after with
        | nil =>
            have atEnd : shape.middle = element.1 := reached
            exact outside (atEnd ▸ List.mem_append_right _ List.mem_cons_self)
        | cons next beyond =>
            have again : next.1 = element.1 := reached
            refine once ?_
            rw [← again]
            exact List.mem_map_of_mem (List.mem_append_right rest List.mem_cons_self)
  · rintro rfl
    rfl

/-- An iterator is at the end exactly if no elements are left. -/
theorem firstOf_eq_middle (holds : heap.Holds shapes) (member : shape ∈ shapes)
    (parts : shape.elements = before ++ after) :
    firstOf after shape.middle = shape.middle ↔ after = [] := by
  have whole : shape.elements = before ++ (after ++ []) := by rw [parts, List.append_nil]
  have same := firstOf_eq_firstOf holds member whole
  rw [List.append_nil] at same
  exact same

theorem distance_returns (holds : heap.Holds shapes) (member : shape ∈ shapes)
    {range : List (Pointer × T)} (parts : shape.elements = before ++ (range ++ after)) {fuel : Nat}
    (enough : range.length < fuel) (count : Nat) :
    Returns (distance (firstOf after shape.middle) fuel (firstOf (range ++ after) shape.middle)
      count) heap fun total final => total = count + range.length ∧ final.Holds shapes := by
  induction fuel generalizing heap before range count with
  | zero => omega
  | succ fuel ih =>
      have ended := firstOf_eq_firstOf holds member parts
      rw [distance]
      cases range with
      | nil =>
          rw [if_pos (ended.mpr rfl)]
          exact .pure ⟨rfl, holds⟩
      | cons element rest =>
          rw [if_neg (mt ended.mp (List.cons_ne_nil element rest))]
          apply (increment_returns holds member parts).bind
          intro following middle outcome
          obtain ⟨rfl, kept⟩ := outcome
          have later : shape.elements = before ++ [element] ++ (rest ++ after) :=
            parts.trans (List.append_cons before element (rest ++ after))
          rw [List.length_cons] at enough ⊢
          apply (ih kept later (by omega) (count + 1)).mono
          intro total final outcome
          obtain ⟨same, still⟩ := outcome
          exact ⟨by omega, still⟩

theorem size_returns (holds : heap.Holds shapes) (member : shape ∈ shapes) {fuel : Nat}
    (enough : shape.elements.length < fuel) :
    Returns (size fuel shape.middle) heap fun total final =>
      total = shape.values.length ∧ final.Holds shapes := by
  apply (begin_returns holds member).bind
  intro first reached outcome
  obtain ⟨rfl, kept⟩ := outcome
  have whole : shape.elements = [] ++ (shape.elements ++ []) := by
    rw [List.append_nil, List.nil_append]
  have counted := distance_returns kept member whole enough 0
  rw [List.append_nil, Nat.zero_add] at counted
  refine counted.mono ?_
  intro total final outcome
  obtain ⟨same, still⟩ := outcome
  rw [Shape.values_length]
  exact ⟨same, still⟩

theorem empty_returns (holds : heap.Holds shapes) (member : shape ∈ shapes) :
    Returns (empty shape.middle) heap fun answer final =>
      answer = shape.values.isEmpty ∧ final.Holds shapes := by
  apply (begin_returns holds member).bind
  intro first reached outcome
  obtain ⟨rfl, kept⟩ := outcome
  refine .pure ⟨?_, kept⟩
  rw [Bool.eq_iff_iff, decide_eq_true_iff, List.isEmpty_iff, Shape.values, List.map_eq_nil_iff]
  exact firstOf_eq_middle holds member (List.nil_append _).symm

theorem setVal_returns (holds : heap.Holds (⟨middle, before ++ (node, val) :: after⟩ :: others))
    (replacement : T) :
    Returns (setVal node replacement) heap fun _ final =>
      final.Holds (⟨middle, before ++ (node, replacement) :: after⟩ :: others) := by
  have inNodes : node ∈ (⟨middle, before ++ (node, val) :: after⟩ : Shape T).nodes := by
    rw [Shape.nodes_split]
    exact List.mem_append_right _ List.mem_cons_self
  have inHeap := holds.each _ List.mem_cons_self
  refine .of_eq rfl ⟨?_, ?_, ?_⟩
  · refine List.forall_mem_cons.mpr ⟨(inHeap.record _).setVal replacement, ?_⟩
    refine holds.frame (fun _ _ => rfl) (fun _ _ => rfl) ?_
    intro other member
    exact Function.update_of_ne (holds.others_apart (List.mem_cons_of_mem _ inNodes) member) ..
  · have apart := holds.apart
    rw [List.flatMap_cons, Shape.ring] at apart ⊢
    rw [Shape.nodes_setVal middle before after node val replacement]
    exact apart
  · have balanced := holds.balanced
    rw [List.flatMap_cons] at balanced ⊢
    rw [Shape.pieces_setVal middle before after node val replacement]
    exact balanced.use (List.mem_append_left _ (Shape.value_mem inNodes))

theorem prep_returns (holds : heap.Holds shapes) :
    Returns prep heap fun mpMiddle final => final.Holds (⟨mpMiddle, []⟩ :: shapes) := by
  have away : ∀ node ∈ shapes.flatMap Shape.ring, node ≠ heap.new.place heap.log :=
    fun node member => holds.new_away member
  refine .of_eq rfl ⟨?_, ?_, ?_⟩
  · refine List.forall_mem_cons.mpr ⟨⟨.alone ?_ ?_, ?_⟩, ?_⟩
    · exact Function.update_self ..
    · exact Function.update_self ..
    · intro element member
      cases member
    · intro other member
      have outside : ∀ node ∈ other.ring, node ≠ heap.new.place heap.log :=
        fun node inRing => away node (List.mem_flatMap.mpr ⟨other, member, inRing⟩)
      exact (holds.each other member).frame
        (fun node inRing => Function.update_of_ne (outside node inRing) ..)
        (fun node inRing => Function.update_of_ne (outside node inRing) ..) (fun _ _ => rfl)
  · rw [List.flatMap_cons]
    refine List.nodup_cons.mpr ⟨?_, holds.apart⟩
    intro member
    exact away _ member rfl
  · rw [List.flatMap_cons]
    have acquired := holds.balanced.acquire (.storage (heap.new.place heap.log))
    exact (acquired.use List.mem_cons_self).use List.mem_cons_self

/-- What `insert` makes of the heap. -/
theorem insert_eq {posn : Pointer} (placed : heap.new.place heap.log = node) (other : posn ≠ node)
    (val : T) : insert posn val heap = some (node, {
      new := heap.new
      mVal := Function.update heap.mVal node val
      mpPrev := Function.update (Function.update heap.mpPrev node (heap.mpPrev posn)) posn node
      mpNext := Function.update (Function.update heap.mpNext node posn) (heap.mpPrev posn) node
      log := heap.log ++ [.acquire (.storage node)] ++ [.acquire (.value node)] ++
        [.use (.storage node)] ++ [.use (.storage posn)] ++ [.use (.storage node)] ++
        [.use (.storage posn)] ++ [.use (.storage (heap.mpPrev posn))] ++
        [.use (.storage posn)] }) := by
  subst placed
  -- The second `getPrev` comes after the new node has got its links.
  have kept : Function.update heap.mpPrev (heap.new.place heap.log) (heap.mpPrev posn) posn =
      heap.mpPrev posn := Function.update_of_ne other ..
  nth_rewrite 2 3 [← kept]
  rfl

theorem insert_returns (holds : heap.Holds (⟨middle, before ++ after⟩ :: others)) (val : T) :
    Returns (insert (firstOf after middle) val) heap fun node final =>
      final.Holds (⟨middle, before ++ (node, val) :: after⟩ :: others) := by
  obtain ⟨node, placed⟩ : ∃ node, heap.new.place heap.log = node := ⟨_, rfl⟩
  have away : ∀ other ∈ (⟨middle, before ++ after⟩ : Shape T).ring, other ≠ node := by
    intro other member
    exact placed ▸ holds.new_away (List.mem_append_left _ member)
  have othersAway : ∀ other ∈ others.flatMap Shape.ring, other ≠ node := by
    intro other member
    exact placed ▸ holds.new_away (List.mem_append_right _ member)
  have inHeap := holds.each _ List.mem_cons_self
  have inRing := firstOf_mem_ring middle before after
  have prevIn := (inHeap.linked.neighbours_mem inRing).2
  refine .of_eq (insert_eq placed (away _ inRing) val) ⟨?_, ?_, ?_⟩
  · refine List.forall_mem_cons.mpr ⟨⟨?_, ?_⟩, holds.frame ?_ ?_ ?_⟩
    · have linked := inHeap.linked
      rw [Shape.nodes, List.map_append] at linked
      rw [Shape.nodes_split]
      refine linked.insert rfl ?_
      intro member
      refine away node ?_ rfl
      rw [Shape.ring, Shape.nodes, List.map_append]
      exact member
    · intro element member
      have cases : element ∈ (node, val) :: (before ++ after) :=
        List.perm_middle.mem_iff.mp member
      rcases List.mem_cons.mp cases with same | old
      · rw [same]
        exact Function.update_self ..
      · have other : element.1 ≠ node :=
          away element.1 (List.mem_cons_of_mem _ (List.mem_map_of_mem old))
        exact (Function.update_of_ne other ..).trans (inHeap.stored element old)
    · intro other member
      exact (Function.update_of_ne (holds.others_apart prevIn member) ..).trans
        (Function.update_of_ne (othersAway other member) ..)
    · intro other member
      exact (Function.update_of_ne (holds.others_apart inRing member) ..).trans
        (Function.update_of_ne (othersAway other member) ..)
    · intro other member
      exact Function.update_of_ne (othersAway other member) ..
  · have grown := Shape.ring_split middle before after (node, val)
    rw [List.flatMap_cons, (grown.append_right _).nodup_iff]
    refine List.nodup_cons.mpr ⟨?_, holds.apart⟩
    intro member
    exact holds.new_away member placed.symm
  · have split := Shape.pieces_split middle before after (node, val)
    have order := (List.Perm.swap (Piece.storage node) (.value node) _).trans
      (split.symm.append_right (others.flatMap Shape.pieces))
    have held := ((holds.balanced.acquire (.storage node)).acquire (.value node)).perm order
    have nodeIn := order.mem_iff.mp (List.mem_cons_of_mem _ List.mem_cons_self)
    have oldIn : ∀ other ∈ (⟨middle, before ++ after⟩ : Shape T).ring, Piece.storage other ∈
        (⟨middle, before ++ (node, val) :: after⟩ : Shape T).pieces ++
          others.flatMap Shape.pieces := by
      intro other member
      exact order.mem_iff.mp (List.mem_cons_of_mem _ (List.mem_cons_of_mem _
        (List.mem_append_left _ (Shape.storage_mem member))))
    exact (((((held.use nodeIn).use (oldIn _ inRing)).use nodeIn).use (oldIn _ inRing)).use
      (oldIn _ prevIn)).use (oldIn _ inRing)

theorem pushFront_returns (holds : heap.Holds (⟨middle, after⟩ :: others)) (val : T) :
    Returns (pushFront middle val) heap fun node final =>
      final.Holds (⟨middle, (node, val) :: after⟩ :: others) := by
  apply (begin_returns holds List.mem_cons_self).bind
  intro first started outcome
  obtain ⟨rfl, startedHolds⟩ := outcome
  have front : started.Holds (⟨middle, [] ++ after⟩ :: others) := startedHolds
  exact insert_returns front val

theorem pushBack_returns (holds : heap.Holds (⟨middle, before⟩ :: others)) (val : T) :
    Returns (pushBack middle val) heap fun node final =>
      final.Holds (⟨middle, before ++ [(node, val)]⟩ :: others) := by
  rw [← List.append_nil before] at holds
  exact insert_returns holds val

theorem erase_eq (heap : Heap T) (posn : Pointer) : erase posn heap = some (heap.mpNext posn, {
    new := heap.new
    mVal := heap.mVal
    mpPrev := Function.update heap.mpPrev (heap.mpNext posn) (heap.mpPrev posn)
    mpNext := Function.update heap.mpNext (heap.mpPrev posn) (heap.mpNext posn)
    log := heap.log ++ [.use (.storage posn)] ++ [.use (.storage posn)] ++
      [.use (.storage (heap.mpPrev posn))] ++ [.use (.storage (heap.mpNext posn))] ++
      [.delete (.value posn)] ++ [.delete (.storage posn)] }) := rfl

theorem erase_returns
    (holds : heap.Holds (⟨middle, before ++ (node, val) :: after⟩ :: others)) :
    Returns (erase node) heap fun following final =>
      following = firstOf after middle ∧ final.Holds (⟨middle, before ++ after⟩ :: others) := by
  have inHeap := holds.each _ List.mem_cons_self
  have split := Shape.ring_split middle before after (node, val)
  have inRing : node ∈ (⟨middle, before ++ (node, val) :: after⟩ : Shape T).ring :=
    split.mem_iff.mpr List.mem_cons_self
  obtain ⟨nextIn, prevIn⟩ := inHeap.linked.neighbours_mem inRing
  have linked := inHeap.linked
  rw [Shape.nodes_split] at linked
  refine .of_eq (erase_eq heap node) ⟨linked.next_of_split, ?_, ?_, ?_⟩
  · refine List.forall_mem_cons.mpr ⟨⟨?_, ?_⟩, holds.frame ?_ ?_ (fun _ _ => rfl)⟩
    · rw [Shape.nodes, List.map_append]
      exact linked.erase
    · intro element member
      exact inHeap.stored element
        (List.perm_middle.mem_iff.mpr (List.mem_cons_of_mem (node, val) member))
    · intro other member
      exact Function.update_of_ne (holds.others_apart prevIn member) ..
    · intro other member
      exact Function.update_of_ne (holds.others_apart nextIn member) ..
  · have apart := holds.apart
    rw [List.flatMap_cons, (split.append_right _).nodup_iff] at apart
    exact (List.nodup_cons.mp apart).2
  · have reach : ∀ other ∈ (⟨middle, before ++ (node, val) :: after⟩ : Shape T).ring,
        Piece.storage other ∈ (⟨middle, before ++ (node, val) :: after⟩ :: others :
          List (Shape T)).flatMap Shape.pieces :=
      fun other member => Heap.Holds.storage_mem List.mem_cons_self member
    have used := (((holds.balanced.use (reach _ inRing)).use (reach _ inRing)).use
      (reach _ prevIn)).use (reach _ nextIn)
    have order := ((Shape.pieces_split middle before after (node, val)).trans
      (List.Perm.swap ..)).append_right (others.flatMap Shape.pieces)
    exact (used.perm order).delete.delete

end

end ToySystem.Hal.ListComm
