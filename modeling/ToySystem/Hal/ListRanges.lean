import ToySystem.Hal.ListShapes

namespace ToySystem.Hal.ListComm

open ToySystem.Data

/-! # What is done to ranges of elements, and to whole lists -/

section

variable {T : Type} {heap final : Heap T} {shapes others : List (Shape T)} {source shape : Shape T}
  {middle : Pointer} {before after range beyond passed : List (Pointer × T)} {fuel : Nat}

/-- `posn` stays where it is, so that the copies keep the order of the range. -/
theorem insertRange_returns (holds : heap.Holds (⟨middle, before ++ after⟩ :: others))
    (member : source ∈ others) (parts : source.elements = passed ++ (range ++ beyond))
    (enough : range.length < fuel) :
    Returns (insertRange (firstOf after middle) (firstOf beyond source.middle) fuel
      (firstOf (range ++ beyond) source.middle)) heap fun _ final =>
        ∃ copies : List (Pointer × T), copies.map Prod.snd = range.map Prod.snd ∧
          final.Holds (⟨middle, before ++ (copies ++ after)⟩ :: others) := by
  induction fuel generalizing heap before range passed with
  | zero => omega
  | succ fuel ih =>
      have inShapes : source ∈ ⟨middle, before ++ after⟩ :: others :=
        List.mem_cons_of_mem _ member
      rw [insertRange]
      cases range with
      | nil =>
          rw [List.nil_append, if_pos rfl]
          exact .pure ⟨[], rfl, holds⟩
      | cons element rest =>
          have going : firstOf (element :: rest ++ beyond) source.middle ≠
              firstOf beyond source.middle := by
            rw [Ne, firstOf_eq_firstOf holds inShapes parts]
            exact List.cons_ne_nil element rest
          have here : source.elements = passed ++ (element.1, element.2) :: (rest ++ beyond) :=
            parts
          have later : source.elements = passed ++ [element] ++ (rest ++ beyond) :=
            here.trans (List.append_cons passed element _)
          rw [if_neg going]
          apply (getRef_returns holds inShapes here).bind
          intro val read outcome
          obtain ⟨rfl, readHolds⟩ := outcome
          apply (insert_returns readHolds element.2).bind
          intro node grown grownHolds
          rw [List.append_cons] at grownHolds
          apply (increment_returns grownHolds (List.mem_cons_of_mem _ member) here).bind
          intro following walked outcome
          obtain ⟨rfl, walkedHolds⟩ := outcome
          rw [List.length_cons] at enough
          apply (ih walkedHolds later (by omega)).mono
          intro result final outcome
          obtain ⟨copies, same, kept⟩ := outcome
          refine ⟨(node, element.2) :: copies, ?_, ?_⟩
          · rw [List.map_cons, List.map_cons, same]
          · rw [List.append_assoc] at kept
            exact kept

theorem eraseRange_returns (holds : heap.Holds (⟨middle, before ++ (range ++ after)⟩ :: others))
    (enough : range.length < fuel) :
    Returns (eraseRange (firstOf after middle) fuel (firstOf (range ++ after) middle)) heap
      fun following final => following = firstOf after middle ∧
        final.Holds (⟨middle, before ++ after⟩ :: others) := by
  induction fuel generalizing heap range with
  | zero => omega
  | succ fuel ih =>
      rw [eraseRange]
      cases range with
      | nil =>
          rw [List.nil_append, if_pos rfl]
          exact .pure ⟨rfl, holds⟩
      | cons element rest =>
          have going : firstOf (element :: rest ++ after) middle ≠ firstOf after middle := by
            rw [Ne, firstOf_eq_firstOf holds List.mem_cons_self rfl]
            exact List.cons_ne_nil element rest
          rw [if_neg going]
          apply (increment_returns holds List.mem_cons_self rfl).bind
          intro following walked outcome
          obtain ⟨rfl, walkedHolds⟩ := outcome
          apply (erase_returns walkedHolds).bind
          intro next erased outcome
          obtain ⟨-, erasedHolds⟩ := outcome
          rw [List.length_cons] at enough
          exact ih erasedHolds (by omega)

/-- While `clear` deletes the nodes, the links lead through what is no longer there, but no
link is followed out of a node that is deleted. -/
theorem deleteFrom_returns {rest gone : List (Pointer × T)} {kept : List Piece}
    (inHeap : shape.In heap) (parts : shape.elements = gone ++ rest)
    (balanced : Balances heap.log ((⟨shape.middle, rest⟩ : Shape T).pieces ++ kept))
    (enough : rest.length < fuel) :
    Returns (deleteFrom shape.middle fuel (firstOf rest shape.middle)) heap fun _ final =>
      ∃ log, final = { heap with log := log } ∧
        Balances log (.storage shape.middle :: kept) := by
  induction fuel generalizing heap rest gone with
  | zero => omega
  | succ fuel ih =>
      rw [deleteFrom]
      cases rest with
      | nil =>
          have atEnd : firstOf ([] : List (Pointer × T)) shape.middle = shape.middle := rfl
          rw [if_pos atEnd]
          exact .pure ⟨heap.log, rfl, balanced⟩
      | cons element rest =>
          have linked := inHeap.linked
          rw [Shape.nodes, parts, List.map_append, List.map_cons] at linked
          have going : firstOf (element :: rest) shape.middle ≠ shape.middle := by
            intro same
            have first : element.1 = shape.middle := same
            refine (List.nodup_cons.mp linked.distinct).1 ?_
            rw [first]
            exact List.mem_append_right _ List.mem_cons_self
          have order := ((Shape.pieces_split shape.middle [] rest element).trans
            (List.Perm.swap ..)).append_right kept
          have inPieces := order.mem_iff.mpr (List.mem_cons_of_mem _ List.mem_cons_self)
          have deleted := ((balanced.use inPieces).perm order).delete.delete
          have following : heap.mpNext element.1 = firstOf rest shape.middle :=
            linked.next_of_split
          rw [if_neg going]
          refine (Returns.of_eq rfl ⟨following, rfl⟩ : Returns (getNext element.1) heap
            fun next final => next = firstOf rest shape.middle ∧
              final = heap.record (.use (.storage element.1))).bind ?_
          intro next read outcome
          obtain ⟨rfl, rfl⟩ := outcome
          refine (Returns.of_eq rfl rfl : Returns (deleteNode element.1)
            (heap.record (.use (.storage element.1))) fun _ final =>
              final = { heap with log := heap.log ++ [.use (.storage element.1)] ++
                [.delete (.value element.1)] ++ [.delete (.storage element.1)] }).bind ?_
          rintro result deleting rfl
          have later : shape.elements = gone ++ [element] ++ rest :=
            parts.trans (List.append_cons gone element rest)
          rw [List.length_cons] at enough
          exact ih (inHeap.frame (fun _ _ => rfl) (fun _ _ => rfl) (fun _ _ => rfl)) later
            deleted (by omega)

theorem clear_returns (holds : heap.Holds (shape :: others))
    (enough : shape.elements.length < fuel) :
    Returns (clear fuel shape.middle) heap fun _ final =>
      final.Holds (⟨shape.middle, []⟩ :: others) := by
  apply (begin_returns holds List.mem_cons_self).bind
  intro first read outcome
  obtain ⟨rfl, readHolds⟩ := outcome
  have balanced := readHolds.balanced
  rw [List.flatMap_cons] at balanced
  refine (deleteFrom_returns (readHolds.each shape List.mem_cons_self) (List.nil_append _).symm
    balanced enough).bind ?_
  intro result emptied outcome
  obtain ⟨log, rfl, left⟩ := outcome
  refine .of_eq rfl ⟨?_, ?_, ?_⟩
  · have apart : ∀ node ∈ others.flatMap Shape.ring, node ≠ shape.middle :=
      fun node member => readHolds.others_apart List.mem_cons_self member
    refine List.forall_mem_cons.mpr ⟨⟨.alone ?_ ?_, ?_⟩, readHolds.frame ?_ ?_ ?_⟩
    · exact Function.update_self ..
    · exact Function.update_self ..
    · intro element member
      cases member
    · intro node member
      exact Function.update_of_ne (apart node member) ..
    · intro node member
      exact Function.update_of_ne (apart node member) ..
    · intro node _
      rfl
  · have apart := readHolds.apart
    rw [List.flatMap_cons, Shape.ring, List.cons_append, List.nodup_cons] at apart
    rw [List.flatMap_cons]
    refine List.nodup_cons.mpr ⟨?_, ?_⟩
    · intro member
      exact apart.1 (List.mem_append_right _ member)
    · exact (List.nodup_append.mp apart.2).2.1
  · rw [List.flatMap_cons]
    exact (left.use List.mem_cons_self).use List.mem_cons_self

theorem destruct_returns (holds : heap.Holds (shape :: others))
    (enough : shape.elements.length < fuel) :
    Returns (destruct fuel shape.middle) heap fun _ final => final.Holds others := by
  apply (clear_returns holds enough).bind
  intro result cleared clearedHolds
  have balanced := clearedHolds.balanced
  rw [List.flatMap_cons] at balanced
  have inAll : ∀ other ∈ others, other ∈ (⟨shape.middle, []⟩ : Shape T) :: others :=
    fun other member => List.mem_cons_of_mem _ member
  refine .of_eq rfl ⟨?_, (List.nodup_cons.mp clearedHolds.apart).2, balanced.delete⟩
  intro other member
  exact (clearedHolds.each other (inAll other member)).record _

theorem copyConstruct_returns (holds : heap.Holds shapes) (member : source ∈ shapes)
    (enough : source.elements.length < fuel) :
    Returns (copyConstruct fuel source.middle) heap fun mpMiddle final =>
      ∃ copies : List (Pointer × T), copies.map Prod.snd = source.values ∧
        final.Holds (⟨mpMiddle, copies⟩ :: shapes) := by
  apply (prep_returns holds).bind
  intro created prepared preparedHolds
  apply (begin_returns preparedHolds List.mem_cons_self).bind
  intro mpMiddle placed outcome
  obtain ⟨rfl, placedHolds⟩ := outcome
  apply (begin_returns placedHolds (List.mem_cons_of_mem _ member)).bind
  intro first startedHeap outcome
  obtain ⟨rfl, startedHolds⟩ := outcome
  have fresh : startedHeap.Holds (⟨mpMiddle, [] ++ []⟩ :: shapes) := startedHolds
  have whole : source.elements = [] ++ (source.elements ++ []) := by
    rw [List.append_nil, List.nil_append]
  have inserted := insertRange_returns fresh member whole enough
  rw [List.append_nil] at inserted
  refine inserted.bind ?_
  intro result filled outcome
  obtain ⟨copies, same, kept⟩ := outcome
  rw [List.nil_append, List.append_nil] at kept
  exact .pure ⟨copies, same, kept⟩

/-- The loop of `operator=` ends when one of the lists does. -/
theorem assignFrom_returns {passedSrc restSrc restDst passedDst : List (Pointer × T)}
    (holds : heap.Holds (⟨middle, passedDst ++ restDst⟩ :: others)) (member : source ∈ others)
    (parts : source.elements = passedSrc ++ restSrc)
    (copied : passedDst.map Prod.snd = passedSrc.map Prod.snd) (enough : restSrc.length < fuel) :
    Returns (assignFrom middle source.middle fuel (firstOf restDst middle)
      (firstOf restSrc source.middle)) heap fun reached final =>
        ∃ copiedSrc leftSrc copiedDst leftDst : List (Pointer × T),
          reached = (firstOf leftDst middle, firstOf leftSrc source.middle) ∧
          source.elements = copiedSrc ++ leftSrc ∧ (leftSrc = [] ∨ leftDst = []) ∧
          copiedDst.map Prod.snd = copiedSrc.map Prod.snd ∧
          leftDst.length ≤ restDst.length ∧
          final.Holds (⟨middle, copiedDst ++ leftDst⟩ :: others) := by
  induction fuel generalizing heap passedSrc restSrc passedDst restDst with
  | zero => omega
  | succ fuel ih =>
      have inShapes : source ∈ ⟨middle, passedDst ++ restDst⟩ :: others :=
        List.mem_cons_of_mem _ member
      have srcEnd := firstOf_eq_middle holds inShapes parts
      have dstEnd : firstOf restDst middle = middle ↔ restDst = [] :=
        firstOf_eq_middle holds List.mem_cons_self rfl
      rw [assignFrom]
      by_cases going : restSrc ≠ [] ∧ restDst ≠ []
      · rw [if_pos (by rw [Ne, Ne, srcEnd, dstEnd]; exact going)]
        obtain ⟨src, laterSrc, rfl⟩ := List.exists_cons_of_ne_nil going.1
        obtain ⟨dst, laterDst, rfl⟩ := List.exists_cons_of_ne_nil going.2
        have hereSrc : source.elements = passedSrc ++ (src.1, src.2) :: laterSrc := parts
        apply (increment_returns holds inShapes hereSrc).bind
        intro followingSrc first outcome
        obtain ⟨rfl, firstHolds⟩ := outcome
        apply (increment_returns firstHolds List.mem_cons_self rfl).bind
        intro followingDst second outcome
        obtain ⟨rfl, secondHolds⟩ := outcome
        apply (getRef_returns secondHolds inShapes hereSrc).bind
        intro val third outcome
        obtain ⟨rfl, thirdHolds⟩ := outcome
        apply (setVal_returns thirdHolds src.2).bind
        intro result fourth fourthHolds
        rw [List.append_cons] at fourthHolds
        rw [List.length_cons] at enough
        have laterParts := hereSrc.trans (List.append_cons passedSrc src laterSrc)
        refine (ih fourthHolds laterParts ?_ (by omega)).mono ?_
        · rw [List.map_append, List.map_append, copied]
          rfl
        · intro reached final outcome
          obtain ⟨copiedSrc, leftSrc, copiedDst, leftDst, same, split, ended, equal, fewer, kept⟩
            := outcome
          exact ⟨copiedSrc, leftSrc, copiedDst, leftDst, same, split, ended, equal,
            Nat.le_succ_of_le fewer, kept⟩
      · rw [if_neg (by rw [Ne, Ne, srcEnd, dstEnd]; exact going)]
        refine .pure ⟨passedSrc, restSrc, passedDst, restDst, rfl, parts, ?_, copied, le_rfl, holds⟩
        by_cases atEnd : restSrc = []
        · exact .inl atEnd
        · exact .inr (not_not.mp fun left => going ⟨atEnd, left⟩)

theorem assign_returns (holds : heap.Holds (shape :: others)) (member : source ∈ others)
    (enough : max shape.elements.length source.elements.length < fuel) :
    Returns (assign fuel shape.middle source.middle) heap fun _ final =>
      ∃ elements : List (Pointer × T), elements.map Prod.snd = source.values ∧
        final.Holds (⟨shape.middle, elements⟩ :: others) := by
  have inShapes : source ∈ shape :: others := List.mem_cons_of_mem _ member
  have other : shape.middle ≠ source.middle :=
    (holds.others_apart List.mem_cons_self
      (List.mem_flatMap.mpr ⟨source, member, List.mem_cons_self⟩)).symm
  rw [assign, if_neg other]
  apply (begin_returns holds List.mem_cons_self).bind
  intro firstDst atDst outcome
  obtain ⟨rfl, atDstHolds⟩ := outcome
  apply (begin_returns atDstHolds inShapes).bind
  intro firstSrc atSrc outcome
  obtain ⟨rfl, atSrcHolds⟩ := outcome
  have start : atSrc.Holds (⟨shape.middle, [] ++ shape.elements⟩ :: others) := atSrcHolds
  apply (assignFrom_returns start member (List.nil_append _).symm rfl (by omega)).bind
  intro reached copied outcome
  obtain ⟨copiedSrc, leftSrc, copiedDst, leftDst, rfl, parts, ended, same, fewer, kept⟩ := outcome
  have srcEnd : firstOf leftSrc source.middle = «end» source.middle ↔ leftSrc = [] :=
    firstOf_eq_middle kept (List.mem_cons_of_mem _ member) parts
  dsimp only
  by_cases atEnd : leftSrc = []
  · subst leftSrc
    rw [if_pos (srcEnd.mpr rfl)]
    have range : copied.Holds (⟨shape.middle, copiedDst ++ (leftDst ++ [])⟩ :: others) := by
      rw [List.append_nil]
      exact kept
    have erased := eraseRange_returns range (show leftDst.length < fuel by omega)
    rw [List.append_nil] at erased
    refine erased.bind ?_
    intro following final outcome
    obtain ⟨-, finalHolds⟩ := outcome
    rw [List.append_nil] at parts finalHolds
    refine .pure ⟨copiedDst, ?_, finalHolds⟩
    rw [same, Shape.values, parts]
  · rw [if_neg (mt srcEnd.mp atEnd)]
    have exhausted : leftDst = [] := ended.resolve_left atEnd
    subst leftDst
    have split : source.elements = copiedSrc ++ (leftSrc ++ []) := by
      rw [List.append_nil]
      exact parts
    have lengths := congrArg List.length parts
    rw [List.length_append] at lengths
    have inserted := insertRange_returns kept member split (show leftSrc.length < fuel by omega)
    rw [List.append_nil] at inserted
    refine inserted.mono ?_
    intro result final outcome
    obtain ⟨copies, equal, finalHolds⟩ := outcome
    refine ⟨copiedDst ++ copies, ?_, ?_⟩
    · rw [List.map_append, same, equal, ← List.map_append, Shape.values, parts]
    · rw [List.append_nil] at finalHolds
      exact finalHolds

end

end ToySystem.Hal.ListComm
