import Mathlib.Algebra.Ring.Nat
import ToySystem.Hal.ListRefinement
import ToySystem.Hal.MessageQueue

namespace ToySystem.Hal

open ToySystem.Data ListComm

/-! # `MessageQueue` on the list that it is made of

What threads do to a queue is a sequence of sections: `reply` has a mutex for each reply, the
others are under `mQueueMutex`.
-/

inductive Section (Message : Type) where
  | send (message : Message) (replyId : Int)
  | receive
  | size
  | isEmpty
  | remove (id : Int)
  | reply (replyId : Int) (status : Int32)

inductive Reaction (Message : Type) where
  | sending (sending : Sending)
  | received (message : Option Message)
  | number (value : Int32)
  | truth (value : Bool)
  | removed (vect : List Message)
  | replied
deriving DecidableEq, Repr

/-- A `MessageQueue` with the heap that its list is in. -/
structure QueueObject (Message : Type) where
  heap : Heap Message
  mList : Pointer
  numReply : Nat
  replyStatus : Int → Int32

section

variable {Message : Type}

def sizeLocked (fuel : Nat) (mList : Pointer) : ListCode Message Int32 := do
  return Int32.ofNat (← size fuel mList)

def isEmptyLocked (fuel : Nat) (mList : Pointer) : ListCode Message Bool := do
  return (← sizeLocked fuel mList) = 0

/-- `none` is that the caller waits. -/
def receiveLocked (fuel : Nat) (mList : Pointer) : ListCode Message (Option Message) := do
  if ← isEmptyLocked fuel mList then return none
  else
    let msg ← getRef (← getPrev («end» mList))
    let _ ← erase (← getPrev («end» mList))
    return some msg

/-- The loop of `remove`, from `it` on. -/
def removeFrom (isOf : Message → Bool) (mList : Pointer) :
    Nat → Pointer → ListCode Message (List Message)
  | 0, _ => fun _ => none
  | fuel + 1, it =>
      if it = «end» mList then return []
      else do
        let msg ← getRef it
        if isOf msg then
          let vect ← removeFrom isOf mList fuel (← erase it)
          return msg :: vect
        else removeFrom isOf mList fuel (← getNext it)

def removeLocked (isOf : Message → Bool) (fuel : Nat) (mList : Pointer) :
    ListCode Message (List Message) := do
  removeFrom isOf mList fuel (← begin mList)

/-- `mReplyStatus[replyId] = status` -/
def setReplyStatus (replyId : Int) (status : Int32) (replyStatus : Int → Int32) : Int → Int32 :=
  fun id => if id = replyId then status else replyStatus id

namespace QueueObject

def answers (object : QueueObject Message) (code : ListCode Message (Reaction Message)) :
    Option (Reaction Message × QueueObject Message) :=
  (code object.heap).map fun reached => (reached.1, { object with heap := reached.2 })

def send (message : Message) (replyId : Int) (object : QueueObject Message) :
    Option (Reaction Message × QueueObject Message) :=
  if replyId ≠ -1 ∧ object.numReply = 0 then some (.sending (.returned badValue), object)
  else (pushFront object.mList message object.heap).map fun pushed =>
    (.sending (if 0 ≤ replyId then .awaitsReply replyId else .returned errorNone), { object with
      heap := pushed.2
      replyStatus :=
        if replyId ≠ -1 then setReplyStatus replyId wouldBlock object.replyStatus
        else object.replyStatus })

def enter (idOf : Message → Int) (fuel : Nat) (entered : Section Message) :
    Code (QueueObject Message) (Reaction Message) := fun object =>
  match entered with
  | .send message replyId => object.send message replyId
  | .receive => object.answers do return .received (← receiveLocked fuel object.mList)
  | .size => object.answers do return .number (← sizeLocked fuel object.mList)
  | .isEmpty => object.answers do return .truth (← isEmptyLocked fuel object.mList)
  | .remove id => object.answers do
      return .removed (← removeLocked (fun message => idOf message = id) fuel object.mList)
  | .reply replyId status => some (.replied,
      { object with replyStatus := setReplyStatus replyId status object.replyStatus })

/-- From the constructor to the destructor. -/
def live (idOf : Message → Int) (fuel numReply : Nat) (entered : List (Section Message))
    (heap : Heap Message) : Option (List (Reaction Message) × Heap Message) := do
  let (mList, built) ← construct heap
  let (reactions, object) ← entered.mapM (enter idOf fuel)
    { heap := built, mList := mList, numReply := numReply, replyStatus _ := 0 }
  let (_, left) ← destruct fuel object.mList object.heap
  return (reactions, left)

end QueueObject

namespace MessageQueue

def reply (replyId : Int) (status : Int32) (queue : MessageQueue Message) :
    MessageQueue Message :=
  { queue with replyStatus := setReplyStatus replyId status queue.replyStatus }

/-- The elements of the list with this id are taken out. -/
def remove (isOf : Message → Bool) (queue : MessageQueue Message) :
    List Message × MessageQueue Message :=
  (queue.list.filter isOf, { queue with list := queue.list.filter fun message => !isOf message })

/-- As the code counts the list in an `int`, no more than that may wait. -/
def enter (idOf : Message → Int) (entered : Section Message) :
    Code (MessageQueue Message) (Reaction Message) := fun queue =>
  match entered with
  | .send message replyId =>
      let sent := queue.send message replyId
      some (.sending sent.2, sent.1)
  | .receive =>
      if queue.list.length < 2 ^ 32 then
        match queue.receive with
        | none => some (.received none, queue)
        | some (message, after) => some (.received (some message), after)
      else none
  | .size => some (.number (Int32.ofNat queue.list.length), queue)
  | .isEmpty =>
      if queue.list.length < 2 ^ 32 then some (.truth queue.list.isEmpty, queue) else none
  | .remove id =>
      let removal := queue.remove fun message => idOf message = id
      some (.removed removal.1, removal.2)
  | .reply replyId status => some (.replied, queue.reply replyId status)

end MessageQueue

variable {heap : Heap Message} {mList : Pointer} {elements : List (Pointer × Message)}
  {others : List (Shape Message)} {fuel : Nat}

/-- The `int` tells whether the list is empty as long as the count fits its bits. -/
theorem ofNat_eq_zero {count : Nat} (fits : count < 2 ^ 32) :
    Int32.ofNat count = 0 ↔ count = 0 := by
  constructor
  · intro same
    have bits := congrArg (fun value : Int32 => value.toBitVec.toNat) same
    have rest : count % 2 ^ 32 = 0 := by simpa using bits
    rwa [Nat.mod_eq_of_lt fits] at rest
  · rintro rfl
    rfl

theorem sizeLocked_returns (holds : heap.Holds (⟨mList, elements⟩ :: others))
    (enough : elements.length < fuel) :
    Returns (sizeLocked fuel mList) heap fun count final =>
      count = Int32.ofNat elements.length ∧ final.Holds (⟨mList, elements⟩ :: others) := by
  apply (size_returns holds List.mem_cons_self enough).bind
  intro total final outcome
  obtain ⟨rfl, kept⟩ := outcome
  rw [Shape.values_length]
  exact .pure ⟨rfl, kept⟩

theorem isEmptyLocked_returns (holds : heap.Holds (⟨mList, elements⟩ :: others))
    (enough : elements.length < fuel) (fits : elements.length < 2 ^ 32) :
    Returns (isEmptyLocked fuel mList) heap fun answer final =>
      answer = elements.isEmpty ∧ final.Holds (⟨mList, elements⟩ :: others) := by
  apply (sizeLocked_returns holds enough).bind
  intro count final outcome
  obtain ⟨rfl, kept⟩ := outcome
  refine .pure ⟨?_, kept⟩
  rw [Bool.eq_iff_iff, decide_eq_true_iff, ofNat_eq_zero fits, List.isEmpty_iff,
    List.length_eq_zero_iff]

theorem receiveLocked_none (holds : heap.Holds (⟨mList, []⟩ :: others)) (enough : 0 < fuel) :
    Returns (receiveLocked fuel mList) heap fun message final =>
      message = none ∧ final.Holds (⟨mList, []⟩ :: others) := by
  apply (isEmptyLocked_returns holds enough (Nat.two_pow_pos 32)).bind
  intro answer final outcome
  obtain ⟨rfl, kept⟩ := outcome
  exact .pure ⟨rfl, kept⟩

/-- The message that has waited longest is at the end. -/
theorem receiveLocked_last {front : List (Pointer × Message)} {last : Pointer × Message}
    (holds : heap.Holds (⟨mList, front ++ [last]⟩ :: others))
    (enough : (front ++ [last]).length < fuel) (fits : (front ++ [last]).length < 2 ^ 32) :
    Returns (receiveLocked fuel mList) heap fun message final =>
      message = some last.2 ∧ final.Holds (⟨mList, front⟩ :: others) := by
  apply (isEmptyLocked_returns holds enough fits).bind
  intro answer counted outcome
  obtain ⟨rfl, countedHolds⟩ := outcome
  have waiting : (front ++ [last]).isEmpty = false := by
    rw [List.isEmpty_eq_false_iff]
    exact List.append_ne_nil_of_right_ne_nil front (List.cons_ne_nil last [])
  rw [waiting]
  apply (decrement_returns countedHolds List.mem_cons_self rfl).bind
  intro node found outcome
  obtain ⟨rfl, foundHolds⟩ := outcome
  apply (getRef_returns foundHolds List.mem_cons_self rfl).bind
  intro message read outcome
  obtain ⟨rfl, readHolds⟩ := outcome
  apply (decrement_returns readHolds List.mem_cons_self rfl).bind
  intro node again outcome
  obtain ⟨rfl, againHolds⟩ := outcome
  apply (erase_returns againHolds).bind
  intro following final outcome
  obtain ⟨-, kept⟩ := outcome
  rw [List.append_nil] at kept
  exact .pure ⟨rfl, kept⟩

theorem removeFrom_returns {isOf : Message → Bool} {kept rest : List (Pointer × Message)}
    (holds : heap.Holds (⟨mList, kept ++ rest⟩ :: others)) (enough : rest.length < fuel) :
    Returns (removeFrom isOf mList fuel (firstOf rest mList)) heap fun vect final =>
      vect = (rest.map Prod.snd).filter isOf ∧
        ∃ left : List (Pointer × Message),
          left.map Prod.snd = (rest.map Prod.snd).filter (fun message => !isOf message) ∧
          final.Holds (⟨mList, kept ++ left⟩ :: others) := by
  induction fuel generalizing heap kept rest with
  | zero => omega
  | succ fuel ih =>
      have ended : firstOf rest mList = «end» mList ↔ rest = [] :=
        firstOf_eq_middle holds List.mem_cons_self rfl
      rw [removeFrom]
      cases rest with
      | nil =>
          rw [if_pos (ended.mpr rfl)]
          exact .pure ⟨rfl, [], rfl, holds⟩
      | cons element rest =>
          rw [if_neg (mt ended.mp (List.cons_ne_nil element rest))]
          rw [List.length_cons] at enough
          apply (getRef_returns holds List.mem_cons_self rfl).bind
          intro message read outcome
          obtain ⟨rfl, readHolds⟩ := outcome
          rw [List.map_cons]
          by_cases mine : isOf element.2 = true
          · rw [if_pos mine, List.filter_cons_of_pos mine, List.filter_cons_of_neg (by simp [mine])]
            apply (erase_returns readHolds).bind
            intro following erased outcome
            obtain ⟨rfl, erasedHolds⟩ := outcome
            apply (ih erasedHolds (by omega)).bind
            intro vect final outcome
            obtain ⟨rfl, left, same, finalHolds⟩ := outcome
            exact .pure ⟨rfl, left, same, finalHolds⟩
          · rw [if_neg mine, List.filter_cons_of_neg mine, List.filter_cons_of_pos (by simp [mine])]
            apply (increment_returns readHolds List.mem_cons_self rfl).bind
            intro following walked outcome
            obtain ⟨rfl, walkedHolds⟩ := outcome
            rw [List.append_cons] at walkedHolds
            apply (ih walkedHolds (by omega)).mono
            intro vect final outcome
            obtain ⟨rfl, left, same, finalHolds⟩ := outcome
            rw [List.append_assoc] at finalHolds
            refine ⟨rfl, element :: left, ?_, finalHolds⟩
            rw [List.map_cons, same]

theorem removeLocked_returns {isOf : Message → Bool}
    (holds : heap.Holds (⟨mList, elements⟩ :: others)) (enough : elements.length < fuel) :
    Returns (removeLocked isOf fuel mList) heap fun vect final =>
      vect = (elements.map Prod.snd).filter isOf ∧
        ∃ left : List (Pointer × Message),
          left.map Prod.snd = (elements.map Prod.snd).filter (fun message => !isOf message) ∧
          final.Holds (⟨mList, left⟩ :: others) := by
  apply (begin_returns holds List.mem_cons_self).bind
  intro first started outcome
  obtain ⟨rfl, startedHolds⟩ := outcome
  have whole : started.Holds (⟨mList, [] ++ elements⟩ :: others) := startedHolds
  exact removeFrom_returns whole enough

theorem QueueObject.answers_returns {object : QueueObject Message}
    {entered : Code (QueueObject Message) (Reaction Message)}
    {code : ListCode Message (Reaction Message)}
    {post : Reaction Message → QueueObject Message → Prop}
    (same : entered object = object.answers code)
    (returns : Returns code object.heap fun reaction heap =>
      post reaction { object with heap := heap }) : Returns entered object post := by
  obtain ⟨reaction, heap, ran, holds⟩ := returns
  refine .of_eq ?_ holds
  rw [same, QueueObject.answers, ran]
  rfl

/-- The object holds this queue, and the heap nothing but its list. -/
structure QueueObject.Holds (object : QueueObject Message) (queue : MessageQueue Message) :
    Prop where
  list : ∃ elements : List (Pointer × Message), elements.map Prod.snd = queue.list ∧
    object.heap.Holds [⟨object.mList, elements⟩]
  numReply : object.numReply = queue.numReply
  replyStatus : object.replyStatus = queue.replyStatus

section

variable (idOf : Message → Int)

def SectionRefined (entered : Section Message) : Prop :=
  Simulates QueueObject.Holds (fun fuel => QueueObject.enter idOf fuel entered)
    (MessageQueue.enter idOf entered)

theorem send_refined (message : Message) (replyId : Int) :
    SectionRefined idOf (.send message replyId) := by
  rintro queue result after ran
  cases ran
  refine ⟨0, fun fuel _ object holds => ?_⟩
  obtain ⟨⟨elements, values, listHolds⟩, numReply, replyStatus⟩ := holds
  by_cases misused : replyId ≠ -1 ∧ queue.numReply = 0
  · have refused : object.send message replyId = some (.sending (.returned badValue), object) := by
      rw [QueueObject.send, numReply, if_pos misused]
    rw [MessageQueue.send, if_pos misused]
    exact .of_eq refused ⟨rfl, ⟨elements, values, listHolds⟩, numReply, replyStatus⟩
  · obtain ⟨node, heap, pushed, kept⟩ := pushFront_returns listHolds message
    have sent : object.send message replyId = some
        (.sending (if 0 ≤ replyId then .awaitsReply replyId else .returned errorNone), { object with
          heap := heap
          replyStatus :=
            if replyId ≠ -1 then setReplyStatus replyId wouldBlock object.replyStatus
            else object.replyStatus }) := by
      rw [QueueObject.send, numReply, if_neg misused, pushed]
      rfl
    have longer : ((node, message) :: elements).map Prod.snd = message :: queue.list := by
      rw [List.map_cons, values]
    rw [MessageQueue.send, if_neg misused]
    refine .of_eq sent ⟨rfl, ?_⟩
    by_cases expects : replyId ≠ -1
    · simp only [if_pos expects]
      refine ⟨⟨_, longer, kept⟩, numReply, ?_⟩
      rw [replyStatus]
      rfl
    · simp only [if_neg expects]
      exact ⟨⟨_, longer, kept⟩, numReply, replyStatus⟩

theorem receive_refined : SectionRefined idOf .receive := by
  intro queue result after ran
  simp only [MessageQueue.enter, Option.ite_none_right_eq_some] at ran
  obtain ⟨fits, taken⟩ := ran
  refine ⟨queue.list.length, fun fuel enough object holds => ?_⟩
  obtain ⟨⟨elements, values, listHolds⟩, numReply, replyStatus⟩ := holds
  refine QueueObject.answers_returns rfl ?_
  rcases List.eq_nil_or_concat' elements with rfl | ⟨front, last, rfl⟩
  · have empty : queue.receive = none := by
      rw [MessageQueue.receive, ← values]
      rfl
    rw [empty] at taken
    cases taken
    apply (receiveLocked_none listHolds (by omega)).bind
    intro message heap outcome
    obtain ⟨rfl, kept⟩ := outcome
    exact .pure ⟨rfl, ⟨[], values, kept⟩, numReply, replyStatus⟩
  · have nonempty : queue.receive = some (last.2, { queue with list := front.map Prod.snd }) := by
      rw [MessageQueue.receive, ← values, List.map_append, List.map_singleton,
        List.getLast?_concat, List.dropLast_concat]
      rfl
    rw [nonempty] at taken
    cases taken
    rw [← values, List.length_map] at enough fits
    apply (receiveLocked_last listHolds enough fits).bind
    intro message heap outcome
    obtain ⟨rfl, kept⟩ := outcome
    exact .pure ⟨rfl, ⟨front, rfl, kept⟩, numReply, replyStatus⟩

theorem isEmpty_refined : SectionRefined idOf .isEmpty := by
  intro queue result after ran
  simp only [MessageQueue.enter, Option.ite_none_right_eq_some] at ran
  obtain ⟨fits, same⟩ := ran
  cases same
  refine ⟨queue.list.length, fun fuel enough object holds => ?_⟩
  obtain ⟨⟨elements, values, listHolds⟩, numReply, replyStatus⟩ := holds
  rw [← values, List.length_map] at enough fits
  refine QueueObject.answers_returns rfl ?_
  apply (isEmptyLocked_returns listHolds enough fits).bind
  intro answer heap outcome
  obtain ⟨rfl, kept⟩ := outcome
  rw [← values, List.isEmpty_map]
  exact .pure ⟨rfl, ⟨elements, values, kept⟩, numReply, replyStatus⟩

theorem remove_refined (id : Int) : SectionRefined idOf (.remove id) := by
  intro queue result after ran
  cases ran
  refine ⟨queue.list.length, fun fuel enough object holds => ?_⟩
  obtain ⟨⟨elements, values, listHolds⟩, numReply, replyStatus⟩ := holds
  rw [← values, List.length_map] at enough
  refine QueueObject.answers_returns rfl ?_
  apply (removeLocked_returns listHolds enough).bind
  intro vect heap outcome
  obtain ⟨rfl, left, same, kept⟩ := outcome
  rw [values] at same ⊢
  exact .pure ⟨rfl, ⟨left, same, kept⟩, numReply, replyStatus⟩

theorem reply_refined (replyId : Int) (status : Int32) :
    SectionRefined idOf (.reply replyId status) := by
  intro queue result after ran
  cases ran
  refine ⟨0, fun fuel _ object ⟨list, numReply, replyStatus⟩ => ?_⟩
  refine .of_eq rfl ⟨rfl, list, numReply, ?_⟩
  rw [MessageQueue.reply, replyStatus]

theorem size_refined : SectionRefined idOf .size := by
  rintro queue result after ran
  cases ran
  refine ⟨queue.list.length, fun fuel enough object holds => ?_⟩
  obtain ⟨elements, values, listHolds⟩ := holds.list
  rw [← values, List.length_map] at enough ⊢
  refine QueueObject.answers_returns rfl ?_
  apply (sizeLocked_returns listHolds enough).bind
  intro count heap outcome
  obtain ⟨rfl, kept⟩ := outcome
  exact .pure ⟨rfl, ⟨elements, values, kept⟩, holds.numReply, holds.replyStatus⟩

theorem enter_refined (entered : Section Message) : SectionRefined idOf entered := by
  cases entered with
  | send message replyId => exact send_refined idOf message replyId
  | receive => exact receive_refined idOf
  | size => exact size_refined idOf
  | isEmpty => exact isEmpty_refined idOf
  | remove id => exact remove_refined idOf id
  | reply replyId status => exact reply_refined idOf replyId status

/-- Whatever threads do to a queue, in whatever order, they see one that is nothing but its
messages; and the queue leaves nothing behind. -/
theorem queue_refines (heap : Heap Message) (fresh : heap.log = []) (numReply : Nat)
    {entered : List (Section Message)} {reactions : List (Reaction Message)}
    {queue : MessageQueue Message}
    (ran : entered.mapM (MessageQueue.enter idOf) (.new numReply) = some (reactions, queue)) :
    ∃ enough, ∀ fuel, enough < fuel → ∃ left,
      QueueObject.live idOf fuel numReply entered heap = some (reactions, left) ∧
      balance left.log = some [] := by
  obtain ⟨enough, simulated⟩ := Simulates.mapM (enter_refined idOf) entered _ _ _ ran
  refine ⟨max enough queue.list.length, fun fuel more => ?_⟩
  have nothing : heap.Holds [] := by
    refine ⟨nofun, List.nodup_nil, ?_⟩
    rw [fresh]
    exact .empty
  obtain ⟨mList, built, constructed, builtHolds⟩ := prep_returns nothing
  have start : QueueObject.Holds
      { heap := built, mList := mList, numReply := numReply, replyStatus _ := 0 }
      (MessageQueue.new numReply) := ⟨⟨[], rfl, builtHolds⟩, rfl, rfl⟩
  obtain ⟨results, object, returned, rfl, ⟨elements, values, listHolds⟩, -⟩ :=
    simulated fuel (by omega) _ start
  have fits : elements.length < fuel := by
    rw [← values, List.length_map] at more
    omega
  obtain ⟨done, left, destroyed, gone⟩ := destruct_returns listHolds fits
  obtain ⟨held, worked, order⟩ := gone.balanced
  refine ⟨left, ?_, ?_⟩
  · have built : construct heap = some (mList, built) := constructed
    simp only [QueueObject.live, built, Option.bind_eq_bind, Option.bind_some, returned, destroyed]
    rfl
  · rw [worked, List.perm_nil.mp order]

end

end

/-- A message that its sender waits for is removed, and the sender is told so. -/
def sampleSections : List (Section (Int × Nat)) :=
  [.receive, .send (2, 10) (-1), .send (1, 20) (-1), .send (2, 30) 2, .size, .isEmpty, .receive,
    .remove 2, .reply 2 (-38), .receive, .isEmpty, .send (1, 40) (-1)]

def sampleReactions : List (Reaction (Int × Nat)) :=
  [.received none, .sending (.returned errorNone), .sending (.returned errorNone),
    .sending (.awaitsReply 2), .number 3, .truth false, .received (some (2, 10)),
    .removed [(2, 30)], .replied, .received (some (1, 20)), .truth true,
    .sending (.returned errorNone)]

theorem sampleSections_refined : ∃ enough, ∀ fuel, enough < fuel → ∃ left,
    QueueObject.live Prod.fst fuel 3 sampleSections ⟨topmost, fun _ => (0, 0), id, id, []⟩ =
      some (sampleReactions, left) ∧ balance left.log = some [] := by
  have ran : ∃ queue, sampleSections.mapM (MessageQueue.enter Prod.fst) (.new 3) =
      some (sampleReactions, queue) := ⟨_, rfl⟩
  obtain ⟨queue, ran⟩ := ran
  exact queue_refines Prod.fst _ rfl 3 ran

end ToySystem.Hal
