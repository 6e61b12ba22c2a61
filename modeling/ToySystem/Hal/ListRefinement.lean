import ToySystem.Hal.ListClients

namespace ToySystem.Hal.ListComm

open ToySystem.Data

/-! # The lists in a heap refine sequences of values -/

section

variable {T : Type} {client : Client T} {store after : Store T} {names : List Name}
  {shapeOf : Name → Shape T} {values : List T} {place start stop : Place} {it first last : Iterator}
  {post : Answer T → Client T → Prop} {call : Code (Client T) (Answer T)}

theorem answers_returns {code : ListCode T (Answer T)}
    (same : call client = client.answers code)
    (returns : Returns code client.heap fun answer heap => post answer (client.setHeap heap)) :
    Returns call client post := by
  obtain ⟨answer, heap, ran, holds⟩ := returns
  refine .of_eq ?_ holds
  rw [same, Client.answers, ran]
  rfl

theorem assigns_returns {code : ListCode T Pointer} (same : call client = client.assigns it code)
    (returns : Returns code client.heap fun mpNode heap =>
      post .done ((client.setHeap heap).setIterator it mpNode)) :
    Returns call client post := by
  obtain ⟨mpNode, heap, ran, holds⟩ := returns
  refine .of_eq ?_ holds
  rw [same, Client.assigns, ran]
  rfl

theorem constructs_returns {name : Name} {code : ListCode T Pointer}
    (same : call client = client.constructs name code)
    (returns : Returns code client.heap fun mpMiddle heap =>
      post .done ((client.setHeap heap).setList name mpMiddle)) :
    Returns call client post := by
  obtain ⟨mpMiddle, heap, ran, holds⟩ := returns
  refine .of_eq ?_ holds
  rw [same, Client.constructs, ran]
  rfl

/-- The call does to the lists in the heap what it does to the sequences. -/
def Refined (call : Call T) : Prop :=
  Simulates Client.Represents (fun fuel => Client.call fuel call) (Store.call call)

theorem construct_refined (list : Name) : Refined (T := T) (.construct list) := by
  intro store result after ran
  simp only [Store.call, Option.ite_none_left_eq_some] at ran
  obtain ⟨absent, same⟩ := ran
  cases same
  refine ⟨0, fun fuel _ client ⟨names, shapeOf, shows⟩ => constructs_returns rfl ?_⟩
  apply (prep_returns shows.holds).mono
  intro mpMiddle heap holds
  exact ⟨rfl, _, _, shows.construct (shows.dead absent) holds⟩

theorem copyConstruct_refined (list src : Name) : Refined (T := T) (.copyConstruct list src) := by
  intro store result after ran
  obtain ⟨values, found, rest⟩ := Option.bind_eq_some_iff.mp ran
  simp only [Option.ite_none_left_eq_some] at rest
  obtain ⟨absent, same⟩ := rest
  cases same
  refine ⟨values.length, fun fuel enough client ⟨names, shapeOf, shows⟩ => ?_⟩
  obtain ⟨member, rfl, middle⟩ := shows.live found
  refine constructs_returns rfl ?_
  rw [middle]
  refine (copyConstruct_returns shows.holds (List.mem_map_of_mem member) ?_).mono ?_
  · rwa [Shape.values_length] at enough
  · intro mpMiddle heap outcome
    obtain ⟨copies, same, holds⟩ := outcome
    rw [← same]
    exact ⟨rfl, _, _, shows.construct (shows.dead absent) holds⟩

/-- The calls on one list, which is seen first. -/
theorem list_refined {call : Call T} {list : Name} {spec : Store T → List T → Answer T × Store T}
    (specified : ∀ store, Store.call call store =
      (store.lists list).bind fun values => some (spec store values))
    (does : ∀ fuel client rest shapeOf store, client.Shows (list :: rest) shapeOf store →
      (shapeOf list).elements.length < fuel → client.lists list = (shapeOf list).middle →
      Returns (Client.call fuel call) client fun answer final =>
        answer = (spec store (shapeOf list).values).1 ∧
          final.Represents (spec store (shapeOf list).values).2) : Refined call := by
  intro store result after ran
  rw [specified] at ran
  obtain ⟨values, found, same⟩ := Option.bind_eq_some_iff.mp ran
  refine ⟨values.length, fun fuel enough client ⟨names, shapeOf, shows⟩ => ?_⟩
  obtain ⟨member, rfl, middle⟩ := shows.live found
  obtain ⟨rest, -, -, shows⟩ := shows.front member
  rw [Shape.values_length] at enough
  have returns := does fuel client rest shapeOf store shows enough middle
  rw [Option.some.inj same] at returns
  exact returns

theorem destruct_refined (list : Name) : Refined (T := T) (.destruct list) := by
  apply list_refined fun store => rfl
  intro fuel client rest shapeOf store shows enough middle
  refine answers_returns rfl ?_
  rw [middle]
  apply (destruct_returns shows.holds enough).bind
  intro result heap holds
  exact .pure ⟨rfl, rest, shapeOf, shows.discard holds⟩

theorem empty_refined (list : Name) : Refined (T := T) (.empty list) := by
  apply list_refined fun store => rfl
  intro fuel client rest shapeOf store shows enough middle
  refine answers_returns rfl ?_
  rw [middle]
  apply (empty_returns shows.holds List.mem_cons_self).bind
  intro answer heap outcome
  obtain ⟨rfl, holds⟩ := outcome
  exact .pure ⟨rfl, _, shapeOf, shows.read holds⟩

theorem size_refined (list : Name) : Refined (T := T) (.size list) := by
  apply list_refined fun store => rfl
  intro fuel client rest shapeOf store shows enough middle
  refine answers_returns rfl ?_
  rw [middle]
  apply (size_returns shows.holds List.mem_cons_self enough).bind
  intro total heap outcome
  obtain ⟨rfl, holds⟩ := outcome
  exact .pure ⟨rfl, _, shapeOf, shows.read holds⟩

theorem pushFront_refined (list : Name) (val : T) : Refined (.pushFront list val) := by
  apply list_refined fun store => rfl
  intro fuel client rest shapeOf store shows enough middle
  refine answers_returns rfl ?_
  rw [middle]
  apply (pushFront_returns (shows.split rfl) val).bind
  intro node heap holds
  have parts : (shapeOf list).elements = [] ++ ([] ++ (shapeOf list).elements) := rfl
  exact .pure ⟨rfl, _, _, shows.splice [(node, val)] parts holds⟩

theorem pushBack_refined (list : Name) (val : T) : Refined (.pushBack list val) := by
  apply list_refined fun store => rfl
  intro fuel client rest shapeOf store shows enough middle
  refine answers_returns rfl ?_
  rw [middle]
  apply (pushBack_returns (shows.split rfl) val).bind
  intro node heap holds
  have parts : (shapeOf list).elements = (shapeOf list).elements ++ ([] ++ []) := by
    rw [List.append_nil, List.append_nil]
  have spliced := shows.splice [(node, val)] parts holds
  rw [← Shape.values_length] at spliced
  exact .pure ⟨rfl, _, _, spliced⟩

theorem clear_refined (list : Name) : Refined (T := T) (.clear list) := by
  apply list_refined fun store => rfl
  intro fuel client rest shapeOf store shows enough middle
  refine answers_returns rfl ?_
  rw [middle]
  apply (clear_returns shows.holds enough).bind
  intro result heap holds
  have parts : (shapeOf list).elements = [] ++ ((shapeOf list).elements ++ []) := by
    rw [List.append_nil, List.nil_append]
  have spliced := shows.splice [] parts holds
  rw [← Shape.values_length] at spliced
  exact .pure ⟨rfl, _, _, spliced⟩

theorem assign_refined (list right : Name) : Refined (T := T) (.assign list right) := by
  intro store result after ran
  obtain ⟨values, found, next⟩ := Option.bind_eq_some_iff.mp ran
  obtain ⟨others, foundRight, same⟩ := Option.bind_eq_some_iff.mp next
  cases same
  refine ⟨max values.length others.length, fun fuel enough client ⟨names, shapeOf, shows⟩ => ?_⟩
  obtain ⟨member, rfl, middle⟩ := shows.live found
  obtain ⟨memberRight, rfl, middleRight⟩ := shows.live foundRight
  refine answers_returns rfl ?_
  by_cases self : list = right
  · subst right
    rw [if_pos rfl, assign, if_pos rfl]
    exact .pure ⟨rfl, names, shapeOf, shows⟩
  · rw [if_neg self, middle, middleRight]
    obtain ⟨rest, -, others, shows⟩ := shows.front member
    rw [Shape.values_length, Shape.values_length] at enough
    have inOthers := List.mem_map_of_mem (f := shapeOf) (others right memberRight (Ne.symm self))
    apply (assign_returns shows.holds inOthers enough).bind
    intro result heap outcome
    obtain ⟨elements, same, holds⟩ := outcome
    rw [← List.append_nil elements] at holds
    have parts : (shapeOf list).elements = [] ++ ((shapeOf list).elements ++ []) := by
      rw [List.append_nil, List.nil_append]
    rw [← same, Shape.values_length]
    exact .pure ⟨rfl, _, _, shows.splice elements parts holds⟩

theorem begin_refined (it : Iterator) (list : Name) : Refined (T := T) (.begin it list) := by
  apply list_refined fun store => rfl
  intro fuel client rest shapeOf store shows enough middle
  refine assigns_returns rfl ?_
  rw [middle]
  apply (begin_returns shows.holds List.mem_cons_self).mono
  intro mpNode heap outcome
  obtain ⟨rfl, holds⟩ := outcome
  have parts : (shapeOf list).elements = [] ++ (shapeOf list).elements := rfl
  exact ⟨rfl, _, shapeOf, (shows.read holds).setIterator it List.mem_cons_self parts⟩

theorem end_refined (it : Iterator) (list : Name) : Refined (T := T) (.end it list) := by
  apply list_refined fun store => rfl
  intro fuel client rest shapeOf store shows enough middle
  refine assigns_returns rfl ?_
  rw [middle]
  have placed := shows.setIterator it List.mem_cons_self (List.append_nil _).symm
  rw [← Shape.values_length] at placed
  exact .pure ⟨rfl, _, shapeOf, placed⟩

theorem copy_refined (it rhs : Iterator) : Refined (T := T) (.copy it rhs) := by
  intro store result after ran
  obtain ⟨⟨⟨list, index⟩, values⟩, found, same⟩ := Option.bind_eq_some_iff.mp ran
  cases same
  refine ⟨0, fun fuel _ client ⟨names, shapeOf, shows⟩ => ?_⟩
  obtain ⟨member, -, before, after, parts, rfl, pointer⟩ := shows.reached found
  refine assigns_returns rfl ?_
  rw [pointer]
  exact .pure ⟨rfl, names, shapeOf, shows.setIterator it member parts⟩

theorem increment_refined (it : Iterator) : Refined (T := T) (.increment it) := by
  intro store result after ran
  obtain ⟨⟨⟨list, index⟩, values⟩, found, same⟩ := Option.bind_eq_some_iff.mp ran
  cases same
  refine ⟨0, fun fuel _ client ⟨names, shapeOf, shows⟩ => ?_⟩
  obtain ⟨member, -, before, element, after, parts, rfl, pointer⟩ := shows.followed found
  refine assigns_returns rfl ?_
  rw [pointer]
  apply (increment_returns shows.holds (List.mem_map_of_mem member) parts).mono
  intro mpNode heap outcome
  obtain ⟨rfl, holds⟩ := outcome
  have later := parts.trans (List.append_cons before element after)
  have placed := (shows.read holds).setIterator it member later
  rw [List.length_append] at placed
  exact ⟨rfl, names, shapeOf, placed⟩

theorem decrement_refined (it : Iterator) : Refined (T := T) (.decrement it) := by
  intro store result after ran
  obtain ⟨⟨⟨list, index⟩, values⟩, found, next⟩ := Option.bind_eq_some_iff.mp ran
  simp only [Option.ite_none_left_eq_some] at next
  obtain ⟨inner, same⟩ := next
  cases same
  refine ⟨0, fun fuel _ client ⟨names, shapeOf, shows⟩ => ?_⟩
  obtain ⟨member, -, before, after, parts, rfl, pointer⟩ := shows.reached found
  obtain ⟨front, element, rfl⟩ := (List.eq_nil_or_concat' before).resolve_left
    fun none => inner (congrArg List.length none)
  refine assigns_returns rfl ?_
  rw [pointer]
  have earlier : (shapeOf list).elements = front ++ element :: after :=
    parts.trans (List.append_cons front element after).symm
  apply (decrement_returns shows.holds (List.mem_map_of_mem member) earlier).mono
  intro mpNode heap outcome
  obtain ⟨rfl, holds⟩ := outcome
  have placed := (shows.read holds).setIterator it member earlier
  have length : (front ++ [element]).length - 1 = front.length := by
    rw [List.length_append, List.length_singleton, Nat.add_sub_cancel]
  rw [length]
  exact ⟨rfl, names, shapeOf, placed⟩

theorem equal_refined (it right : Iterator) : Refined (T := T) (.equal it right) := by
  intro store result after ran
  obtain ⟨⟨⟨list, index⟩, values⟩, found, next⟩ := Option.bind_eq_some_iff.mp ran
  obtain ⟨⟨⟨other, place⟩, others⟩, foundRight, last⟩ := Option.bind_eq_some_iff.mp next
  simp only [Option.ite_none_right_eq_some] at last
  obtain ⟨one, same⟩ := last
  cases same
  refine ⟨0, fun fuel _ client ⟨names, shapeOf, shows⟩ => ?_⟩
  obtain ⟨member, -, before, after, parts, rfl, pointer⟩ := shows.reached found
  obtain ⟨-, -, front, rest, split, rfl, place⟩ := shows.reached foundRight
  subst other
  have inHeap := shows.holds.each _ (List.mem_map_of_mem member)
  have same : client.iterators it = client.iterators right ↔ before.length = front.length := by
    rw [pointer, place, ← Shape.pointer_of_parts parts, ← Shape.pointer_of_parts split]
    refine Shape.pointer_inj inHeap ?_ ?_
    · rw [Shape.values_length, parts, List.length_append]
      exact Nat.le_add_right ..
    · rw [Shape.values_length, split, List.length_append]
      exact Nat.le_add_right ..
  refine answers_returns rfl (.pure ⟨?_, names, shapeOf, shows⟩)
  rw [decide_eq_decide.mpr same]

theorem distance_refined (first last : Iterator) : Refined (T := T) (.distance first last) := by
  intro store result after ran
  obtain ⟨⟨start, stop, values⟩, found, same⟩ := Option.bind_eq_some_iff.mp ran
  cases same
  refine ⟨stop.index - start.index, fun fuel enough client ⟨names, shapeOf, shows⟩ => ?_⟩
  obtain ⟨member, -, before, range, after, parts, -, length, begun, ended⟩ := shows.ranged found
  rw [← length] at enough ⊢
  refine answers_returns rfl ?_
  rw [begun, ended]
  have inShapes := List.mem_map_of_mem (f := shapeOf) member
  apply (distance_returns shows.holds inShapes parts enough 0).bind
  intro total heap outcome
  obtain ⟨rfl, holds⟩ := outcome
  rw [Nat.zero_add]
  exact .pure ⟨rfl, names, shapeOf, shows.read holds⟩

theorem read_refined (it : Iterator) : Refined (T := T) (.read it) := by
  intro store result after ran
  obtain ⟨⟨⟨list, index⟩, values⟩, found, next⟩ := Option.bind_eq_some_iff.mp ran
  obtain ⟨val, atPlace, same⟩ := Option.bind_eq_some_iff.mp next
  cases same
  refine ⟨0, fun fuel _ client ⟨names, shapeOf, shows⟩ => ?_⟩
  obtain ⟨member, rfl, before, element, after, parts, rfl, pointer⟩ := shows.followed found
  have value : val = element.2 := by
    rw [Shape.values, List.getElem?_map, parts, List.getElem?_append_right le_rfl,
      Nat.sub_self] at atPlace
    exact (Option.some.inj atPlace).symm
  subst val
  refine answers_returns rfl ?_
  rw [pointer]
  apply (getRef_returns shows.holds (List.mem_map_of_mem member) parts).bind
  intro ref heap outcome
  obtain ⟨rfl, holds⟩ := outcome
  exact .pure ⟨rfl, names, shapeOf, shows.read holds⟩

theorem write_refined (it : Iterator) (val : T) : Refined (.write it val) := by
  intro store result after ran
  obtain ⟨⟨⟨list, index⟩, values⟩, found, same⟩ := Option.bind_eq_some_iff.mp ran
  cases same
  refine ⟨0, fun fuel _ client ⟨names, shapeOf, shows⟩ => ?_⟩
  obtain ⟨member, rfl, before, element, after, parts, rfl, pointer⟩ := shows.followed found
  obtain ⟨rest, -, -, shows⟩ := shows.front member
  refine answers_returns rfl ?_
  rw [pointer]
  apply (setVal_returns (shows.split parts) val).bind
  intro result heap holds
  exact .pure ⟨rfl, _, _, shows.write parts holds⟩

theorem insert_refined (it posn : Iterator) (val : T) : Refined (.insert it posn val) := by
  intro store result after ran
  obtain ⟨⟨⟨list, index⟩, values⟩, found, same⟩ := Option.bind_eq_some_iff.mp ran
  cases same
  refine ⟨0, fun fuel _ client ⟨names, shapeOf, shows⟩ => ?_⟩
  obtain ⟨member, rfl, before, after, parts, rfl, pointer⟩ := shows.reached found
  obtain ⟨rest, -, -, shows⟩ := shows.front member
  refine assigns_returns rfl ?_
  rw [pointer]
  apply (insert_returns (shows.split parts) val).mono
  intro node heap holds
  have none : (shapeOf list).elements = before ++ ([] ++ after) := parts
  exact ⟨rfl, _, _, shows.spliceIterator it [(node, val)] none holds⟩

theorem erase_refined (it posn : Iterator) : Refined (T := T) (.erase it posn) := by
  intro store result after ran
  obtain ⟨⟨⟨list, index⟩, values⟩, found, same⟩ := Option.bind_eq_some_iff.mp ran
  cases same
  refine ⟨0, fun fuel _ client ⟨names, shapeOf, shows⟩ => ?_⟩
  obtain ⟨member, rfl, before, element, after, parts, rfl, pointer⟩ := shows.followed found
  obtain ⟨rest, -, -, shows⟩ := shows.front member
  refine assigns_returns rfl ?_
  rw [pointer]
  apply (erase_returns (shows.split parts)).mono
  intro following heap outcome
  obtain ⟨rfl, holds⟩ := outcome
  have one : (shapeOf list).elements = before ++ ([element] ++ after) := parts
  exact ⟨rfl, _, _, shows.spliceIterator it [] one holds⟩

theorem eraseRange_refined (it first last : Iterator) :
    Refined (T := T) (.eraseRange it first last) := by
  intro store result after ran
  obtain ⟨⟨⟨list, index⟩, stop, values⟩, found, same⟩ := Option.bind_eq_some_iff.mp ran
  cases same
  refine ⟨stop.index - index, fun fuel enough client ⟨names, shapeOf, shows⟩ => ?_⟩
  obtain ⟨member, rfl, before, range, after, parts, rfl, length, begun, ended⟩ :=
    shows.ranged found
  obtain ⟨rest, -, -, shows⟩ := shows.front member
  dsimp only at length ⊢
  rw [← length] at enough ⊢
  refine assigns_returns rfl ?_
  rw [begun, ended]
  apply (eraseRange_returns (shows.split parts) enough).mono
  intro following heap outcome
  obtain ⟨rfl, holds⟩ := outcome
  exact ⟨rfl, _, _, shows.spliceIterator it [] parts holds⟩

theorem insertRange_refined (posn first last : Iterator) :
    Refined (T := T) (.insertRange posn first last) := by
  intro store result after ran
  obtain ⟨⟨⟨list, index⟩, values⟩, found, next⟩ := Option.bind_eq_some_iff.mp ran
  obtain ⟨⟨start, stop, sources⟩, enclosed, inner⟩ := Option.bind_eq_some_iff.mp next
  simp only [Option.ite_none_left_eq_some] at inner
  obtain ⟨other, same⟩ := inner
  cases same
  refine ⟨stop.index - start.index, fun fuel enough client ⟨names, shapeOf, shows⟩ => ?_⟩
  obtain ⟨member, rfl, before, after, parts, rfl, pointer⟩ := shows.reached found
  obtain ⟨source, rfl, passed, range, beyond, cut, begins, length, begun, ended⟩ :=
    shows.ranged enclosed
  obtain ⟨rest, -, others, shows⟩ := shows.front member
  have inOthers := List.mem_map_of_mem (f := shapeOf) (others start.list source other)
  have copied : ((shapeOf start.list).values.drop start.index).take (stop.index - start.index) =
      range.map Prod.snd := by
    have skipped : (passed.map Prod.snd).length = start.index := by rw [List.length_map, begins]
    have taken : (range.map Prod.snd).length = stop.index - start.index := by
      rw [List.length_map, length]
    rw [Shape.values, cut, List.map_append, List.map_append, List.drop_left' skipped,
      List.take_left' taken]
  rw [← length] at enough
  rw [copied]
  refine answers_returns rfl ?_
  rw [pointer, begun, ended]
  apply (insertRange_returns (shows.split parts) inOthers cut enough).bind
  intro result heap outcome
  obtain ⟨copies, same, holds⟩ := outcome
  rw [← same]
  have none : (shapeOf list).elements = before ++ ([] ++ after) := parts
  exact .pure ⟨rfl, _, _, shows.splice copies none holds⟩

theorem call_refined (call : Call T) : Refined call := by
  cases call with
  | construct list => exact construct_refined list
  | copyConstruct list src => exact copyConstruct_refined list src
  | destruct list => exact destruct_refined list
  | assign list right => exact assign_refined list right
  | empty list => exact empty_refined list
  | size list => exact size_refined list
  | pushFront list val => exact pushFront_refined list val
  | pushBack list val => exact pushBack_refined list val
  | clear list => exact clear_refined list
  | begin it list => exact begin_refined it list
  | «end» it list => exact end_refined it list
  | copy it rhs => exact copy_refined it rhs
  | increment it => exact increment_refined it
  | decrement it => exact decrement_refined it
  | equal it right => exact equal_refined it right
  | distance first last => exact distance_refined first last
  | read it => exact read_refined it
  | write it val => exact write_refined it val
  | insert it posn val => exact insert_refined it posn val
  | insertRange posn first last => exact insertRange_refined posn first last
  | erase it posn => exact erase_refined it posn
  | eraseRange it first last => exact eraseRange_refined it first last

theorem Client.represents_empty (client : Client T) (fresh : client.heap.log = []) :
    client.Represents Store.empty := by
  refine ⟨[], fun _ => ⟨0, []⟩, List.nodup_nil, ⟨?_, List.nodup_nil, ?_⟩, ?_, ?_, ?_⟩
  · intro shape member
    cases member
  · rw [fresh]
    exact .empty
  · intro name member
    cases member
  · intro name
    rfl
  · intro it place found
    cases found

/-- What is held is what the lists need. -/
theorem Client.Represents.balance_isSome {client : Client T}
    (represents : client.Represents store) : (balance client.heap.log).isSome := by
  obtain ⟨names, shapeOf, shows⟩ := represents
  obtain ⟨held, worked, -⟩ := shows.holds.balanced
  rw [worked]
  rfl

theorem Client.Represents.balance_eq_nil {client : Client T} (represents : client.Represents store)
    (gone : ∀ name, store.lists name = none) : balance client.heap.log = some [] := by
  obtain ⟨names, shapeOf, shows⟩ := represents
  have none : names = [] := by
    refine List.eq_nil_iff_forall_not_mem.mpr ?_
    intro name member
    have known := shows.lists name
    rw [gone name, if_pos member] at known
    cases known
  subst none
  obtain ⟨held, worked, order⟩ := shows.holds.balanced
  rw [worked, List.perm_nil.mp order]

/-- Whatever users do that they may, they see sequences of values, the code touches only what
is there, and nothing is left when the lists are gone. -/
theorem lists_refine (client : Client T) (fresh : client.heap.log = []) {calls : List (Call T)}
    {answers : List (Answer T)} {store : Store T}
    (ran : calls.mapM Store.call Store.empty = some (answers, store)) :
    ∃ enough, ∀ fuel, enough < fuel → ∃ final,
      calls.mapM (Client.call fuel) client = some (answers, final) ∧
      (balance final.heap.log).isSome ∧
      ((∀ name, store.lists name = none) → balance final.heap.log = some []) := by
  obtain ⟨enough, simulated⟩ := Simulates.mapM call_refined calls _ _ _ ran
  refine ⟨enough, fun fuel more => ?_⟩
  obtain ⟨results, final, returned, rfl, represents⟩ :=
    simulated fuel more client (client.represents_empty fresh)
  exact ⟨final, returned, represents.balance_isSome, represents.balance_eq_nil⟩

end

theorem le_foldr_max (nodes : List Pointer) : ∀ node ∈ nodes, node ≤ nodes.foldr max 0 := by
  induction nodes with
  | nil => nofun
  | cons first rest ih =>
      rw [List.foldr_cons, List.forall_mem_cons]
      refine ⟨le_max_left .., ?_⟩
      intro node member
      exact (ih node member).trans (le_max_right ..)

/-- The node after those in use, so that what is deleted is handed out again. -/
def topmost : Allocator where
  place log := ((balance log).getD [] |>.map Piece.node).foldr max 0 + 1
  away log held worked piece member := by
    have below := le_foldr_max (held.map Piece.node) piece.node (List.mem_map_of_mem member)
    rw [worked]
    exact Nat.ne_of_lt (Nat.lt_succ_of_le below)

def sampleClient : Client Nat where
  heap := { new := topmost, mVal _ := 0, mpPrev _ := 0, mpNext _ := 0, log := [] }
  lists _ := 0
  iterators _ := 0

/-- An iterator stays with its element while others come and go. -/
def sampleCalls : List (Call Nat) :=
  [.construct 0, .pushBack 0 5, .pushBack 0 7, .begin 0 0, .increment 0, .pushFront 0 3,
    .read 0, .copyConstruct 1 0, .begin 1 0, .erase 1 1, .read 1, .insert 2 0 6, .read 0,
    .end 3 0, .distance 1 3, .assign 1 0, .begin 4 1, .insertRange 4 1 3, .size 1, .equal 0 2,
    .eraseRange 5 2 3, .equal 5 3, .size 0, .clear 1, .empty 1, .destruct 0, .destruct 1]

def sampleAnswers : List (Answer Nat) :=
  [.done, .done, .done, .done, .done, .done, .value 7, .done, .done, .done, .value 5, .done,
    .value 7, .done, .number 3, .done, .done, .done, .number 6, .truth false, .done, .truth true,
    .number 1, .done, .truth true, .done, .done]

theorem sampleCalls_answered : ∃ enough, ∀ fuel, enough < fuel → ∃ final,
    sampleCalls.mapM (Client.call fuel) sampleClient = some (sampleAnswers, final) ∧
      balance final.heap.log = some [] := by
  obtain ⟨store, ran, gone⟩ : ∃ store : Store Nat,
      sampleCalls.mapM Store.call Store.empty = some (sampleAnswers, store) ∧
        ∀ name, store.lists name = none := by
    refine ⟨_, rfl, ?_⟩
    rintro (zero | one | more)
    · rfl
    · rfl
    · rfl
  obtain ⟨enough, refined⟩ := lists_refine sampleClient rfl ran
  refine ⟨enough, fun fuel more => ?_⟩
  obtain ⟨final, returned, -, left⟩ := refined fuel more
  exact ⟨final, returned, left gone⟩

end ToySystem.Hal.ListComm
