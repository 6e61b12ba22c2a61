import ToySystem.Hal.ListUsers

namespace ToySystem.Hal.ListComm

open ToySystem.Data

/-! # Which lists in a heap stand for which sequences of values -/

section

variable {T : Type} {heap : Heap T}

/-- An iterator at this index of a list. -/
def Shape.pointer (shape : Shape T) (index : Nat) : Pointer :=
  firstOf (shape.elements.drop index) shape.middle

theorem Shape.pointer_eq (shape : Shape T) (index : Nat) :
    shape.pointer index = (shape.nodes.drop index).headD shape.middle := by
  rw [pointer, firstOf, nodes, List.map_drop]

theorem Shape.pointer_of_parts {shape : Shape T} {before after : List (Pointer × T)}
    (parts : shape.elements = before ++ after) :
    shape.pointer before.length = firstOf after shape.middle := by
  rw [pointer, parts, List.drop_left]

/-- The iterators of a list, from its beginning to its end. -/
theorem Shape.pointer_getElem {shape : Shape T} {index : Nat}
    (within : index ≤ shape.values.length) :
    (shape.nodes ++ [shape.middle])[index]? = some (shape.pointer index) := by
  have length : shape.nodes.length = shape.values.length := by
    rw [nodes, values, List.length_map, List.length_map]
  rw [pointer_eq, List.headD_eq_head?_getD, List.head?_drop]
  rcases Nat.lt_or_eq_of_le within with inner | rfl
  · rw [List.getElem?_append_left (length ▸ inner), List.getElem?_eq_getElem (length ▸ inner)]
    rfl
  · rw [← length, List.getElem?_append_right le_rfl, List.getElem?_length, Nat.sub_self]
    rfl

theorem Shape.pointer_inj {shape : Shape T} (inHeap : shape.In heap) {first second : Nat}
    (firstWithin : first ≤ shape.values.length) (secondWithin : second ≤ shape.values.length) :
    shape.pointer first = shape.pointer second ↔ first = second := by
  have distinct : (shape.nodes ++ [shape.middle]).Nodup :=
    (List.perm_append_singleton shape.middle shape.nodes).nodup_iff.mpr inHeap.linked.distinct
  have within : first < (shape.nodes ++ [shape.middle]).length := by
    rw [values_length] at firstWithin
    rw [List.length_append, List.length_singleton, nodes, List.length_map]
    omega
  rw [← List.getElem?_inj within distinct, pointer_getElem firstWithin,
    pointer_getElem secondWithin, Option.some_inj]

theorem pointer_before (middle : Pointer) (before first second : List (Pointer × T)) {index : Nat}
    (early : index < before.length) :
    (⟨middle, before ++ first⟩ : Shape T).pointer index =
      (⟨middle, before ++ second⟩ : Shape T).pointer index := by
  rw [Shape.pointer, Shape.pointer, List.drop_append_of_le_length early.le,
    List.drop_append_of_le_length early.le, List.drop_eq_getElem_cons early]
  rfl

theorem pointer_beyond (middle : Pointer) (before range after : List (Pointer × T)) (index : Nat) :
    (⟨middle, before ++ (range ++ after)⟩ : Shape T).pointer
      (before.length + range.length + index) = firstOf (after.drop index) middle := by
  rw [Shape.pointer, ← List.append_assoc, ← List.length_append, List.drop_length_add_append]

/-- The client's lists have these names and shapes, and the store tells what is in them. -/
structure Client.Shows (client : Client T) (names : List Name) (shapeOf : Name → Shape T)
    (store : Store T) : Prop where
  distinct : names.Nodup
  holds : client.heap.Holds (names.map shapeOf)
  middles : ∀ name ∈ names, client.lists name = (shapeOf name).middle
  lists : ∀ name, store.lists name = if name ∈ names then some (shapeOf name).values else none
  iterators : ∀ it place, store.iterators it = some place → place.list ∈ names ∧
    place.index ≤ (shapeOf place.list).values.length ∧
      client.iterators it = (shapeOf place.list).pointer place.index

def Client.Represents (client : Client T) (store : Store T) : Prop :=
  ∃ names shapeOf, client.Shows names shapeOf store

variable {client : Client T} {store : Store T} {names rest : List Name}
  {shapeOf : Name → Shape T} {name list : Name} {values : List T} {it first last : Iterator}
  {place start stop : Place}

theorem map_update {shape : Shape T} (outside : name ∉ rest) :
    rest.map (Function.update shapeOf name shape) = rest.map shapeOf := by
  refine List.map_congr_left ?_
  intro other member
  refine Function.update_of_ne ?_ ..
  rintro rfl
  exact outside member

namespace Client.Shows

theorem perm (shows : client.Shows names shapeOf store) (same : names.Perm rest) :
    client.Shows rest shapeOf store where
  distinct := same.nodup_iff.mp shows.distinct
  holds := shows.holds.perm (same.map shapeOf)
  middles name member := shows.middles name (same.mem_iff.mpr member)
  lists name := by
    rw [shows.lists name]
    exact if_congr same.mem_iff rfl rfl
  iterators it place found := by
    obtain ⟨member, bound, pointer⟩ := shows.iterators it place found
    exact ⟨same.mem_iff.mp member, bound, pointer⟩

theorem live (shows : client.Shows names shapeOf store) (found : store.lists name = some values) :
    name ∈ names ∧ values = (shapeOf name).values ∧ client.lists name = (shapeOf name).middle := by
  have known := shows.lists name
  rw [found] at known
  by_cases member : name ∈ names
  · rw [if_pos member] at known
    exact ⟨member, Option.some.inj known, shows.middles name member⟩
  · rw [if_neg member] at known
    cases known

theorem dead (shows : client.Shows names shapeOf store)
    (absent : ¬ (store.lists name).isSome = true) : name ∉ names := by
  intro member
  rw [shows.lists name, if_pos member] at absent
  exact absent rfl

theorem front (shows : client.Shows names shapeOf store) (member : name ∈ names) :
    ∃ rest, name ∉ rest ∧ (∀ other, other ∈ names → other ≠ name → other ∈ rest) ∧
      client.Shows (name :: rest) shapeOf store := by
  have order := List.perm_cons_erase member
  have distinct := order.nodup_iff.mp shows.distinct
  refine ⟨names.erase name, (List.nodup_cons.mp distinct).1, ?_, shows.perm order⟩
  intro other inNames differs
  exact (List.mem_erase_of_ne differs).mpr inNames

theorem split (shows : client.Shows (name :: rest) shapeOf store)
    {elements : List (Pointer × T)} (parts : (shapeOf name).elements = elements) :
    client.heap.Holds (⟨(shapeOf name).middle, elements⟩ :: rest.map shapeOf) := by
  rw [← parts]
  exact shows.holds

theorem reached (shows : client.Shows names shapeOf store)
    (found : store.reach it = some (place, values)) :
    place.list ∈ names ∧ values = (shapeOf place.list).values ∧
      ∃ before after, (shapeOf place.list).elements = before ++ after ∧
        before.length = place.index ∧
        client.iterators it = firstOf after (shapeOf place.list).middle := by
  obtain ⟨place, at_place, next⟩ := Option.bind_eq_some_iff.mp found
  obtain ⟨values, of_list, same⟩ := Option.bind_eq_some_iff.mp next
  cases same
  obtain ⟨member, bound, pointer⟩ := shows.iterators it place at_place
  rw [Shape.values_length] at bound
  refine ⟨member, (shows.live of_list).2.1, (shapeOf place.list).elements.take place.index,
    (shapeOf place.list).elements.drop place.index, (List.take_append_drop ..).symm, ?_, pointer⟩
  rw [List.length_take]
  exact Nat.min_eq_left bound

theorem followed (shows : client.Shows names shapeOf store)
    (found : store.element it = some (place, values)) :
    place.list ∈ names ∧ values = (shapeOf place.list).values ∧
      ∃ before element after, (shapeOf place.list).elements = before ++ element :: after ∧
        before.length = place.index ∧ client.iterators it = element.1 := by
  obtain ⟨reached, within⟩ := Option.filter_eq_some_iff.mp found
  have bound := of_decide_eq_true within
  obtain ⟨member, rfl, before, after, parts, index, pointer⟩ := shows.reached reached
  refine ⟨member, rfl, before, ?_⟩
  rw [Shape.values_length, parts, List.length_append, ← index] at bound
  cases after with
  | nil => exact absurd bound (Nat.lt_irrefl _)
  | cons element after => exact ⟨element, after, parts, index, pointer⟩

theorem ranged (shows : client.Shows names shapeOf store)
    (found : store.range first last = some (start, stop, values)) :
    start.list ∈ names ∧ values = (shapeOf start.list).values ∧
      ∃ before range after, (shapeOf start.list).elements = before ++ (range ++ after) ∧
        before.length = start.index ∧ range.length = stop.index - start.index ∧
        client.iterators first = firstOf (range ++ after) (shapeOf start.list).middle ∧
        client.iterators last = firstOf after (shapeOf start.list).middle := by
  obtain ⟨⟨start, values⟩, begun, next⟩ := Option.bind_eq_some_iff.mp found
  obtain ⟨⟨stop, others⟩, ended, ordered⟩ := Option.bind_eq_some_iff.mp next
  simp only [Option.ite_none_right_eq_some] at ordered
  obtain ⟨⟨one, order⟩, same⟩ := ordered
  cases same
  obtain ⟨member, rfl, before, after, parts, index, pointer⟩ := shows.reached begun
  obtain ⟨-, -, upTo, beyond, others, stopped, past⟩ := shows.reached ended
  rw [← one] at others past
  -- Both cut one list, the second not before the first.
  have both : before ++ after = upTo ++ beyond := parts.symm.trans others
  have prefixes : before <+: upTo :=
    List.prefix_of_prefix_length_le ⟨after, rfl⟩ ⟨beyond, both.symm⟩ (by omega)
  obtain ⟨range, rfl⟩ := prefixes
  rw [List.append_assoc, List.append_cancel_left_eq] at both
  subst both
  rw [List.length_append] at stopped
  exact ⟨member, rfl, before, range, beyond, parts, index, by omega, pointer, past⟩

/-- Reading leaves everything as it is. -/
theorem read (shows : client.Shows names shapeOf store)
    (holds : heap.Holds (names.map shapeOf)) :
    (client.setHeap heap).Shows names shapeOf store where
  distinct := shows.distinct
  holds := holds
  middles := shows.middles
  lists := shows.lists
  iterators := shows.iterators

/-- An iterator goes to where `after` begins. -/
theorem setIterator (shows : client.Shows names shapeOf store) (it : Iterator)
    (member : list ∈ names) {before after : List (Pointer × T)}
    (parts : (shapeOf list).elements = before ++ after) :
    (client.setIterator it (firstOf after (shapeOf list).middle)).Shows names shapeOf
      (store.setIterator it ⟨list, before.length⟩) where
  distinct := shows.distinct
  holds := shows.holds
  middles := shows.middles
  lists := shows.lists
  iterators other target found := by
    change Function.update store.iterators it (some ⟨list, before.length⟩) other = some target
      at found
    change target.list ∈ names ∧ _ ∧ Function.update client.iterators it _ other = _
    by_cases same : other = it
    · subst other
      rw [Function.update_self] at found ⊢
      cases found
      refine ⟨member, ?_, ?_⟩
      · rw [Shape.values_length, parts, List.length_append]
        exact Nat.le_add_right ..
      · exact (Shape.pointer_of_parts parts).symm
    · rw [Function.update_of_ne same] at found ⊢
      exact shows.iterators other target found

/-- One list has got another shape, and its iterators have moved with its nodes. -/
theorem reshape (shows : client.Shows (name :: rest) shapeOf store) (shape : Shape T)
    (move : Nat → Option Nat) {next : Store T} (middle : shape.middle = (shapeOf name).middle)
    (holds : heap.Holds (shape :: rest.map shapeOf))
    (lists : next.lists = Function.update store.lists name (some shape.values))
    (iterators : ∀ it, next.iterators it = (store.iterators it).bind (Store.moved name move))
    (follow : ∀ index target, index ≤ (shapeOf name).values.length → move index = some target →
      target ≤ shape.values.length ∧ shape.pointer target = (shapeOf name).pointer index) :
    (client.setHeap heap).Shows (name :: rest)
      (Function.update shapeOf name shape) next where
  distinct := shows.distinct
  holds := by
    rw [List.map_cons, Function.update_self, map_update (List.nodup_cons.mp shows.distinct).1]
    exact holds
  middles other member := by
    refine (shows.middles other member).trans ?_
    by_cases same : other = name
    · subst other
      rw [Function.update_self, middle]
    · rw [Function.update_of_ne same]
  lists other := by
    rw [lists]
    by_cases same : other = name
    · subst other
      rw [Function.update_self, Function.update_self, if_pos List.mem_cons_self]
    · rw [Function.update_of_ne same, Function.update_of_ne same]
      exact shows.lists other
  iterators it target found := by
    rw [iterators] at found
    obtain ⟨place, was, moved⟩ := Option.bind_eq_some_iff.mp found
    obtain ⟨member, bound, pointer⟩ := shows.iterators it place was
    rw [Store.moved] at moved
    by_cases same : place.list = name
    · rw [if_pos same] at moved
      obtain ⟨index, followed, rfl⟩ := Option.map_eq_some_iff.mp moved
      rw [same] at bound pointer
      obtain ⟨within, equal⟩ := follow place.index index bound followed
      dsimp only
      rw [Function.update_self]
      exact ⟨List.mem_cons_self, within, pointer.trans equal.symm⟩
    · rw [if_neg same] at moved
      cases moved
      rw [Function.update_of_ne same]
      exact ⟨member, bound, pointer⟩

theorem splice (shows : client.Shows (name :: rest) shapeOf store)
    (come : List (Pointer × T)) {before gone after : List (Pointer × T)}
    (parts : (shapeOf name).elements = before ++ (gone ++ after))
    (holds : heap.Holds
      (⟨(shapeOf name).middle, before ++ (come ++ after)⟩ :: rest.map shapeOf)) :
    (client.setHeap heap).Shows (name :: rest)
      (Function.update shapeOf name ⟨(shapeOf name).middle, before ++ (come ++ after)⟩)
      (store.splice name (shapeOf name).values before.length gone.length
        (come.map Prod.snd)) := by
  have before_length : (before.map Prod.snd).length = before.length := List.length_map ..
  have values : (shapeOf name).values =
      before.map Prod.snd ++ (gone.map Prod.snd ++ after.map Prod.snd) := by
    rw [Shape.values, parts, List.map_append, List.map_append]
  refine shows.reshape _ (spliced before.length gone.length come.length) rfl holds ?_ ?_ ?_
  · have kept : (shapeOf name).values.take before.length = before.map Prod.snd := by
      rw [values]
      exact List.take_left' before_length
    have left : (shapeOf name).values.drop (before.length + gone.length) = after.map Prod.snd := by
      rw [values, ← List.append_assoc]
      refine List.drop_left' ?_
      rw [List.length_append, List.length_map, List.length_map]
    rw [Store.splice, kept, left, Shape.values, List.map_append, List.map_append]
  · intro it
    rw [Store.splice, List.length_map]
  · intro index target bound moved
    have sizes : (shapeOf name).values.length =
        before.length + (gone.length + after.length) := by
      rw [Shape.values_length, parts, List.length_append, List.length_append]
    rw [Shape.values_length, List.length_append, List.length_append]
    have shape : shapeOf name = ⟨(shapeOf name).middle, before ++ (gone ++ after)⟩ := by
      rw [← parts]
    rw [spliced] at moved
    split at moved
    · next early =>
        cases moved
        refine ⟨by omega, ?_⟩
        rw [shape]
        exact pointer_before _ before _ _ early
    · next late =>
        split at moved
        · cases moved
        · next beyond =>
            cases moved
            obtain ⟨offset, rfl⟩ := Nat.exists_eq_add_of_le (Nat.le_of_not_lt beyond)
            have target : before.length + gone.length + offset - gone.length + come.length =
                before.length + come.length + offset := by omega
            refine ⟨by omega, ?_⟩
            rw [target, shape, pointer_beyond, pointer_beyond]

/-- As `insert` and `erase` return an iterator to where `come` begins. -/
theorem spliceIterator (shows : client.Shows (name :: rest) shapeOf store) (it : Iterator)
    (come : List (Pointer × T)) {before gone after : List (Pointer × T)}
    (parts : (shapeOf name).elements = before ++ (gone ++ after))
    (holds : heap.Holds
      (⟨(shapeOf name).middle, before ++ (come ++ after)⟩ :: rest.map shapeOf)) :
    ((client.setHeap heap).setIterator it (firstOf (come ++ after) (shapeOf name).middle)).Shows
      (name :: rest)
      (Function.update shapeOf name ⟨(shapeOf name).middle, before ++ (come ++ after)⟩)
      ((store.splice name (shapeOf name).values before.length gone.length
        (come.map Prod.snd)).setIterator it ⟨name, before.length⟩) := by
  have changed : (Function.update shapeOf name
      ⟨(shapeOf name).middle, before ++ (come ++ after)⟩ name).elements =
        before ++ (come ++ after) := by rw [Function.update_self]
  have placed := (shows.splice come parts holds).setIterator it List.mem_cons_self changed
  rw [Function.update_self] at placed
  exact placed

theorem write (shows : client.Shows (name :: rest) shapeOf store)
    {before after : List (Pointer × T)} {element : Pointer × T} {val : T}
    (parts : (shapeOf name).elements = before ++ element :: after)
    (holds : heap.Holds
      (⟨(shapeOf name).middle, before ++ (element.1, val) :: after⟩ :: rest.map shapeOf)) :
    (client.setHeap heap).Shows (name :: rest)
      (Function.update shapeOf name
        ⟨(shapeOf name).middle, before ++ (element.1, val) :: after⟩)
      (store.setList name ((shapeOf name).values.set before.length val)) := by
  have before_length : (before.map Prod.snd).length = before.length := List.length_map ..
  refine shows.reshape _ some rfl holds ?_ ?_ ?_
  · have values : (shapeOf name).values.set before.length val =
        before.map Prod.snd ++ val :: after.map Prod.snd := by
      rw [Shape.values, parts, List.map_append, List.map_cons,
        List.set_append_right _ _ before_length.le, before_length, Nat.sub_self]
      rfl
    rw [Store.setList, values, Shape.values, List.map_append]
    rfl
  · intro it
    have still : Store.moved name some = some := by
      funext place
      rw [Store.moved]
      split
      · next same => rw [← same]; rfl
      · rfl
    rw [still, Option.bind_fun_some]
    rfl
  · intro index target bound same
    cases same
    have shape : shapeOf name = ⟨(shapeOf name).middle, before ++ element :: after⟩ := by
      rw [← parts]
    constructor
    · rw [Shape.values_length, parts, List.length_append] at bound
      rw [Shape.values_length, List.length_append]
      exact bound
    · rw [shape, Shape.pointer_eq, Shape.pointer_eq, Shape.nodes_split, Shape.nodes_split]

theorem construct (shows : client.Shows names shapeOf store) (outside : name ∉ names)
    {shape : Shape T} (holds : heap.Holds (shape :: names.map shapeOf)) :
    ((client.setHeap heap).setList name shape.middle).Shows (name :: names)
      (Function.update shapeOf name shape) (store.setList name shape.values) where
  distinct := List.nodup_cons.mpr ⟨outside, shows.distinct⟩
  holds := by
    rw [List.map_cons, Function.update_self, map_update outside]
    exact holds
  middles other member := by
    change Function.update client.lists name shape.middle other = _
    by_cases same : other = name
    · subst other
      rw [Function.update_self, Function.update_self]
    · rw [Function.update_of_ne same, Function.update_of_ne same]
      exact shows.middles other ((List.mem_cons.mp member).resolve_left same)
  lists other := by
    change Function.update store.lists name (some shape.values) other = _
    by_cases same : other = name
    · subst other
      rw [Function.update_self, Function.update_self, if_pos List.mem_cons_self]
    · rw [Function.update_of_ne same, Function.update_of_ne same, shows.lists other]
      refine if_congr ?_ rfl rfl
      exact ⟨List.mem_cons_of_mem name, fun member => (List.mem_cons.mp member).resolve_left same⟩
  iterators it place found := by
    obtain ⟨member, bound, pointer⟩ := shows.iterators it place found
    have other : place.list ≠ name := by
      rintro rfl
      exact outside member
    rw [Function.update_of_ne other]
    exact ⟨List.mem_cons_of_mem name member, bound, pointer⟩

theorem discard (shows : client.Shows (name :: rest) shapeOf store)
    (holds : heap.Holds (rest.map shapeOf)) :
    (client.setHeap heap).Shows rest shapeOf (store.discard name) where
  distinct := (List.nodup_cons.mp shows.distinct).2
  holds := holds
  middles other member := shows.middles other (List.mem_cons_of_mem name member)
  lists other := by
    change Function.update store.lists name none other = _
    by_cases same : other = name
    · subst other
      rw [Function.update_self, if_neg (List.nodup_cons.mp shows.distinct).1]
    · rw [Function.update_of_ne same, shows.lists other]
      refine if_congr ?_ rfl rfl
      exact ⟨fun member => (List.mem_cons.mp member).resolve_left same, List.mem_cons_of_mem name⟩
  iterators it place found := by
    obtain ⟨was, other⟩ := Option.filter_eq_some_iff.mp found
    obtain ⟨member, bound, pointer⟩ := shows.iterators it place was
    have inRest := (List.mem_cons.mp member).resolve_left (of_decide_eq_true other)
    exact ⟨inRest, bound, pointer⟩

end Client.Shows

end

end ToySystem.Hal.ListComm
