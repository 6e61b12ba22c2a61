import ToySystem.Hal.ListRanges

namespace ToySystem.Hal.ListComm

open ToySystem.Data

/-! # What users of lists can do, and what they can count on

A user has lists and iterators in variables.  In the abstract a list is the sequence of its
values, and an iterator a place in such a sequence, which moves along when elements before
it come and go.
-/

abbrev Name := Nat

abbrev Iterator := Nat

inductive Call (T : Type) where
  | construct (list : Name)
  | copyConstruct (list src : Name)
  | destruct (list : Name)
  | assign (list right : Name)
  | empty (list : Name)
  | size (list : Name)
  | pushFront (list : Name) (val : T)
  | pushBack (list : Name) (val : T)
  | clear (list : Name)
  | begin (it : Iterator) (list : Name)
  | «end» (it : Iterator) (list : Name)
  | copy (it rhs : Iterator)
  | increment (it : Iterator)
  | decrement (it : Iterator)
  | equal (it right : Iterator)
  | distance (first last : Iterator)
  | read (it : Iterator)
  | write (it : Iterator) (val : T)
  | insert (it posn : Iterator) (val : T)
  | insertRange (posn first last : Iterator)
  | erase (it posn : Iterator)
  | eraseRange (it first last : Iterator)

inductive Answer (T : Type) where
  | done
  | truth (value : Bool)
  | number (value : Nat)
  | value (val : T)
deriving DecidableEq, Repr

structure Client (T : Type) where
  heap : Heap T
  lists : Name → Pointer
  iterators : Iterator → Pointer

section

variable {T : Type}

namespace Client

def setHeap (heap : Heap T) (client : Client T) : Client T := { client with heap := heap }

def setList (list : Name) (mpMiddle : Pointer) (client : Client T) : Client T :=
  { client with lists := Function.update client.lists list mpMiddle }

def setIterator (it : Iterator) (mpNode : Pointer) (client : Client T) : Client T :=
  { client with iterators := Function.update client.iterators it mpNode }

def answers (client : Client T) (code : ListCode T (Answer T)) : Option (Answer T × Client T) :=
  (code client.heap).map fun reached => (reached.1, client.setHeap reached.2)

/-- What the code returns goes into the iterator. -/
def assigns (client : Client T) (it : Iterator) (code : ListCode T Pointer) :
    Option (Answer T × Client T) :=
  (code client.heap).map fun reached =>
    (.done, (client.setHeap reached.2).setIterator it reached.1)

def constructs (client : Client T) (list : Name) (code : ListCode T Pointer) :
    Option (Answer T × Client T) :=
  (code client.heap).map fun reached =>
    (.done, (client.setHeap reached.2).setList list reached.1)

def call (fuel : Nat) (call : Call T) : Code (Client T) (Answer T) := fun client =>
  match call with
  | .construct list => client.constructs list construct
  | .copyConstruct list src => client.constructs list (copyConstruct fuel (client.lists src))
  | .destruct list => client.answers do
      destruct fuel (client.lists list)
      return .done
  | .assign list right => client.answers do
      assign fuel (client.lists list) (client.lists right)
      return .done
  | .empty list => client.answers do return .truth (← empty (client.lists list))
  | .size list => client.answers do return .number (← size fuel (client.lists list))
  | .pushFront list val => client.answers do
      let _ ← pushFront (client.lists list) val
      return .done
  | .pushBack list val => client.answers do
      let _ ← pushBack (client.lists list) val
      return .done
  | .clear list => client.answers do
      clear fuel (client.lists list)
      return .done
  | .begin it list => client.assigns it (begin (client.lists list))
  | .end it list => client.assigns it (pure («end» (client.lists list)))
  | .copy it rhs => client.assigns it (pure (client.iterators rhs))
  | .increment it => client.assigns it (getNext (client.iterators it))
  | .decrement it => client.assigns it (getPrev (client.iterators it))
  | .equal it right =>
      client.answers (pure (.truth (client.iterators it = client.iterators right)))
  | .distance first last => client.answers do
      return .number (← distance (client.iterators last) fuel (client.iterators first) 0)
  | .read it => client.answers do return .value (← getRef (client.iterators it))
  | .write it val => client.answers do
      setVal (client.iterators it) val
      return .done
  | .insert it posn val => client.assigns it (insert (client.iterators posn) val)
  | .insertRange posn first last => client.answers do
      insertRange (client.iterators posn) (client.iterators last) fuel (client.iterators first)
      return .done
  | .erase it posn => client.assigns it (erase (client.iterators posn))
  | .eraseRange it first last =>
      client.assigns it (eraseRange (client.iterators last) fuel (client.iterators first))

end Client

structure Place where
  list : Name
  index : Nat
deriving DecidableEq, Repr

structure Store (T : Type) where
  lists : Name → Option (List T)
  iterators : Iterator → Option Place

/-- Where a place is when the `gone` elements from `first` on have made room for `come`
others; a place at an element that is gone is one no more. -/
def spliced (first gone come index : Nat) : Option Nat :=
  if index < first then some index
  else if index < first + gone then none
  else some (index - gone + come)

namespace Store

def empty : Store T where
  lists _ := none
  iterators _ := none

def moved (list : Name) (move : Nat → Option Nat) (place : Place) : Option Place :=
  if place.list = list then (move place.index).map (Place.mk list) else some place

def setList (list : Name) (values : List T) (store : Store T) : Store T :=
  { store with lists := Function.update store.lists list (some values) }

def setIterator (it : Iterator) (place : Place) (store : Store T) : Store T :=
  { store with iterators := Function.update store.iterators it (some place) }

def splice (list : Name) (values : List T) (first gone : Nat) (come : List T) (store : Store T) :
    Store T where
  lists := Function.update store.lists list
    (some (values.take first ++ (come ++ values.drop (first + gone))))
  iterators it := (store.iterators it).bind (moved list (spliced first gone come.length))

def discard (list : Name) (store : Store T) : Store T where
  lists := Function.update store.lists list none
  iterators it := (store.iterators it).filter fun place => place.list ≠ list

/-- An iterator that may be used, with the values of its list. -/
def reach (it : Iterator) (store : Store T) : Option (Place × List T) := do
  let place ← store.iterators it
  let values ← store.lists place.list
  return (place, values)

/-- An iterator that may be followed to its element. -/
def element (it : Iterator) (store : Store T) : Option (Place × List T) :=
  (store.reach it).filter fun found => found.1.index < found.2.length

/-- Two iterators that enclose a range. -/
def range (first last : Iterator) (store : Store T) : Option (Place × Place × List T) := do
  let (start, values) ← store.reach first
  let (stop, _) ← store.reach last
  if start.list = stop.list ∧ start.index ≤ stop.index then some (start, stop, values) else none

/-- `none` is what a user must not do. -/
def call (call : Call T) : Code (Store T) (Answer T) := fun store =>
  match call with
  | .construct list =>
      if (store.lists list).isSome then none else some (.done, store.setList list [])
  | .copyConstruct list src => do
      let values ← store.lists src
      if (store.lists list).isSome then none else some (.done, store.setList list values)
  | .destruct list => do
      let _ ← store.lists list
      return (.done, store.discard list)
  | .assign list right => do
      let values ← store.lists list
      let others ← store.lists right
      return (.done, if list = right then store
        else store.splice list values 0 values.length others)
  | .empty list => do return (.truth (← store.lists list).isEmpty, store)
  | .size list => do return (.number (← store.lists list).length, store)
  | .pushFront list val => do
      return (.done, store.splice list (← store.lists list) 0 0 [val])
  | .pushBack list val => do
      let values ← store.lists list
      return (.done, store.splice list values values.length 0 [val])
  | .clear list => do
      let values ← store.lists list
      return (.done, store.splice list values 0 values.length [])
  | .begin it list => do
      let _ ← store.lists list
      return (.done, store.setIterator it ⟨list, 0⟩)
  | .end it list => do
      return (.done, store.setIterator it ⟨list, (← store.lists list).length⟩)
  | .copy it rhs => do return (.done, store.setIterator it (← store.reach rhs).1)
  | .increment it => do
      let (place, _) ← store.element it
      return (.done, store.setIterator it ⟨place.list, place.index + 1⟩)
  | .decrement it => do
      let (place, _) ← store.reach it
      if place.index = 0 then none
      else return (.done, store.setIterator it ⟨place.list, place.index - 1⟩)
  | .equal it right => do
      let (place, _) ← store.reach it
      let (other, _) ← store.reach right
      if place.list = other.list then return (.truth (place.index = other.index), store) else none
  | .distance first last => do
      let (start, stop, _) ← store.range first last
      return (.number (stop.index - start.index), store)
  | .read it => do
      let (place, values) ← store.element it
      return (.value (← values[place.index]?), store)
  | .write it val => do
      let (place, values) ← store.element it
      return (.done, store.setList place.list (values.set place.index val))
  | .insert it posn val => do
      let (place, values) ← store.reach posn
      return (.done, (store.splice place.list values place.index 0 [val]).setIterator it place)
  | .insertRange posn first last => do
      let (place, values) ← store.reach posn
      let (start, stop, sources) ← store.range first last
      if start.list = place.list then none
      else return (.done, store.splice place.list values place.index 0
        ((sources.drop start.index).take (stop.index - start.index)))
  | .erase it posn => do
      let (place, values) ← store.element posn
      return (.done, (store.splice place.list values place.index 1 []).setIterator it place)
  | .eraseRange it first last => do
      let (start, stop, values) ← store.range first last
      return (.done, (store.splice start.list values start.index (stop.index - start.index)
        []).setIterator it start)

end Store

end

end ToySystem.Hal.ListComm
