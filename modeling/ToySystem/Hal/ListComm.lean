import Mathlib.Logic.Function.Basic
import ToySystem.Data.Code
import ToySystem.Data.Ledger

namespace ToySystem.Hal.ListComm

open ToySystem.Data

/-! # `List` of `hal/include/List_comm.h`

Nodes lie in one heap.  What is done to the storage of a node and to the value in it is
logged, so that one can tell afterwards whether all of it was there at the time: the code
does not look.
-/

abbrev Pointer := Nat

/-- A node is made of the storage with the links and of `mVal`, which has a constructor and
a destructor of its own. -/
inductive Piece where
  | storage (node : Pointer)
  | value (node : Pointer)
deriving DecidableEq, Repr

def Piece.node : Piece → Pointer
  | .storage node | .value node => node

abbrev Log := List (Operation Piece)

/-- `operator new`: where it puts a node may depend on all that happened, but it is away from
what is held. -/
structure Allocator where
  place : Log → Pointer
  away : ∀ log held, balance log = some held → ∀ piece ∈ held, piece.node ≠ place log

structure Heap (T : Type) where
  new : Allocator
  mVal : Pointer → T
  mpPrev : Pointer → Pointer
  mpNext : Pointer → Pointer
  log : Log

abbrev ListCode (T : Type) := Code (Heap T)

def Heap.record {T : Type} (heap : Heap T) (operation : Operation Piece) : Heap T :=
  { heap with log := heap.log ++ [operation] }

section

variable {T : Type}

/-- `new unsigned char[sizeof(_Node)]` -/
def newStorage : ListCode T Pointer := fun heap =>
  let node := heap.new.place heap.log
  some (node, heap.record (.acquire (.storage node)))

/-- `new _Node(val)` -/
def newNode (val : T) : ListCode T Pointer := fun heap =>
  let node := heap.new.place heap.log
  let constructed := (heap.record (.acquire (.storage node))).record (.acquire (.value node))
  some (node, { constructed with mVal := Function.update heap.mVal node val })

/-- `delete[] (unsigned char*) node` -/
def deleteStorage (node : Pointer) : ListCode T Unit := fun heap =>
  some ((), heap.record (.delete (.storage node)))

/-- `delete node` -/
def deleteNode (node : Pointer) : ListCode T Unit := fun heap =>
  some ((), (heap.record (.delete (.value node))).record (.delete (.storage node)))

def getRef (node : Pointer) : ListCode T T := fun heap =>
  some (heap.mVal node, heap.record (.use (.value node)))

/-- An assignment to what `getRef` returns. -/
def setVal (node : Pointer) (val : T) : ListCode T Unit := fun heap =>
  some ((), { heap.record (.use (.value node)) with mVal := Function.update heap.mVal node val })

def getPrev (node : Pointer) : ListCode T Pointer := fun heap =>
  some (heap.mpPrev node, heap.record (.use (.storage node)))

def getNext (node : Pointer) : ListCode T Pointer := fun heap =>
  some (heap.mpNext node, heap.record (.use (.storage node)))

def setPrev (node ptr : Pointer) : ListCode T Unit := fun heap =>
  some ((), { heap.record (.use (.storage node)) with
    mpPrev := Function.update heap.mpPrev node ptr })

def setNext (node ptr : Pointer) : ListCode T Unit := fun heap =>
  some ((), { heap.record (.use (.storage node)) with
    mpNext := Function.update heap.mpNext node ptr })

/-! ## Lists

A `List` is its `mpMiddle`, and an iterator is its `mpNode`.
-/

def prep : ListCode T Pointer := do
  let mpMiddle ← newStorage
  setPrev mpMiddle mpMiddle
  setNext mpMiddle mpMiddle
  return mpMiddle

def empty (mpMiddle : Pointer) : ListCode T Bool := do
  return (← getNext mpMiddle) = mpMiddle

def begin (mpMiddle : Pointer) : ListCode T Pointer := getNext mpMiddle

def «end» (mpMiddle : Pointer) : Pointer := mpMiddle

def insert (posn : Pointer) (val : T) : ListCode T Pointer := do
  let newNode ← newNode val
  setNext newNode posn
  setPrev newNode (← getPrev posn)
  setNext (← getPrev posn) newNode
  setPrev posn newNode
  return newNode

def pushFront (mpMiddle : Pointer) (val : T) : ListCode T Pointer := do
  insert (← begin mpMiddle) val

def pushBack (mpMiddle : Pointer) (val : T) : ListCode T Pointer := insert («end» mpMiddle) val

def insertRange (posn last : Pointer) : Nat → Pointer → ListCode T Unit
  | 0, _ => fun _ => none
  | fuel + 1, first =>
      if first = last then return
      else do
        let _ ← insert posn (← getRef first)
        insertRange posn last fuel (← getNext first)

def erase (posn : Pointer) : ListCode T Pointer := do
  let pNext ← getNext posn
  let pPrev ← getPrev posn
  setNext pPrev pNext
  setPrev pNext pPrev
  deleteNode posn
  return pNext

def eraseRange (last : Pointer) : Nat → Pointer → ListCode T Pointer
  | 0, _ => fun _ => none
  | fuel + 1, first =>
      if first = last then return last
      else do
        let following ← getNext first
        let _ ← erase first
        eraseRange last fuel following

/-- The loop of `clear`. -/
def deleteFrom (mpMiddle : Pointer) : Nat → Pointer → ListCode T Unit
  | 0, _ => fun _ => none
  | fuel + 1, pCurrent =>
      if pCurrent = mpMiddle then return
      else do
        let pNext ← getNext pCurrent
        deleteNode pCurrent
        deleteFrom mpMiddle fuel pNext

def clear (fuel : Nat) (mpMiddle : Pointer) : ListCode T Unit := do
  deleteFrom mpMiddle fuel (← getNext mpMiddle)
  setPrev mpMiddle mpMiddle
  setNext mpMiddle mpMiddle

def distance (last : Pointer) : Nat → Pointer → Nat → ListCode T Nat
  | 0, _, _ => fun _ => none
  | fuel + 1, first, count =>
      if first = last then return count
      else do distance last fuel (← getNext first) (count + 1)

def size (fuel : Nat) (mpMiddle : Pointer) : ListCode T Nat := do
  distance («end» mpMiddle) fuel (← begin mpMiddle) 0

/-- `List()` -/
def construct : ListCode T Pointer := prep

/-- `List(const List<T>& src)` -/
def copyConstruct (fuel : Nat) (src : Pointer) : ListCode T Pointer := do
  let mpMiddle ← prep
  insertRange (← begin mpMiddle) («end» src) fuel (← begin src)
  return mpMiddle

/-- `~List()` -/
def destruct (fuel : Nat) (mpMiddle : Pointer) : ListCode T Unit := do
  clear fuel mpMiddle
  deleteStorage mpMiddle

/-- The loop of `operator=`, which returns `firstDst` and `firstSrc`. -/
def assignFrom (lastDst lastSrc : Pointer) :
    Nat → Pointer → Pointer → ListCode T (Pointer × Pointer)
  | 0, _, _ => fun _ => none
  | fuel + 1, firstDst, firstSrc =>
      if firstSrc ≠ lastSrc ∧ firstDst ≠ lastDst then do
        let followingSrc ← getNext firstSrc
        let followingDst ← getNext firstDst
        setVal firstDst (← getRef firstSrc)
        assignFrom lastDst lastSrc fuel followingDst followingSrc
      else return (firstDst, firstSrc)

/-- `operator=`.  Lists that have one `mpMiddle` are one list. -/
def assign (fuel : Nat) (this right : Pointer) : ListCode T Unit := do
  if this = right then return
  let lastDst := «end» this
  let lastSrc := «end» right
  let reached ← assignFrom lastDst lastSrc fuel (← begin this) (← begin right)
  let firstDst := reached.1
  let firstSrc := reached.2
  if firstSrc = lastSrc then
    let _ ← eraseRange lastDst fuel firstDst
  else insertRange lastDst lastSrc fuel firstSrc

end

end ToySystem.Hal.ListComm
