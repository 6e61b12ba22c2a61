import Mathlib.Data.List.Basic

namespace ToySystem.Data

/-! Histories of objects that are acquired, used and deleted.

An account of a history names the objects that are live in it.  An object may
be tracked, and then its own part of the history has to be one acquisition, any
number of uses and one deletion, or be untracked, and then the account only
records whether it was deleted.  The rules below say how an account changes
with each operation that is appended.
-/

inductive Operation (Object : Type*) where
  | acquire (object : Object)
  | use (object : Object)
  | delete (object : Object)
deriving DecidableEq, Repr

def Operation.object {Object : Type*} : Operation Object → Object
  | .acquire object | .use object | .delete object => object

section

variable {Object : Type*} [DecidableEq Object]

def historyOf (object : Object) (history : List (Operation Object)) : List (Operation Object) :=
  history.filter fun operation => operation.object = object

def Untouched (object : Object) (history : List (Operation Object)) : Prop :=
  historyOf object history = []

def Live (object : Object) (history : List (Operation Object)) : Prop :=
  ∃ uses, historyOf object history = .acquire object :: List.replicate uses (.use object)

/-- Deleted exactly once, and neither used nor deleted afterwards. -/
def Released (object : Object) (history : List (Operation Object)) : Prop :=
  ∃ uses, historyOf object history =
    .acquire object :: List.replicate uses (.use object) ++ [.delete object]

def Settled (object : Object) (history : List (Operation Object)) : Prop :=
  Untouched object history ∨ Released object history

theorem historyOf_append_same (object : Object) (operation : Operation Object)
    (same : operation.object = object) (history : List (Operation Object)) :
    historyOf object (history ++ [operation]) = historyOf object history ++ [operation] := by
  simp [historyOf, same]

theorem historyOf_append_other {object : Object} (operation : Operation Object)
    (different : operation.object ≠ object) (history : List (Operation Object)) :
    historyOf object (history ++ [operation]) = historyOf object history := by
  simp [historyOf, different]

theorem Untouched.not_mem {object : Object} {history : List (Operation Object)}
    (untouched : Untouched object history) : ∀ operation ∈ history, operation.object ≠ object := by
  intro operation member same
  have found : operation ∈ historyOf object history :=
    List.mem_filter.mpr ⟨member, by simp [same]⟩
  rw [untouched] at found
  exact List.not_mem_nil found

theorem Untouched.acquire {object : Object} {history : List (Operation Object)}
    (untouched : Untouched object history) : Live object (history ++ [.acquire object]) := by
  refine ⟨0, ?_⟩
  rw [historyOf_append_same object (.acquire object) rfl, untouched]
  rfl

theorem Live.use {object : Object} {history : List (Operation Object)}
    (live : Live object history) : Live object (history ++ [.use object]) := by
  obtain ⟨uses, shape⟩ := live
  refine ⟨uses + 1, ?_⟩
  rw [historyOf_append_same object (.use object) rfl, shape, List.replicate_succ', List.cons_append]

theorem Live.delete {object : Object} {history : List (Operation Object)}
    (live : Live object history) : Released object (history ++ [.delete object]) := by
  obtain ⟨uses, shape⟩ := live
  refine ⟨uses, ?_⟩
  rw [historyOf_append_same object (.delete object) rfl, shape]

/-- An account of a history: which objects occurred in it so far, which of the
tracked ones are live, and which untracked ones were deleted. -/
structure Account (tracked : Object → Prop) (seen owned gone : List Object)
    (history : List (Operation Object)) : Prop where
  fresh : ∀ object, tracked object → object ∉ seen → Untouched object history
  live : ∀ object ∈ owned, tracked object → Live object history
  settled : ∀ object, object ∉ owned → tracked object → Settled object history
  strays : ∀ object, ¬ tracked object → (.delete object ∈ history ↔ object ∈ gone)

variable {tracked : Object → Prop} {seen owned gone : List Object}
  {history : List (Operation Object)}

theorem Account.empty : Account tracked [] [] [] ([] : List (Operation Object)) where
  fresh _ _ _ := rfl
  live := by simp
  settled _ _ _ := .inl rfl
  strays := by simp

private theorem Account.others (account : Account tracked seen owned gone history)
    (operation : Operation Object) {object : Object}
    (different : operation.object ≠ object) (isTracked : tracked object) :
    (object ∉ seen → Untouched object (history ++ [operation])) ∧
      (object ∈ owned → Live object (history ++ [operation])) ∧
      (object ∉ owned → Settled object (history ++ [operation])) := by
  unfold Untouched Live Settled Released Untouched
  rw [historyOf_append_other operation different]
  exact ⟨account.fresh object isTracked, fun member => account.live object member isTracked,
    fun absent => account.settled object absent isTracked⟩

theorem Account.acquire (account : Account tracked seen owned gone history) {object : Object}
    (unseen : tracked object → object ∉ seen) :
    Account tracked (object :: seen) (object :: owned) gone (history ++ [.acquire object]) where
  fresh other isTracked absent := by
    simp only [List.mem_cons, not_or] at absent
    exact (account.others (.acquire object) (Ne.symm absent.1) isTracked).1 absent.2
  live other member isTracked := by
    by_cases same : other = object
    · subst other
      exact (account.fresh object isTracked (unseen isTracked)).acquire
    · have inOwned : other ∈ owned := (List.mem_cons.mp member).resolve_left same
      exact (account.others (.acquire object) (Ne.symm same) isTracked).2.1 inOwned
  settled other absent isTracked := by
    simp only [List.mem_cons, not_or] at absent
    exact (account.others (.acquire object) (Ne.symm absent.1) isTracked).2.2 absent.2
  strays other untracked := by
    simpa using account.strays other untracked

theorem Account.use (account : Account tracked seen owned gone history) {object : Object}
    (known : tracked object → object ∈ seen) (held : object ∈ owned) :
    Account tracked seen owned gone (history ++ [.use object]) where
  fresh other isTracked absent := by
    have different : object ≠ other := by
      intro same
      subst other
      exact absent (known isTracked)
    exact (account.others (.use object) different isTracked).1 absent
  live other member isTracked := by
    by_cases same : other = object
    · subst other
      exact (account.live object member isTracked).use
    · exact (account.others (.use object) (Ne.symm same) isTracked).2.1 member
  settled other absent isTracked := by
    have different : object ≠ other := fun same => absent (same ▸ held)
    exact (account.others (.use object) different isTracked).2.2 absent
  strays other untracked := by
    simpa using account.strays other untracked

theorem Account.delete {object : Object}
    (account : Account tracked seen (object :: owned) gone history)
    (isTracked : tracked object) (known : object ∈ seen) (single : object ∉ owned) :
    Account tracked seen owned gone (history ++ [.delete object]) where
  fresh other otherTracked absent := by
    have different : object ≠ other := fun same => absent (same ▸ known)
    exact (account.others (.delete object) different otherTracked).1 absent
  live other member otherTracked := by
    have different : object ≠ other := fun same => single (same ▸ member)
    exact (account.others (.delete object) different otherTracked).2.1
      (List.mem_cons_of_mem object member)
  settled other absent otherTracked := by
    by_cases same : other = object
    · subst other
      exact .inr (account.live object (by simp) isTracked).delete
    · exact (account.others (.delete object) (Ne.symm same) otherTracked).2.2
        (by simp [same, absent])
  strays other untracked := by
    have different : other ≠ object := fun same => untracked (same ▸ isTracked)
    simpa [different] using account.strays other untracked

/-- Deleting an untracked object does not disturb the tracked ones. -/
theorem Account.deleteStray (account : Account tracked seen owned gone history) {object : Object}
    (untracked : ¬ tracked object) :
    Account tracked seen owned (object :: gone) (history ++ [.delete object]) := by
  have different : ∀ other, tracked other → object ≠ other :=
    fun other isTracked same => untracked (same ▸ isTracked)
  constructor
  · intro other isTracked
    exact (account.others (.delete object) (different other isTracked) isTracked).1
  · intro other member isTracked
    exact (account.others (.delete object) (different other isTracked) isTracked).2.1
      member
  · intro other absent isTracked
    exact (account.others (.delete object) (different other isTracked) isTracked).2.2
      absent
  · intro other otherUntracked
    simp [account.strays other otherUntracked, or_comm]

theorem Account.congr {others : List Object} (account : Account tracked seen owned gone history)
    (same : ∀ object, object ∈ others ↔ object ∈ owned) :
    Account tracked seen others gone history where
  fresh := account.fresh
  live object member := account.live object ((same object).mp member)
  settled object absent := account.settled object (fun member => absent ((same object).mpr member))
  strays := account.strays

/-- An untracked object may be counted among the live ones at any time. -/
theorem Account.adopt (account : Account tracked seen owned gone history) {object : Object}
    (untracked : ¬ tracked object) : Account tracked seen (object :: owned) gone history where
  fresh := account.fresh
  live other member isTracked := by
    have different : other ≠ object := fun same => untracked (same ▸ isTracked)
    exact account.live other ((List.mem_cons.mp member).resolve_left different) isTracked
  settled other absent := account.settled other fun member => absent (List.mem_cons_of_mem _ member)
  strays := account.strays

/-- An untracked object needs no deletion to leave the live ones. -/
theorem Account.forget {object : Object}
    (account : Account tracked seen (object :: owned) gone history)
    (untracked : ¬ tracked object) : Account tracked seen owned gone history where
  fresh := account.fresh
  live other member := account.live other (List.mem_cons_of_mem object member)
  settled other absent isTracked :=
    account.settled other
      (by
        intro member
        rcases List.mem_cons.mp member with same | inOwned
        · exact untracked (same ▸ isTracked)
        · exact absent inOwned)
      isTracked
  strays := account.strays

/-- With nothing live, every tracked object that was ever acquired is released. -/
theorem Account.released (account : Account tracked seen [] gone history) {object : Object}
    (isTracked : tracked object) (acquired : .acquire object ∈ history) :
    Released object history :=
  (account.settled object (by simp) isTracked).resolve_left
    fun untouched => untouched.not_mem _ acquired rfl

end

end ToySystem.Data
