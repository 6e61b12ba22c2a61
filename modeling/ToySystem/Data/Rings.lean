import Mathlib.Data.List.Chain
import Mathlib.Data.List.Nodup
import Mathlib.Logic.Function.Basic

namespace ToySystem.Data

/-! Circular lists that are linked both ways.

A ring is seen from one of its nodes, with the others in the order of `next`.  It may be
seen from any node (`Ring.turn`), so that the one rule for linking a node in puts it before
the node that the ring is seen from, and the one for taking a node out takes out that node.
-/

section

variable {Address : Type*}

def Linked (next prev : Address → Address) (first second : Address) : Prop :=
  next first = second ∧ prev second = first

structure Ring (next prev : Address → Address) (seen : Address) (others : List Address) :
    Prop where
  linked : (seen :: (others ++ [seen])).IsChain (Linked next prev)
  distinct : (seen :: others).Nodup

namespace Ring

variable {next prev nextAfter prevAfter : Address → Address} {seen node : Address}
  {others before after : List Address}

theorem alone (forwards : next node = node) (backwards : prev node = node) :
    Ring next prev node [] where
  linked := List.isChain_pair.mpr ⟨forwards, backwards⟩
  distinct := List.nodup_singleton node

theorem turn (ring : Ring next prev seen (before ++ node :: after)) :
    Ring next prev node (after ++ seen :: before) where
  linked := by
    have halves : (seen :: before ++ node :: (after ++ [seen])).IsChain (Linked next prev) := by
      simpa only [List.cons_append, List.append_assoc] using ring.linked
    have swapped : (node :: after ++ seen :: (before ++ [node])).IsChain (Linked next prev) := by
      rw [List.isChain_split] at halves ⊢
      exact ⟨halves.2, halves.1⟩
    simpa only [List.cons_append, List.append_assoc] using swapped
  distinct := by
    have swapped : (node :: (after ++ seen :: before)).Perm (seen :: (before ++ node :: after)) :=
      @List.perm_append_comm _ (node :: after) (seen :: before)
    exact swapped.nodup_iff.mpr ring.distinct

theorem next_eq (ring : Ring next prev seen others) : next seen = others.headD seen := by
  cases others with
  | nil => exact (List.isChain_pair.mp ring.linked).1
  | cons first rest => exact (List.isChain_cons_cons.mp ring.linked).1.1

theorem prev_eq (ring : Ring next prev seen others) : prev seen = others.getLastD seen := by
  cases others using List.reverseRecOn with
  | nil => exact (List.isChain_pair.mp ring.linked).2
  | append_singleton rest last =>
      have split : (seen :: rest ++ last :: seen :: []).IsChain (Linked next prev) := by
        simpa only [List.cons_append, List.append_assoc, List.nil_append] using ring.linked
      rw [List.getLastD_concat]
      exact (List.isChain_append_cons_cons.mp split).2.1.2

theorem congr (ring : Ring next prev seen others)
    (forwards : ∀ node ∈ seen :: others, nextAfter node = next node)
    (backwards : ∀ node ∈ seen :: others, prevAfter node = prev node) :
    Ring nextAfter prevAfter seen others where
  linked := by
    refine ring.linked.imp_of_mem_imp ?_
    rintro first second firstIn secondIn ⟨forth, back⟩
    have inRing : ∀ node ∈ seen :: (others ++ [seen]), node ∈ seen :: others := by
      intro node member
      have cases := List.mem_cons.mp member
      rw [List.mem_append, List.mem_singleton] at cases
      rcases cases with same | other | same
      · exact same ▸ List.mem_cons_self
      · exact List.mem_cons_of_mem seen other
      · exact same ▸ List.mem_cons_self
    exact ⟨(forwards first (inRing first firstIn)).trans forth,
      (backwards second (inRing second secondIn)).trans back⟩
  distinct := ring.distinct

theorem next_mem (ring : Ring next prev seen others) : next seen ∈ seen :: others := by
  rw [ring.next_eq]
  cases others with
  | nil => exact List.mem_cons_self
  | cons first rest => exact List.mem_cons_of_mem seen List.mem_cons_self

theorem prev_mem (ring : Ring next prev seen others) : prev seen ∈ seen :: others := by
  rw [ring.prev_eq]
  cases others using List.reverseRecOn with
  | nil => exact List.mem_cons_self
  | append_singleton rest last =>
      rw [List.getLastD_concat]
      exact List.mem_cons_of_mem seen List.mem_concat_self

/-- Up to the last node, which leads back to the one that the ring is seen from. -/
theorem open_eq (ring : Ring next prev seen others) :
    ∃ front, seen :: others = front ++ [prev seen] ∧ next (prev seen) = seen ∧
      (front ++ [prev seen]).IsChain (Linked next prev) := by
  have nonempty : seen :: others ≠ [] := List.cons_ne_nil seen others
  obtain ⟨front, last, shape⟩ := List.eq_nil_or_concat' (seen :: others) |>.resolve_left nonempty
  have whole : (front ++ last :: seen :: []).IsChain (Linked next prev) := by
    have linked := ring.linked
    rw [← List.cons_append, shape, List.append_assoc] at linked
    exact linked
  obtain ⟨inner, ⟨forth, back⟩, -⟩ := List.isChain_append_cons_cons.mp whole
  subst back
  exact ⟨front, shape, forth, inner⟩

theorem neighbours_mem (ring : Ring next prev seen others) (member : node ∈ seen :: others) :
    next node ∈ seen :: others ∧ prev node ∈ seen :: others := by
  rcases List.mem_cons.mp member with same | later
  · subst node
    exact ⟨ring.next_mem, ring.prev_mem⟩
  · obtain ⟨before, after, rfl⟩ := List.append_of_mem later
    have same : ∀ other, other ∈ node :: (after ++ seen :: before) ↔
        other ∈ seen :: (before ++ node :: after) := by
      intro other
      exact (@List.perm_append_comm _ (node :: after) (seen :: before)).mem_iff
    exact ⟨(same _).mp ring.turn.next_mem, (same _).mp ring.turn.prev_mem⟩

theorem next_of_split (ring : Ring next prev seen (before ++ node :: after)) :
    next node = after.headD seen := by
  rw [ring.turn.next_eq]
  cases after with
  | nil => rfl
  | cons first rest => rfl

theorem prev_of_split (ring : Ring next prev seen (before ++ node :: after)) :
    prev (after.headD seen) = node := by
  cases after with
  | nil => exact ring.prev_eq.trans List.getLastD_concat
  | cons first rest =>
      rw [List.append_cons] at ring
      have last := ring.turn.prev_eq
      rw [← List.cons_append, ← List.append_assoc, List.getLastD_concat] at last
      exact last

variable [DecidableEq Address]

/-- A node is linked in before the one that the ring is seen from. -/
theorem link (ring : Ring next prev seen others) (outside : node ∉ seen :: others) :
    Ring (Function.update (Function.update next node seen) (prev seen) node)
      (Function.update (Function.update prev node (prev seen)) seen node)
      seen (others ++ [node]) where
  linked := by
    obtain ⟨front, shape, closed, inner⟩ := ring.open_eq
    have apart : ∀ other ∈ seen :: others, other ≠ node := by
      rintro other member rfl
      exact outside member
    have kept : (front ++ [prev seen]).IsChain
        (Linked (Function.update (Function.update next node seen) (prev seen) node)
          (Function.update (Function.update prev node (prev seen)) seen node)) := by
      refine inner.imp_of_mem_tail_imp ?_
      rintro first second firstIn secondIn ⟨forth, back⟩
      rw [← shape] at firstIn secondIn
      have secondOther : second ≠ seen := by
        rintro rfl
        exact (List.nodup_cons.mp ring.distinct).1 secondIn
      have firstInner : first ≠ prev seen := by
        rintro rfl
        exact secondOther (forth.symm.trans closed)
      constructor
      · rw [Function.update_of_ne firstInner, Function.update_of_ne (apart first firstIn), forth]
      · rw [Function.update_of_ne secondOther,
          Function.update_of_ne (apart second (List.mem_cons_of_mem seen secondIn)), back]
    have nodeOther : node ≠ prev seen := (apart _ ring.prev_mem).symm
    have seenOther : seen ≠ node := apart seen List.mem_cons_self
    have layout : seen :: (others ++ [node] ++ [seen]) = front ++ prev seen :: node :: [seen] := by
      rw [List.append_assoc, ← List.cons_append, shape, List.append_assoc]
      rfl
    rw [layout, List.isChain_append_cons_cons, List.isChain_pair]
    refine ⟨kept, ⟨Function.update_self .., ?_⟩, ?_, Function.update_self ..⟩
    · rw [Function.update_of_ne seenOther.symm, Function.update_self]
    · rw [Function.update_of_ne nodeOther, Function.update_self]
  distinct := by
    have apart : (seen :: others ++ [node]).Nodup := List.nodup_append.mpr
      ⟨ring.distinct, List.nodup_singleton node, by
        intro other member last inLast
        rw [List.mem_singleton.mp inLast]
        rintro rfl
        exact outside member⟩
    exact apart

/-- The node that the ring is seen from is taken out. -/
theorem unlink {first : Address} {rest : List Address}
    (ring : Ring next prev node (first :: rest)) :
    Ring (Function.update next (prev node) (next node))
      (Function.update prev (next node) (prev node)) first rest where
  linked := by
    obtain ⟨outside, distinct⟩ := List.nodup_cons.mp ring.distinct
    have forwards : next node = first := ring.next_eq
    -- Seen from the next node, the one to go is the last.
    have turned : Ring next prev first (rest ++ [node]) := @turn _ _ _ _ _ [] rest ring
    have nonempty : first :: rest ≠ [] := List.cons_ne_nil first rest
    obtain ⟨front, last, shape⟩ := (List.eq_nil_or_concat' (first :: rest)).resolve_left nonempty
    have whole : (front ++ last :: node :: [first]).IsChain (Linked next prev) := by
      have layout : front ++ last :: node :: [first] = first :: (rest ++ [node] ++ [first]) := by
        rw [List.append_assoc, ← List.cons_append, shape, List.append_assoc]
        rfl
      rw [layout]
      exact turned.linked
    obtain ⟨inner, ⟨leads, back⟩, -⟩ := List.isChain_append_cons_cons.mp whole
    have kept : (front ++ [last]).IsChain
        (Linked (Function.update next last first) (Function.update prev first last)) := by
      refine inner.imp_of_mem_tail_imp ?_
      rintro here there hereIn thereIn ⟨forth, backwards⟩
      rw [← shape] at hereIn thereIn
      have thereOther : there ≠ first := by
        rintro rfl
        exact (List.nodup_cons.mp distinct).1 thereIn
      have hereInner : here ≠ last := by
        rintro rfl
        have same : node = there := leads.symm.trans forth
        exact outside (same ▸ List.mem_cons_of_mem first thereIn)
      constructor
      · rw [Function.update_of_ne hereInner, forth]
      · rw [Function.update_of_ne thereOther, backwards]
    have layout : first :: (rest ++ [first]) = front ++ last :: [first] := by
      rw [← List.cons_append, shape, List.append_assoc]
      rfl
    rw [forwards, back, layout, List.isChain_split, List.isChain_pair]
    exact ⟨kept, Function.update_self .., Function.update_self ..⟩
  distinct := (List.nodup_cons.mp ring.distinct).2

theorem insert (ring : Ring next prev seen (before ++ after)) {place : Address}
    (placed : place = after.headD seen) (outside : node ∉ seen :: (before ++ after)) :
    Ring (Function.update (Function.update next node place) (prev place) node)
      (Function.update (Function.update prev node (prev place)) place node)
      seen (before ++ node :: after) := by
  cases after with
  | nil =>
      subst place
      rw [List.append_nil] at ring outside
      exact ring.link outside
  | cons first rest =>
      subst place
      have turned := ring.turn
      have elsewhere : node ∉ first :: (rest ++ seen :: before) := by
        intro member
        exact outside ((@List.perm_append_comm _ (first :: rest) (seen :: before)).mem_iff.mp member)
      have linked := turned.link elsewhere
      rw [List.append_assoc, List.cons_append] at linked
      have back := linked.turn
      rw [List.append_assoc] at back
      exact back

theorem erase (ring : Ring next prev seen (before ++ node :: after)) :
    Ring (Function.update next (prev node) (next node))
      (Function.update prev (next node) (prev node)) seen (before ++ after) := by
  have turned := ring.turn
  cases after with
  | nil =>
      rw [List.append_nil]
      exact turned.unlink
  | cons first rest => exact turned.unlink.turn

end Ring

end

end ToySystem.Data
