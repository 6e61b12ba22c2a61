import Mathlib.Data.List.Infix

namespace ToySystem.Data

/-! # Readers of a log

Entries are appended to a log.  A reader that follows it got the entries from some
point on, in their order and each of them once, and is owed the rest.  A reader that
stopped got a part of the log without gaps.
-/

section

variable {Entry : Type*} {log got owed : List Entry}

def Follows (log got owed : List Entry) : Prop := got ++ owed <:+ log

theorem follows_start (log : List Entry) : Follows log [] [] := List.nil_suffix

theorem Follows.publish (follows : Follows log got owed) (entry : Entry) :
    Follows (log ++ [entry]) got (owed ++ [entry]) := by
  obtain ⟨before, rfl⟩ := follows
  exact ⟨before, by simp⟩

theorem Follows.deliver {entry : Entry} (follows : Follows log got (entry :: owed)) :
    Follows log (got ++ [entry]) owed := by
  unfold Follows at follows ⊢
  rwa [List.append_assoc, List.singleton_append]

theorem Follows.part (follows : Follows log got owed) : got <:+: log :=
  (List.prefix_append got owed).isInfix.trans follows.isInfix

theorem part_publish (block : got <:+: log) (entry : Entry) : got <:+: log ++ [entry] :=
  block.trans (List.prefix_append log [entry]).isInfix

/-- A reader that follows a second reader's entries follows the log. -/
theorem Follows.trans {read unread : List Entry} (follows : Follows log got owed)
    (shares : got = read ++ unread) : Follows log read (unread ++ owed) := by
  unfold Follows at follows ⊢
  rwa [← List.append_assoc, ← shares]

/-- For a reader that is owed nothing, the last of its entries of a kind is the last one
in the log. -/
theorem Follows.getLast?_filter (follows : Follows log got []) {kind : Entry → Bool}
    (some : got.filter kind ≠ []) :
    (got.filter kind).getLast? = (log.filter kind).getLast? := by
  obtain ⟨before, rfl⟩ := follows
  rw [List.append_nil, List.filter_append, List.getLast?_append_of_ne_nil _ some]

end

end ToySystem.Data
