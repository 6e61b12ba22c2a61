import ToySystem.Libc.IntRange
import ToySystem.Ui.Shell

namespace ToySystem.Ui.SplitLine

open ToySystem.Libc (InInt int int_of_inInt)
open ToySystem.Ui.Shell (toyTokDelim)

/-! # The array of tokens

`toy_split_line` of `ui/input.c` with the array it fills: a write outside the array
and a counter that leaves the range of `int` have no result.
-/

abbrev Token := List Char

def toyTokBufsize : Nat := 64

def isDelim (c : Char) : Bool := c ∈ toyTokDelim

/-- What `strtok` returns on the text it has kept, and the text it keeps then. -/
def strtok (text : List Char) : Option (Token × List Char) :=
  match text.dropWhile isDelim with
  | [] => none
  | first :: text =>
      let token := (first :: text).takeWhile fun c => !isDelim c
      some (token, (first :: text).drop (token.length + 1))

theorem strtok_shorter {text rest : List Char} {token : Token}
    (found : strtok text = some (token, rest)) : rest.length < text.length := by
  have skipped := (List.dropWhile_sublist isDelim (l := text)).length_le
  unfold strtok at found
  split at found
  · cases found
  · rename_i first behind shape
    rw [shape, List.length_cons] at skipped
    cases found
    rw [List.length_drop, List.length_cons]
    omega

/-- An element of the array. -/
inductive Slot where
  | uninit
  | token (token : Token)
  | null

/-- `tokens[position] = slot` -/
def assign (tokens : List Slot) (position : Int) (slot : Slot) : Option (List Slot) :=
  if 0 ≤ position ∧ position < tokens.length then some (tokens.set position.toNat slot) else none

/-- `malloc` and `realloc` succeed; what is new is not initialized. -/
def realloc (tokens : List Slot) (bufsize : Int) : List Slot :=
  tokens ++ List.replicate (bufsize.toNat - tokens.length) .uninit

def splitLoop (text : List Char) (tokens : List Slot) (bufsize position : Int) :
    Option (List Slot) :=
  match _found : strtok text with
  | none => assign tokens position .null
  | some (token, rest) => do
      let tokens ← assign tokens position (.token token)
      let position ← int (position + 1)
      if bufsize ≤ position then
        let bufsize ← int (bufsize + toyTokBufsize)
        splitLoop rest (realloc tokens bufsize) bufsize position
      else splitLoop rest tokens bufsize position
termination_by text.length
decreasing_by
  · exact strtok_shorter _found
  · exact strtok_shorter _found

/-- A line as the functions of C see it. -/
def cString (line : List Char) : List Char := line.takeWhile fun c => c ≠ '\x00'

def toySplitLine (line : List Char) : Option (List Slot) :=
  splitLoop (cString line) (realloc [] toyTokBufsize) toyTokBufsize 0

/-- The maximal runs of other characters than delimiters, in order. -/
inductive Tokenized : List Char → List Token → Prop where
  | nil : Tokenized [] []
  | delim {c : Char} {text : List Char} {tokens : List Token} (delim : isDelim c = true)
      (rest : Tokenized text tokens) : Tokenized (c :: text) tokens
  | run {token : Token} {text : List Char} {tokens : List Token} (nonempty : token ≠ [])
      (plain : ∀ c ∈ token, isDelim c = false) (ends : ∀ c ∈ text.head?, isDelim c = true)
      (rest : Tokenized text tokens) : Tokenized (token ++ text) (token :: tokens)

/-- The array holds the runs and a null behind them. -/
def SplitsLine (line : List Char) : Prop :=
  ∃ slots tokens, toySplitLine line = some slots ∧ Tokenized (cString line) tokens ∧
    tokens.map Slot.token ++ [.null] <+: slots

/-- The number of runs: of the characters that end one. -/
def runCount : List Char → Nat
  | [] => 0
  | c :: text =>
      (if isDelim c = false ∧ text.head?.all isDelim = true then 1 else 0) + runCount text

theorem Tokenized.behind_delim {c : Char} {text : List Char} {tokens : List Token}
    (tokenized : Tokenized (c :: text) tokens) (delim : isDelim c = true) :
    Tokenized text tokens := by
  generalize shape : c :: text = line at tokenized
  cases tokenized with
  | nil => cases shape
  | delim _ rest =>
      cases shape
      exact rest
  | @run token text' tokens nonempty plain ends rest =>
      cases token with
      | nil => exact absurd rfl nonempty
      | cons first token =>
          have same := (List.cons.inj shape).1
          have notDelim := plain first List.mem_cons_self
          rw [← same, delim] at notDelim
          cases notDelim

theorem strtok_delim {c : Char} (delim : isDelim c = true) (text : List Char) :
    strtok (c :: text) = strtok text := by
  rw [strtok, List.dropWhile_cons_of_pos delim, strtok]

theorem strtok_run {token : Token} {text : List Char} (nonempty : token ≠ [])
    (plain : ∀ c ∈ token, isDelim c = false) (ends : ∀ c ∈ text.head?, isDelim c = true) :
    strtok (token ++ text) = some (token, text.drop 1) := by
  have whole : (token ++ text).takeWhile (fun c => !isDelim c) = token := by
    have none : text.takeWhile (fun c => !isDelim c) = [] := by
      cases text with
      | nil => rfl
      | cons c text => rw [List.takeWhile_cons_of_neg (by rw [ends c rfl]; decide)]
    rw [List.takeWhile_append_of_pos (fun c member => by rw [plain c member]; rfl), none,
      List.append_nil]
  cases token with
  | nil => exact absurd rfl nonempty
  | cons first token =>
      have notDelim := plain first List.mem_cons_self
      rw [List.cons_append] at whole ⊢
      rw [strtok, List.dropWhile_cons_of_neg (by rw [notDelim]; decide)]
      simp only [whole]
      rw [← List.cons_append, List.drop_append, List.drop_eq_nil_of_le (by omega),
        List.nil_append, Nat.add_sub_cancel_left]

/-- `strtok` finds the runs one by one. -/
theorem strtok_of_tokenized {text : List Char} {tokens : List Token}
    (tokenized : Tokenized text tokens) :
    match tokens with
    | [] => strtok text = none
    | token :: tokens => ∃ rest, strtok text = some (token, rest) ∧ Tokenized rest tokens := by
  induction tokenized with
  | nil => rfl
  | @delim c text tokens delim rest ih =>
      cases tokens with
      | nil => exact (strtok_delim delim text).trans ih
      | cons token tokens =>
          obtain ⟨kept, found, tokenized⟩ := ih
          exact ⟨kept, (strtok_delim delim text).trans found, tokenized⟩
  | @run token text tokens nonempty plain ends rest ih =>
      refine ⟨text.drop 1, strtok_run nonempty plain ends, ?_⟩
      cases text with
      | nil => exact rest
      | cons c text => exact rest.behind_delim (ends c rfl)

theorem tokenized_exists (text : List Char) : ∃ tokens, Tokenized text tokens := by
  induction text with
  | nil => exact ⟨[], .nil⟩
  | cons c text ih =>
      obtain ⟨tokens, tokenized⟩ := ih
      by_cases delim : isDelim c = true
      · exact ⟨tokens, .delim delim tokenized⟩
      · have plain : isDelim c = false := Bool.eq_false_iff.mpr delim
        by_cases ends : ∀ next ∈ text.head?, isDelim next = true
        · have alone : ∀ next ∈ [c], isDelim next = false := by simpa using plain
          exact ⟨[c] :: tokens, .run (List.cons_ne_nil c []) alone ends tokenized⟩
        · -- the run that the rest starts with is one character longer
          cases tokenized with
          | nil => exact absurd (by simp) ends
          | delim first rest => exact absurd (by simpa using first) ends
          | @run token text tokens nonempty others behind rest =>
              refine ⟨(c :: token) :: tokens, ?_⟩
              exact .run (List.cons_ne_nil c token) (List.forall_mem_cons.mpr ⟨plain, others⟩)
                behind rest

theorem runCount_run {token : Token} {text : List Char} (nonempty : token ≠ [])
    (plain : ∀ c ∈ token, isDelim c = false) (ends : ∀ c ∈ text.head?, isDelim c = true) :
    runCount (token ++ text) = 1 + runCount text := by
  induction token with
  | nil => exact absurd rfl nonempty
  | cons first token ih =>
      rw [List.forall_mem_cons] at plain
      rw [List.cons_append, runCount]
      cases token with
      | nil =>
          have atEnd : text.head?.all isDelim = true := (Option.all_eq_true _ _).mpr ends
          rw [List.nil_append, if_pos ⟨plain.1, atEnd⟩]
      | cons second token =>
          have goesOn : ¬ (second :: token ++ text).head?.all isDelim = true := by
            intro delims
            have delim := (Option.all_eq_true _ _).mp delims second rfl
            rw [plain.2 second List.mem_cons_self] at delim
            cases delim
          rw [if_neg (fun both => goesOn both.2), ih (List.cons_ne_nil _ _) plain.2, Nat.zero_add]

theorem runCount_eq {text : List Char} {tokens : List Token} (tokenized : Tokenized text tokens) :
    runCount text = tokens.length := by
  induction tokenized with
  | nil => rfl
  | @delim c text tokens delim rest ih =>
      have notDelim : ¬ (isDelim c = false ∧ text.head?.all isDelim = true) := by
        rw [delim]
        exact fun both => Bool.noConfusion both.1
      rw [runCount, if_neg notDelim, Nat.zero_add, ih]
  | run nonempty plain ends rest ih =>
      rw [runCount_run nonempty plain ends, ih, List.length_cons, Nat.add_comm]

/-- The elements allocated when `position` tokens are stored. -/
def capacity (position : Nat) : Nat := toyTokBufsize * (position / toyTokBufsize + 1)

/-- At this number of tokens the size of the array leaves the range of `int`. -/
def tokenLimit : Nat := 2 ^ 31 - toyTokBufsize

/-- The array when `done` is stored and, behind it, `next`. -/
def filled (done : List Token) (next : List Slot) : List Slot :=
  done.map Slot.token ++ next ++
    List.replicate (capacity done.length - done.length - next.length) .uninit

theorem lt_capacity (position : Nat) : position < capacity position := by
  rw [capacity, toyTokBufsize]
  omega

theorem filled_length (done : List Token) : (filled done []).length = capacity done.length := by
  have room := lt_capacity done.length
  rw [filled, List.length_append, List.length_append, List.length_map, List.length_nil,
    List.length_replicate]
  omega

theorem assign_filled (done : List Token) (slot : Slot) :
    assign (filled done []) done.length slot = some (filled done [slot]) := by
  have room := lt_capacity done.length
  have inside : 0 ≤ (done.length : Int) ∧ (done.length : Int) < (filled done []).length := by
    rw [filled_length]
    omega
  have front : (done.map Slot.token).length = done.length := List.length_map _
  obtain ⟨rest, left⟩ : ∃ rest, capacity done.length - done.length = rest + 1 :=
    ⟨capacity done.length - done.length - 1, by omega⟩
  rw [assign, if_pos inside, Int.toNat_natCast, filled, filled, left, List.append_nil,
    List.length_nil, List.length_singleton, Nat.sub_zero, Nat.add_sub_cancel, List.replicate_succ,
    List.set_append_right _ _ (by omega), front, Nat.sub_self, List.set_cons_zero,
    List.append_assoc, List.singleton_append]

theorem capacity_next (position : Nat) :
    capacity position = position + 1 ∧ capacity (position + 1) = capacity position + toyTokBufsize ∨
      position + 1 < capacity position ∧ capacity (position + 1) = capacity position := by
  unfold capacity toyTokBufsize
  omega

theorem filled_same {done : List Token} (token : Token)
    (same : capacity (done.length + 1) = capacity done.length) :
    filled done [.token token] = filled (done ++ [token]) [] := by
  rw [filled, filled, List.map_append, List.length_append, List.length_singleton,
    List.length_singleton, List.length_nil, same, Nat.sub_zero, Nat.sub_sub, List.append_nil]
  rfl

theorem filled_grown {done : List Token} (token : Token)
    (full : capacity done.length = done.length + 1)
    (grown : capacity (done.length + 1) = capacity done.length + toyTokBufsize) :
    realloc (filled done [.token token]) (capacity done.length + toyTokBufsize : Nat) =
      filled (done ++ [token]) [] := by
  have room : capacity done.length - done.length - 1 = 0 := by omega
  have before : filled done [.token token] = done.map Slot.token ++ [.token token] := by
    rw [filled, List.length_singleton, room, List.replicate_zero, List.append_nil]
  have length : (done.map Slot.token ++ [Slot.token token]).length = done.length + 1 := by
    rw [List.length_append, List.length_map, List.length_singleton]
  have more : capacity (done.length + 1) - (done.length + 1) = toyTokBufsize := by omega
  rw [before, realloc, length, Int.toNat_natCast, filled, List.map_append, List.length_append,
    List.length_singleton, List.length_nil, Nat.sub_zero, more, List.append_nil, full,
    Nat.add_sub_cancel_left]
  rfl

section

variable {text rest : List Char} {tokens : List Slot} {token : Token} {bufsize position : Int}

theorem splitLoop_none (found : strtok text = none) :
    splitLoop text tokens bufsize position = assign tokens position .null := by
  rw [splitLoop]
  split
  · rfl
  · rename_i other
    rw [found] at other
    cases other

theorem splitLoop_some (found : strtok text = some (token, rest)) {stored : List Slot}
    (assigned : assign tokens position (.token token) = some stored)
    (counted : InInt (position + 1)) :
    splitLoop text tokens bufsize position =
      if bufsize ≤ position + 1 then
        (int (bufsize + toyTokBufsize)).bind fun bufsize =>
          splitLoop rest (realloc stored bufsize) bufsize (position + 1)
      else splitLoop rest stored bufsize (position + 1) := by
  rw [splitLoop]
  split
  · rename_i other
    rw [found] at other
    cases other
  · rename_i token' rest' other
    rw [found] at other
    cases other
    simp only [assigned, int_of_inInt counted, Option.bind_eq_bind, Option.bind_some]

end

/-- The array cannot grow beyond the range of `int`. -/
theorem int_grown {position : Nat} (full : capacity position = position + 1) :
    int ((capacity position : Int) + toyTokBufsize) =
      if position + 1 < tokenLimit then
        some ((capacity position + toyTokBufsize : Nat) : Int)
      else none := by
  have step : toyTokBufsize = 64 := rfl
  have limit : tokenLimit = 2 ^ 31 - 64 := rfl
  by_cases fits : position + 1 < tokenLimit
  · have inRange : InInt ((capacity position : Int) + toyTokBufsize) := by
      unfold InInt
      omega
    rw [int_of_inInt inRange, if_pos fits]
    rfl
  · have outside : ¬ InInt ((capacity position : Int) + toyTokBufsize) := by
      unfold InInt
      omega
    rw [int, if_neg outside, if_neg fits]

/-- What holds at the head of the loop gives the array, or an `int` too large. -/
theorem splitLoop_eq {text : List Char} {tokens : List Token} (tokenized : Tokenized text tokens)
    {done : List Token} (small : done.length < tokenLimit) :
    splitLoop text (filled done []) (capacity done.length) done.length =
      if done.length + tokens.length < tokenLimit then some (filled (done ++ tokens) [.null])
      else none := by
  induction tokens generalizing text done with
  | nil =>
      have found : strtok text = none := strtok_of_tokenized tokenized
      rw [splitLoop_none found, assign_filled, List.append_nil]
      exact (if_pos small).symm
  | cons token tokens ih =>
      obtain ⟨rest, found, tokenized⟩ := strtok_of_tokenized tokenized
      have assigned := assign_filled done (.token token)
      have counted : InInt ((done.length : Int) + 1) := by
        have limit : tokenLimit = 2 ^ 31 - 64 := rfl
        unfold InInt
        omega
      have later := @ih rest tokenized (done ++ [token])
      rw [List.length_append, List.length_singleton, List.append_assoc, List.singleton_append,
        Nat.add_assoc, Nat.add_comm 1] at later
      rw [splitLoop_some found assigned counted, List.length_cons]
      rcases capacity_next done.length with ⟨full, grown⟩ | ⟨room, same⟩
      · rw [if_pos (by omega), int_grown full]
        by_cases fits : done.length + 1 < tokenLimit
        · rw [if_pos fits, Option.bind_some, filled_grown token full grown, ← grown]
          exact later fits
        · rw [if_neg fits, if_neg (by omega)]
          rfl
      · -- below the capacity the limit is not reached
        have fits : done.length + 1 < tokenLimit := by
          have limit : tokenLimit = toyTokBufsize * (2 ^ 25 - 1) := rfl
          unfold capacity toyTokBufsize at room
          unfold toyTokBufsize at limit
          omega
        rw [if_neg (by omega), filled_same token same, ← same]
        exact later fits

theorem toySplitLine_eq {line : List Char} {tokens : List Token}
    (tokenized : Tokenized (cString line) tokens) :
    toySplitLine line =
      if tokens.length < tokenLimit then some (filled tokens [.null]) else none := by
  have empty : realloc [] toyTokBufsize = filled [] [] := rfl
  have all := @splitLoop_eq (cString line) tokens tokenized [] (by decide)
  rw [List.length_nil, Nat.zero_add, List.nil_append] at all
  rw [toySplitLine, empty]
  exact all

/-- The array holds the tokens of the line as long as the counters are in range. -/
theorem splitsLine_iff (line : List Char) :
    SplitsLine line ↔ runCount (cString line) < 2 ^ 31 - 64 := by
  have limit : tokenLimit = 2 ^ 31 - 64 := rfl
  obtain ⟨tokens, tokenized⟩ := tokenized_exists (cString line)
  have returned := toySplitLine_eq tokenized
  rw [runCount_eq tokenized, ← limit]
  constructor
  · rintro ⟨slots, _, some, _, _⟩
    rw [returned] at some
    split at some
    · assumption
    · cases some
  · intro small
    rw [if_pos small] at returned
    exact ⟨_, tokens, returned, tokenized, List.prefix_append _ _⟩

def repeated (count : Nat) : List Char := (List.replicate count ['a', ' ']).flatten

theorem tokenized_repeated (count : Nat) :
    Tokenized (repeated count) (List.replicate count ['a']) := by
  induction count with
  | zero => exact .nil
  | succ count ih =>
      have plain : ∀ c ∈ ['a'], isDelim c = false := by
        intro c isA
        cases List.mem_singleton.mp isA
        rfl
      have ends : ∀ c ∈ (' ' :: repeated count).head?, isDelim c = true := by
        intro c isHead
        cases Option.mem_some_iff.mp isHead
        rfl
      exact .run (List.cons_ne_nil _ _) plain ends (.delim rfl ih)

theorem cString_repeated (count : Nat) : cString (repeated count) = repeated count := by
  refine List.takeWhile_eq_self_iff.mpr ?_
  intro c member
  obtain ⟨piece, isPiece, inside⟩ := List.mem_flatten.mp member
  rw [List.eq_of_mem_replicate isPiece] at inside
  rcases List.mem_pair.mp inside with isA | isSpace
  · cases isA
    rfl
  · cases isSpace
    rfl

/-- At the limit the size of the array overflows, on a line of 4 GiB. -/
theorem not_splitsLine_long : ¬ ∀ line, SplitsLine line := by
  intro all
  obtain ⟨slots, _, some, _, _⟩ := all (repeated tokenLimit)
  have tokenized := tokenized_repeated tokenLimit
  rw [← cString_repeated] at tokenized
  have returned := toySplitLine_eq tokenized
  rw [List.length_replicate, if_neg (Nat.lt_irrefl _), some] at returned
  cases returned

theorem splitOnP_delim {c : Char} (delim : isDelim c = true) (text : List Char) :
    (c :: text).splitOnP isDelim = [] :: text.splitOnP isDelim :=
  List.splitOnP_append_cons_of_forall_mem (List.forall_mem_nil _) c delim text

theorem splitOnP_tokenized {text : List Char} {tokens : List Token}
    (tokenized : Tokenized text tokens) :
    (text.splitOnP isDelim).filter (fun token => token ≠ []) = tokens := by
  induction tokenized with
  | nil => rfl
  | delim delim rest ih =>
      rw [splitOnP_delim delim]
      exact ih
  | @run token text tokens nonempty plain ends rest ih =>
      cases text with
      | nil =>
          have none : tokens = [] := ih.symm
          rw [List.append_nil, List.splitOnP_eq_singleton plain, none]
          exact List.filter_eq_self.mpr (by simpa using nonempty)
      | cons c text =>
          rw [splitOnP_delim (ends c rfl)] at ih
          rw [List.splitOnP_append_cons_of_forall_mem plain c (ends c rfl),
            List.filter_cons_of_pos (by simpa using nonempty)]
          exact congrArg (token :: ·) ih

/-- The commands work on the tokens of this array. -/
theorem shell_toySplitLine {line : List Char} {tokens : List Token}
    (tokenized : Tokenized (cString line) tokens) : Shell.toySplitLine line = tokens :=
  splitOnP_tokenized tokenized

end ToySystem.Ui.SplitLine
