import ToySystem.Data.Run

namespace ToySystem.Data

/-! # JSON

A value is rendered as package `encoding/json` of Go renders it, and read back by a
scanner that takes one character after the other.  A number is kept as the literal
that was read; the fields of an object are kept in their order, with duplicates.
-/

inductive Json where
  | null
  | bool (value : Bool)
  | number (literal : List Char)
  | string (chars : List Char)
  | array (items : List Json)
  | object (fields : List (List Char × Json))

namespace Json

def hexDigit (value : Nat) : Char :=
  if value < 10 then Char.ofNat (48 + value) else Char.ofNat (87 + value)

def hexValue (c : Char) : Option Nat :=
  if '0' ≤ c ∧ c ≤ '9' then some (c.toNat - 48)
  else if 'a' ≤ c ∧ c ≤ 'f' then some (c.toNat - 87)
  else if 'A' ≤ c ∧ c ≤ 'F' then some (c.toNat - 55)
  else none

def unicodeEscape (code : Nat) : List Char :=
  ['\\', 'u', hexDigit (code / 4096 % 16), hexDigit (code / 256 % 16), hexDigit (code / 16 % 16),
    hexDigit (code % 16)]

/-- One character in a string; the characters that mean something in HTML are escaped too. -/
def escape (c : Char) : List Char :=
  if c = '\\' ∨ c = '\"' then ['\\', c]
  else if c = '\n' then ['\\', 'n']
  else if c = '\r' then ['\\', 'r']
  else if c = '\t' then ['\\', 't']
  else if c.toNat < 32 ∨ c = '<' ∨ c = '>' ∨ c = '&' ∨ c.toNat = 0x2028 ∨ c.toNat = 0x2029 then
    unicodeEscape c.toNat
  else [c]

def quote (chars : List Char) : List Char := '\"' :: (chars.flatMap escape ++ ['\"'])

mutual

def render : Json → List Char
  | .null => "null".toList
  | .bool true => "true".toList
  | .bool false => "false".toList
  | .number literal => literal
  | .string chars => quote chars
  | .array [] => ['[', ']']
  | .array (item :: rest) => '[' :: (render item ++ renderItems rest)
  | .object [] => ['{', '}']
  | .object ((name, value) :: rest) =>
      '{' :: (quote name ++ ':' :: (render value ++ renderFields rest))

/-- The items after the first one, and the end of the array. -/
def renderItems : List Json → List Char
  | [] => [']']
  | item :: rest => ',' :: (render item ++ renderItems rest)

def renderFields : List (List Char × Json) → List Char
  | [] => ['}']
  | (name, value) :: rest =>
      ',' :: (quote name ++ ':' :: (render value ++ renderFields rest))

end

/-- What has been read of a number. -/
inductive NumberState where
  | neg
  | zero
  | whole
  | dot
  | fraction
  | e
  | eSign
  | exponent
deriving DecidableEq

def NumberState.start (c : Char) : Option NumberState :=
  if c = '-' then some .neg
  else if c = '0' then some .zero
  else if c.isDigit then some .whole
  else none

def NumberState.next (state : NumberState) (c : Char) : Option NumberState :=
  match state with
  | .neg => if c = '0' then some .zero else if c.isDigit then some .whole else none
  | .zero => if c = '.' then some .dot else if c = 'e' ∨ c = 'E' then some .e else none
  | .whole =>
      if c.isDigit then some .whole
      else if c = '.' then some .dot
      else if c = 'e' ∨ c = 'E' then some .e
      else none
  | .dot => if c.isDigit then some .fraction else none
  | .fraction =>
      if c.isDigit then some .fraction else if c = 'e' ∨ c = 'E' then some .e else none
  | .e =>
      if c = '+' ∨ c = '-' then some .eSign else if c.isDigit then some .exponent else none
  | .eSign => if c.isDigit then some .exponent else none
  | .exponent => if c.isDigit then some .exponent else none

def NumberState.accepts : NumberState → Bool
  | .zero | .whole | .fraction | .exponent => true
  | .neg | .dot | .e | .eSign => false

/-- A value that is not complete yet. -/
inductive Frame where
  | item (before : List Json)
  | field (before : List (List Char × Json)) (name : List Char)

/-- What a string is read for. -/
inductive Target where
  | value
  | name (fields : List (List Char × Json))

/-- What is expected next; the lists hold what was read last at their head.  `high` is
the first half of a surrogate pair. -/
inductive Mode where
  | value
  | firstItem
  | afterItem (items : List Json)
  | firstName
  | name (fields : List (List Char × Json))
  | colon (fields : List (List Char × Json)) (name : List Char)
  | afterField (fields : List (List Char × Json))
  | done (value : Json)
  | chars (target : Target) (read : List Char) (high : Option Nat)
  | escape (target : Target) (read : List Char) (high : Option Nat)
  | hex (target : Target) (read : List Char) (high : Option Nat) (code count : Nat)
  | number (read : List Char) (state : NumberState)
  | word (rest : List Char) (value : Json)

structure Scanner where
  mode : Mode
  stack : List Frame

def isSpace (c : Char) : Bool := c = ' ' ∨ c = '\t' ∨ c = '\r' ∨ c = '\n'

def replacement : Char := Char.ofNat 0xfffd

def complete (value : Json) : List Frame → Scanner
  | [] => ⟨.done value, []⟩
  | .item before :: stack => ⟨.afterItem (value :: before), stack⟩
  | .field before name :: stack => ⟨.afterField ((name, value) :: before), stack⟩

/-- Half a surrogate pair that is not followed by the other half. -/
def flush (read : List Char) : Option Nat → List Char
  | none => read
  | some _ => replacement :: read

def pushAlone (target : Target) (read : List Char) (code : Nat) : Mode :=
  if 0xd800 ≤ code ∧ code < 0xdc00 then .chars target read (some code)
  else if 0xdc00 ≤ code ∧ code < 0xe000 then .chars target (replacement :: read) none
  else .chars target (Char.ofNat code :: read) none

def pushUnit (target : Target) (read : List Char) (high : Option Nat) (code : Nat) : Mode :=
  match high with
  | none => pushAlone target read code
  | some first =>
      if 0xdc00 ≤ code ∧ code < 0xe000 then
        let char := Char.ofNat (0x10000 + (first - 0xd800) * 0x400 + (code - 0xdc00))
        .chars target (char :: read) none
      else pushAlone target (replacement :: read) code

def finishString (target : Target) (read : List Char) (stack : List Frame) : Scanner :=
  match target with
  | .value => complete (.string read.reverse) stack
  | .name fields => ⟨.colon fields read.reverse, stack⟩

def escaped (c : Char) : Option Char :=
  if c = '\"' ∨ c = '\\' ∨ c = '/' then some c
  else if c = 'b' then some (Char.ofNat 8)
  else if c = 'f' then some (Char.ofNat 12)
  else if c = 'n' then some '\n'
  else if c = 'r' then some '\r'
  else if c = 't' then some '\t'
  else none

/-- The first character of a value; arrays and objects are at most `limit` deep. -/
def beginValue (limit : Nat) (stack : List Frame) (c : Char) : Option Scanner :=
  if c = '{' then if stack.length < limit then some ⟨.firstName, stack⟩ else none
  else if c = '[' then if stack.length < limit then some ⟨.firstItem, stack⟩ else none
  else if c = '\"' then some ⟨.chars .value [] none, stack⟩
  else if c = 't' then some ⟨.word "rue".toList (.bool true), stack⟩
  else if c = 'f' then some ⟨.word "alse".toList (.bool false), stack⟩
  else if c = 'n' then some ⟨.word "ull".toList .null, stack⟩
  else (NumberState.start c).map fun state => ⟨.number [c] state, stack⟩

/-- The step after a complete value. -/
def stepAfter (scanner : Scanner) (c : Char) : Option Scanner :=
  match scanner.mode with
  | .afterItem items =>
      if isSpace c then some scanner
      else if c = ',' then some ⟨.value, .item items :: scanner.stack⟩
      else if c = ']' then some (complete (.array items.reverse) scanner.stack)
      else none
  | .afterField fields =>
      if isSpace c then some scanner
      else if c = ',' then some ⟨.name fields, scanner.stack⟩
      else if c = '}' then some (complete (.object fields.reverse) scanner.stack)
      else none
  | .done _ => if isSpace c then some scanner else none
  | _ => none

def step (limit : Nat) (scanner : Scanner) (c : Char) : Option Scanner :=
  let stack := scanner.stack
  match scanner.mode with
  | .value => if isSpace c then some scanner else beginValue limit stack c
  | .firstItem =>
      if isSpace c then some scanner
      else if c = ']' then some (complete (.array []) stack)
      else beginValue limit (.item [] :: stack) c
  | .firstName =>
      if isSpace c then some scanner
      else if c = '}' then some (complete (.object []) stack)
      else if c = '\"' then some ⟨.chars (.name []) [] none, stack⟩
      else none
  | .name fields =>
      if isSpace c then some scanner
      else if c = '\"' then some ⟨.chars (.name fields) [] none, stack⟩
      else none
  | .colon fields name =>
      if isSpace c then some scanner
      else if c = ':' then some ⟨.value, .field fields name :: stack⟩
      else none
  | .chars target read high =>
      if c = '\"' then some (finishString target (flush read high) stack)
      else if c = '\\' then some ⟨.escape target read high, stack⟩
      else if c.toNat < 32 then none
      else some ⟨.chars target (c :: flush read high) none, stack⟩
  | .escape target read high =>
      if c = 'u' then some ⟨.hex target read high 0 3, stack⟩
      else (escaped c).map fun char => ⟨.chars target (char :: flush read high) none, stack⟩
  | .hex target read high code count =>
      (hexValue c).map fun digit =>
        match count with
        | 0 => ⟨pushUnit target read high (code * 16 + digit), stack⟩
        | count + 1 => ⟨.hex target read high (code * 16 + digit) count, stack⟩
  | .number read state =>
      match state.next c with
      | some next => some ⟨.number (c :: read) next, stack⟩
      | none => if state.accepts then stepAfter (complete (.number read.reverse) stack) c else none
  | .word rest value =>
      if rest = [c] then some (complete value stack)
      else if rest.head? = some c then some ⟨.word rest.tail value, stack⟩
      else none
  | .afterItem _ | .afterField _ | .done _ => stepAfter scanner c

def Scanner.start : Scanner := ⟨.value, []⟩

/-- The end of the text counts as a blank. -/
def parse (limit : Nat) (text : List Char) : Option Json :=
  (run (step limit) .start (text ++ [' '])).bind fun scanner =>
    match scanner.mode with
    | .done value => some value
    | _ => none

/-- A number that is no part of another value is complete with the first character that
it cannot go on with. -/
def Scanner.wholeNumber (scanner : Scanner) (c : Char) : Option Json :=
  match scanner.stack, scanner.mode with
  | [], .number read state =>
      if state.next c = none ∧ state.accepts then some (.number read.reverse) else none
  | _, _ => none

def firstValueFrom (limit : Nat) (scanner : Scanner) : List Char → Option Json
  | [] => scanner.wholeNumber ' '
  | c :: rest =>
      match scanner.wholeNumber c with
      | some value => some value
      | none => (step limit scanner c).bind fun next =>
          match next.mode with
          | .done value => some value
          | _ => firstValueFrom limit next rest

/-- The first value in a text.  What comes behind it is not looked at. -/
def firstValue (limit : Nat) (text : List Char) : Option Json := firstValueFrom limit .start text

def isNumber : List Char → Bool
  | [] => false
  | c :: rest =>
      match (NumberState.start c).bind fun state => run NumberState.next state rest with
      | some state => state.accepts
      | none => false

/-- The literals in a value are numbers, and with `level` values around it the arrays
and objects stay within the limit. -/
inductive Readable (limit : Nat) : Nat → Json → Prop where
  | null {level : Nat} : Readable limit level .null
  | bool {level : Nat} (value : Bool) : Readable limit level (.bool value)
  | number {level : Nat} {literal : List Char} (valid : isNumber literal = true) :
      Readable limit level (.number literal)
  | string {level : Nat} (chars : List Char) : Readable limit level (.string chars)
  | array {level : Nat} {items : List Json} (below : level < limit)
      (members : ∀ item ∈ items, Readable limit (level + 1) item) :
      Readable limit level (.array items)
  | object {level : Nat} {fields : List (List Char × Json)} (below : level < limit)
      (members : ∀ field ∈ fields, Readable limit (level + 1) field.2) :
      Readable limit level (.object fields)

/-- The characters that may follow a value. -/
def ends (c : Char) : Bool := c = ',' ∨ c = ']' ∨ c = '}' ∨ isSpace c

section

variable {limit : Nat} {stack : List Frame} {target : Target} {read : List Char}

theorem hexValue_hexDigit : ∀ digit < 16, hexValue (hexDigit digit) = some digit := by decide

theorem run_unicodeEscape {code : Nat} (small : code < 0xd800) :
    run (step limit) ⟨.chars target read none, stack⟩ (unicodeEscape code) =
      some ⟨.chars target (Char.ofNat code :: read) none, stack⟩ := by
  have digit (value : Nat) : hexValue (hexDigit (value % 16)) = some (value % 16) :=
    hexValue_hexDigit _ (Nat.mod_lt _ (by decide))
  have whole : ((code / 4096 % 16 * 16 + code / 256 % 16) * 16 + code / 16 % 16) * 16 +
      code % 16 = code := by omega
  have lone : pushUnit target read none code = .chars target (Char.ofNat code :: read) none := by
    simp only [pushUnit, pushAlone]
    rw [if_neg (by omega), if_neg (by omega)]
  simp [unicodeEscape, run, step, digit, whole, lone]

theorem run_escape (c : Char) :
    run (step limit) ⟨.chars target read none, stack⟩ (escape c) =
      some ⟨.chars target (c :: read) none, stack⟩ := by
  unfold escape
  split
  · next special =>
      rcases special with rfl | rfl <;> rfl
  split
  · next same => subst same; rfl
  split
  · next same => subst same; rfl
  split
  · next same => subst same; rfl
  split
  · next special =>
      have small : c.toNat < 0xd800 := by
        rcases special with control | rfl | rfl | rfl | line | line
        · omega
        · decide
        · decide
        · decide
        · omega
        · omega
      rw [run_unicodeEscape small, Char.ofNat_toNat]
  · next plain _ _ _ other =>
      have notQuote : c ≠ '\"' := fun same => plain (.inr same)
      have notSlash : c ≠ '\\' := fun same => plain (.inl same)
      have printed : ¬ c.toNat < 32 := fun control => other (.inl control)
      simp [run, step, notQuote, notSlash, printed, flush]

theorem run_escapes (chars : List Char) :
    run (step limit) ⟨.chars target read none, stack⟩ (chars.flatMap escape) =
      some ⟨.chars target (chars.reverse ++ read) none, stack⟩ := by
  induction chars generalizing read with
  | nil => rfl
  | cons c rest ih =>
      rw [List.flatMap_cons, run_append, run_escape, Option.bind_some, ih, List.reverse_cons,
        List.append_assoc, List.singleton_append]

theorem run_quoted (chars : List Char) :
    run (step limit) ⟨.chars target [] none, stack⟩ (chars.flatMap escape ++ ['\"']) =
      some (finishString target chars.reverse stack) := by
  rw [run_append, run_escapes, Option.bind_some, List.append_nil]
  rfl

theorem quote_append (chars rest : List Char) :
    quote chars ++ rest = '\"' :: (chars.flatMap escape ++ '\"' :: rest) := by
  simp [quote]

theorem begin_name (fields : List (List Char × Json)) :
    step limit ⟨.name fields, stack⟩ '\"' = some ⟨.chars (.name fields) [] none, stack⟩ := by
  simp [step, isSpace]

theorem run_number {state final : NumberState} {literal : List Char}
    (ran : run NumberState.next state literal = some final) :
    run (step limit) ⟨.number read state, stack⟩ literal =
      some ⟨.number (literal.reverse ++ read) final, stack⟩ := by
  induction literal generalizing state read with
  | nil =>
      cases ran
      rfl
  | cons c rest ih =>
      cases stepped : state.next c with
      | none => simp [run, stepped] at ran
      | some next =>
          rw [run_cons stepped] at ran
          have scanned : step limit ⟨.number read state, stack⟩ c =
              some ⟨.number (c :: read) next, stack⟩ := by
            simp only [step, stepped]
          rw [run_cons scanned, ih ran, List.reverse_cons, List.append_assoc,
            List.singleton_append]

theorem next_eq_none {c : Char} (ending : ends c = true) (state : NumberState) :
    state.next c = none := by
  simp only [ends, isSpace, decide_eq_true_eq] at ending
  rcases ending with rfl | rfl | rfl | rfl | rfl | rfl | rfl <;> cases state <;> rfl

theorem step_complete (value : Json) (c : Char) :
    step limit (complete value stack) c = stepAfter (complete value stack) c := by
  cases stack with
  | nil => rfl
  | cons frame stack => cases frame <;> rfl

theorem start_value {c : Char} {state : NumberState} (started : NumberState.start c = some state) :
    isSpace c = false ∧ c ≠ ']' ∧ beginValue limit stack c = some ⟨.number [c] state, stack⟩ := by
  have first : c = '-' ∨ c.isDigit = true := by
    unfold NumberState.start at started
    split at started
    · next minus => exact .inl minus
    split at started
    · next zero => subst zero; exact .inr rfl
    split at started
    · next digit => exact .inr digit
    · cases started
  have other : ∀ special : Char, special ≠ '-' → special.isDigit = false → c ≠ special := by
    rintro special notMinus notDigit rfl
    rcases first with minus | digit
    · exact notMinus minus
    · rw [notDigit] at digit
      cases digit
  refine ⟨?_, other ']' (by decide) (by decide), ?_⟩
  · simp [isSpace, other ' ' (by decide) (by decide), other '\t' (by decide) (by decide),
      other '\r' (by decide) (by decide), other '\n' (by decide) (by decide)]
  · simp [beginValue, other '{' (by decide) (by decide), other '[' (by decide) (by decide),
      other '\"' (by decide) (by decide), other 't' (by decide) (by decide),
      other 'f' (by decide) (by decide), other 'n' (by decide) (by decide), started]

/-- The first character of a value that is rendered. -/
theorem render_head {level : Nat} {value : Json} (readable : Readable limit level value) :
    ∃ c rest, render value = c :: rest ∧ isSpace c = false ∧ c ≠ ']' := by
  cases readable with
  | null => exact ⟨'n', "ull".toList, rfl, by decide, by decide⟩
  | bool value =>
      cases value with
      | true => exact ⟨'t', "rue".toList, rfl, by decide, by decide⟩
      | false => exact ⟨'f', "alse".toList, rfl, by decide, by decide⟩
  | @number _ literal valid =>
      cases literal with
      | nil => cases valid
      | cons c rest =>
          cases started : NumberState.start c with
          | none => simp [isNumber, started] at valid
          | some state =>
              obtain ⟨notSpace, notEnd, _⟩ := @start_value limit [] c state started
              exact ⟨c, rest, by rw [render], notSpace, notEnd⟩
  | string chars => exact ⟨'\"', _, by rw [render, quote], by decide, by decide⟩
  | @array _ items =>
      cases items <;> exact ⟨'[', _, by rw [render], by decide, by decide⟩
  | @object _ fields =>
      cases fields <;> exact ⟨'{', _, by rw [render], by decide, by decide⟩

/-- A rendered value and a character that ends it. -/
def Reads (limit level : Nat) (value : Json) : Prop :=
  ∀ stack c, stack.length = level → ends c = true →
    run (step limit) ⟨.value, stack⟩ (render value ++ [c]) = stepAfter (complete value stack) c

theorem reads_of_completes {level : Nat} {value : Json}
    (completes : ∀ stack : List Frame, stack.length = level →
      run (step limit) ⟨.value, stack⟩ (render value) = some (complete value stack)) :
    Reads limit level value := by
  intro stack c height _
  rw [run_append, completes stack height, Option.bind_some, run_singleton, step_complete]

theorem reads_number {level : Nat} {literal : List Char} (valid : isNumber literal = true) :
    Reads limit level (.number literal) := by
  intro stack c _ ending
  cases literal with
  | nil => cases valid
  | cons first rest =>
      cases started : NumberState.start first with
      | none => simp [isNumber, started] at valid
      | some state =>
          cases ran : run NumberState.next state rest with
          | none => simp [isNumber, started, ran] at valid
          | some final =>
              have accepted : final.accepts = true := by
                simpa [isNumber, started, ran] using valid
              obtain ⟨notSpace, _, begun⟩ := @start_value limit stack first state started
              have stepped : step limit ⟨.value, stack⟩ first =
                  some ⟨.number [first] state, stack⟩ := by
                simp [step, notSpace, begun]
              rw [render, List.cons_append, run_cons stepped, run_append, run_number ran,
                Option.bind_some, run_singleton]
              simp [step, next_eq_none ending, accepted]

theorem Reads.run_append {level : Nat} {value : Json} (reads : Reads limit level value)
    (height : stack.length = level) {c : Char} (ending : ends c = true) (rest : List Char) :
    run (step limit) ⟨.value, stack⟩ (render value ++ c :: rest) =
      (stepAfter (complete value stack) c).bind fun next => run (step limit) next rest := by
  rw [← reads stack c height ending, ← Data.run_append, List.append_assoc, List.singleton_append]

theorem reads_items {level : Nat} {item : Json} {rest : List Json}
    (members : ∀ member ∈ item :: rest, Reads limit (level + 1) member) (before : List Json)
    (height : stack.length = level) :
    run (step limit) ⟨.value, .item before :: stack⟩ (render item ++ renderItems rest) =
      some (complete (.array (before.reverse ++ item :: rest)) stack) := by
  have taller : (Frame.item before :: stack).length = level + 1 := by
    rw [List.length_cons, height]
  induction rest generalizing item before with
  | nil =>
      rw [renderItems, members item (by simp) _ ']' taller (by decide)]
      simp [complete, stepAfter, isSpace]
  | cons second rest ih =>
      have later := ih (fun member among => members member (List.mem_cons_of_mem _ among))
        (item :: before) (by rw [List.length_cons, height])
      rw [List.reverse_cons, List.append_assoc, List.singleton_append] at later
      rw [renderItems, (members item (by simp)).run_append taller (by decide), ← later]
      rfl

theorem reads_array {level : Nat} {items : List Json} (below : level < limit)
    (readable : ∀ item ∈ items, Readable limit (level + 1) item)
    (members : ∀ item ∈ items, Reads limit (level + 1) item) :
    Reads limit level (.array items) := by
  apply reads_of_completes
  rintro stack rfl
  have opened : step limit ⟨.value, stack⟩ '[' = some ⟨.firstItem, stack⟩ := by
    simp [step, isSpace, beginValue, below]
  cases items with
  | nil =>
      rw [render]
      exact run_cons opened _
  | cons item rest =>
      obtain ⟨c, text, head, notSpace, notEnd⟩ := render_head (readable item (by simp))
      -- The first item is read as if its place on the stack had been there before.
      have same : run (step limit) ⟨.firstItem, stack⟩ (c :: (text ++ renderItems rest)) =
          run (step limit) ⟨.value, .item [] :: stack⟩ (c :: (text ++ renderItems rest)) := by
        simp [run, step, notSpace, notEnd]
      rw [render, run_cons opened, head, List.cons_append, same, ← List.cons_append, ← head]
      exact reads_items members [] rfl

theorem run_name (fields : List (List Char × Json)) (name rest : List Char) :
    run (step limit) ⟨.chars (.name fields) [] none, stack⟩
        (name.flatMap escape ++ '\"' :: ':' :: rest) =
      run (step limit) ⟨.value, .field fields name :: stack⟩ rest := by
  have named := @run_quoted limit stack (.name fields) name
  rw [← List.singleton_append, ← List.append_assoc, Data.run_append, named, Option.bind_some]
  simp [finishString, run, step, isSpace]

theorem reads_fields {level : Nat} {name : List Char} {value : Json}
    {rest : List (List Char × Json)}
    (members : ∀ member ∈ (name, value) :: rest, Reads limit (level + 1) member.2)
    (before : List (List Char × Json)) (height : stack.length = level) :
    run (step limit) ⟨.value, .field before name :: stack⟩ (render value ++ renderFields rest) =
      some (complete (.object (before.reverse ++ (name, value) :: rest)) stack) := by
  have taller : (Frame.field before name :: stack).length = level + 1 := by
    rw [List.length_cons, height]
  have here := members (name, value) (by simp)
  induction rest generalizing name value before with
  | nil =>
      rw [renderFields, here _ '}' taller (by decide)]
      simp [complete, stepAfter, isSpace]
  | cons second rest ih =>
      have later := ih (fun member among => members member (List.mem_cons_of_mem _ among))
        ((name, value) :: before) (by rw [List.length_cons, height]) (members second (by simp))
      rw [List.reverse_cons, List.append_assoc, List.singleton_append] at later
      have named : run (step limit) ⟨.name ((name, value) :: before), stack⟩
          (quote second.1 ++ ':' :: (render second.2 ++ renderFields rest)) =
            run (step limit) ⟨.value, .field ((name, value) :: before) second.1 :: stack⟩
              (render second.2 ++ renderFields rest) := by
        rw [quote_append, run_cons (begin_name _), run_name]
      rw [renderFields, here.run_append taller (by decide), ← later, ← named]
      rfl

theorem completes_object {level : Nat} {fields : List (List Char × Json)} (below : level < limit)
    (members : ∀ field ∈ fields, Reads limit (level + 1) field.2) (height : stack.length = level) :
    run (step limit) ⟨.value, stack⟩ (render (.object fields)) =
      some (complete (.object fields) stack) := by
  subst height
  have opened : step limit ⟨.value, stack⟩ '{' = some ⟨.firstName, stack⟩ := by
    simp [step, isSpace, beginValue, below]
  cases fields with
  | nil =>
      rw [render]
      exact run_cons opened _
  | cons field rest =>
      have begun : step limit ⟨.firstName, stack⟩ '\"' =
          some ⟨.chars (.name []) [] none, stack⟩ := by
        simp [step, isSpace]
      rw [render, run_cons opened, quote_append, run_cons begun, run_name]
      exact reads_fields members [] rfl

theorem reads_object {level : Nat} {fields : List (List Char × Json)} (below : level < limit)
    (members : ∀ field ∈ fields, Reads limit (level + 1) field.2) :
    Reads limit level (.object fields) :=
  reads_of_completes fun _ height => completes_object below members height

theorem reads_of_readable {level : Nat} {value : Json} (readable : Readable limit level value) :
    Reads limit level value := by
  induction readable with
  | null => exact reads_of_completes fun _ _ => rfl
  | bool value => cases value <;> exact reads_of_completes fun _ _ => rfl
  | number valid => exact reads_number valid
  | string chars =>
      apply reads_of_completes
      intro stack _
      have begun : step limit ⟨.value, stack⟩ '\"' = some ⟨.chars .value [] none, stack⟩ := by
        simp [step, isSpace, beginValue]
      rw [render, quote, run_cons begun, run_quoted]
      simp [finishString]
  | array below readable ih => exact reads_array below readable ih
  | object below _ ih => exact reads_object below ih

theorem run_blanks {value : Json} {blanks : List Char} (blank : ∀ c ∈ blanks, isSpace c = true) :
    run (step limit) ⟨.done value, []⟩ blanks = some ⟨.done value, []⟩ := by
  induction blanks with
  | nil => rfl
  | cons c rest ih =>
      rw [List.forall_mem_cons] at blank
      have stays : step limit ⟨.done value, []⟩ c = some ⟨.done value, []⟩ := by
        simp [step, stepAfter, blank.1]
      rw [run_cons stays, ih blank.2]

/-- Parsing undoes rendering, also where blanks follow. -/
theorem parse_render {value : Json} (readable : Readable limit 0 value) {blanks : List Char}
    (blank : ∀ c ∈ blanks, isSpace c = true) :
    parse limit (render value ++ blanks) = some value := by
  have reads := reads_of_readable readable
  have ends (c : Char) (space : isSpace c = true) :
      stepAfter (complete value []) c = some ⟨.done value, []⟩ := by
    simp [complete, stepAfter, space]
  have ran : run (step limit) .start (render value ++ blanks ++ [' ']) =
      some ⟨.done value, []⟩ := by
    rw [List.append_assoc]
    cases blanks with
    | nil => exact (reads [] ' ' rfl (by decide)).trans (ends ' ' (by decide))
    | cons c rest =>
        rw [List.forall_mem_cons] at blank
        rw [List.cons_append, Scanner.start, reads.run_append rfl (by simp [Json.ends, blank.1]),
          ends c blank.1, Option.bind_some, Data.run_append, run_blanks blank.2]
        rfl
  rw [parse, ran, Option.bind_some]

theorem run_done {value : Json} {final : Scanner} {text : List Char}
    (ran : run (step limit) ⟨.done value, stack⟩ text = some final) : final.mode = .done value := by
  induction text with
  | nil =>
      cases ran
      rfl
  | cons c rest ih =>
      by_cases space : isSpace c = true
      · have stays : step limit ⟨.done value, stack⟩ c = some ⟨.done value, stack⟩ := by
          simp [step, stepAfter, space]
        rw [run_cons stays] at ran
        exact ih ran
      · simp [run, step, stepAfter, space] at ran

theorem step_wholeNumber {scanner next : Scanner} {c : Char} {value : Json}
    (whole : scanner.wholeNumber c = some value) (stepped : step limit scanner c = some next) :
    next.mode = .done value := by
  obtain ⟨mode, stack⟩ := scanner
  cases stack with
  | cons frame stack => simp [Scanner.wholeNumber] at whole
  | nil =>
      cases mode with
      | number read state =>
          simp only [Scanner.wholeNumber, Option.ite_none_right_eq_some, Option.some.injEq] at whole
          obtain ⟨⟨stops, accepted⟩, rfl⟩ := whole
          simp only [step, stops, accepted, if_true, complete, stepAfter] at stepped
          split at stepped
          · cases stepped
            rfl
          · cases stepped
      | _ => simp [Scanner.wholeNumber] at whole

/-- As soon as the scanner has a value, that is the first one. -/
theorem firstValueFrom_of_run {scanner final : Scanner} {value : Json} {text : List Char}
    (waits : ∀ early, scanner.mode ≠ .done early)
    (ran : run (step limit) scanner text = some final) (done : final.mode = .done value)
    (rest : List Char) : firstValueFrom limit scanner (text ++ rest) = some value := by
  induction text generalizing scanner with
  | nil =>
      cases ran
      exact absurd done (waits value)
  | cons c text ih =>
      obtain ⟨next, stepped, later⟩ := Option.bind_eq_some_iff.mp ran
      -- A value that the scanner has here is not lost before the end of the text.
      have kept : ∀ early, next.mode = .done early → early = value := by
        intro early reached
        obtain ⟨mode, stack⟩ := next
        cases reached
        have held := run_done later
        rw [done] at held
        cases held
        rfl
      rw [List.cons_append, firstValueFrom]
      cases whole : scanner.wholeNumber c with
      | some early => exact congrArg some (kept early (step_wholeNumber whole stepped))
      | none =>
          simp only [stepped, Option.bind_some]
          split
          · next early reached => exact congrArg some (kept early reached)
          · next other => exact ih other later

theorem firstValue_object {fields : List (List Char × Json)}
    (readable : Readable limit 0 (.object fields)) (rest : List Char) :
    firstValue limit (render (.object fields) ++ rest) = some (.object fields) := by
  cases readable with
  | object below members =>
      have ran := @completes_object limit [] 0 fields below
        (fun field member => reads_of_readable (members field member)) rfl
      refine firstValueFrom_of_run (fun early started => ?_) ran rfl rest
      cases started

end

end Json

end ToySystem.Data
