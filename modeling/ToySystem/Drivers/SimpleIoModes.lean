import ToySystem.Drivers.SimpleIoCommands

namespace ToySystem.Drivers.SimpleIo

open ToySystem.Data ToySystem.Kernel

/-! # The modes of simple_io

With one command at a time, each written while the thread waits, the driver is a
machine of six modes.  `Mode` is that machine; `target` is the mode the thread
is on its way to, whatever statements it has left.
-/

/-- The example, whether its LEDs are on, and the moves made so far; the last
three examples change their LEDs without commands. -/
structure Mode where
  number : Example
  on : Bool
  moves : Nat
deriving DecidableEq, Repr

def firstMode : Mode := ⟨.one, true, 0⟩

/-- The examples by their numbers, counted from 0 and around. -/
def Example.ofIndex (index : Fin 6) : Example :=
  [Example.one, .two, .three, .four, .five, .six].get index

def Example.index : Example → Fin 6
  | .one => 0
  | .two => 1
  | .three => 2
  | .four => 3
  | .five => 4
  | .six => 5

/-- The thread calls the examples in the order of their numbers. -/
theorem following_eq (number : Example) : number.following = .ofIndex (number.index + 1) := by
  cases number <;> rfl

def Mode.apply (mode : Mode) (byte : UInt8) : Mode :=
  if byte = 2 then ⟨.ofIndex (mode.number.index + 1), true, mode.moves + 1⟩
  else if byte = 1 && mode.number.waits then { mode with on := !mode.on }
  else mode

/-- The levels of the two banks, each lit or dark as a whole. -/
structure Banks (gpio : Gpio) (left right : Bool) : Prop where
  left : ∀ pin ∈ leftPins, gpio pin = left
  right : ∀ pin ∈ rightPins, gpio pin = right

def OneBank (gpio : Gpio) : Prop := ∃ lit, Banks gpio lit !lit

/-- What the LEDs show in a mode.  The examples one and two leave the other bank
as they found it. -/
def Shows (mode : Mode) (io : Io) : Prop :=
  match mode.number with
  | .one => (∀ pin ∈ leftPins, io.gpio pin = mode.on) ∧
      ∀ pin ∈ rightPins, io.gpio pin = io.entered pin
  | .two => (∀ pin ∈ rightPins, io.gpio pin = mode.on) ∧
      ∀ pin ∈ leftPins, io.gpio pin = io.entered pin
  | .three => Banks io.gpio (!mode.on) mode.on
  | .four | .five | .six => OneBank io.gpio

structure Implements (mode : Mode) (system : System) : Prop where
  number : exampleOf system.thread = mode.number
  moves : system.io.moves = mode.moves
  shows : Shows mode system.io

section

variable {gpio : Gpio} {left right : Bool}

theorem Banks.writeLeft (banks : Banks gpio left right) (value : Bool) :
    Banks (gpioWrite (leftPins.map (·, value)) gpio) value right := by
  have apart : ∀ pin ∈ rightPins, pin ∉ leftPins := by decide
  refine ⟨fun pin member => gpioWrite_pins value gpio member, ?_⟩
  intro pin member
  rw [gpioWrite_other_pins value gpio (apart pin member)]
  exact banks.right pin member

theorem Banks.writeRight (banks : Banks gpio left right) (value : Bool) :
    Banks (gpioWrite (rightPins.map (·, value)) gpio) left value := by
  have apart : ∀ pin ∈ leftPins, pin ∉ rightPins := by decide
  refine ⟨?_, fun pin member => gpioWrite_pins value gpio member⟩
  intro pin member
  rw [gpioWrite_other_pins value gpio (apart pin member)]
  exact banks.left pin member

theorem Banks.writeBoth (banks : Banks gpio left right) (first second : Bool) :
    Banks (gpioWrite (rightPins.map (·, second) ++ leftPins.map (·, first)) gpio) first second ∧
      Banks (gpioWrite (leftPins.map (·, first) ++ rightPins.map (·, second)) gpio)
        first second := by
  rw [gpioWrite_append, gpioWrite_append]
  exact ⟨(banks.writeRight second).writeLeft first, (banks.writeLeft first).writeRight second⟩

end

/-- The loop's variable as the thread will have it at its next wait. -/
def ledOf : List Statement → Bool
  | .loop _ led _ :: _ => !led
  | .testExit _ led :: _ | .testNext _ led :: _ => led
  | .gpioSetValue _ _ :: rest | .setFlag _ :: rest | .waitEvent :: rest | .usleepRange :: rest =>
      ledOf rest
  | .call _ :: _ | .followSwitch :: _ | .pollSwitch _ :: _ | .waitRelease _ :: _
  | .returnFlag _ :: _ | .doExit :: _ | [] => true

def target (moves : Nat) (flag : WaitQueueFlag) (code : List Statement) : Mode :=
  if expectsNext flag code then ⟨(exampleOf code).following, true, moves + 1⟩
  else {
    number := exampleOf code
    on := if (exampleOf code).waits then xor (ledOf code) (stage code = .listening && flag = .key)
      else true
    moves }

theorem target_congr {code rest : List Statement} (moves : Nat) (flag : WaitQueueFlag)
    (sameStage : stage rest = stage code) (sameExample : exampleOf rest = exampleOf code)
    (sameLed : ledOf rest = ledOf code) : target moves flag rest = target moves flag code := by
  rw [target, target, expectsNext, expectsNext, sameStage, sameExample, sameLed]

/-- No command is in the flag, and the thread would notice one. -/
def quiet (flag : WaitQueueFlag) (code : List Statement) : Bool :=
  stage code = .listening && if (exampleOf code).waits then flag = .wait else flag ≠ .next

theorem target_of_quiet {moves : Nat} {flag : WaitQueueFlag} {code : List Statement}
    (isQuiet : quiet flag code = true) : target moves flag code =
      ⟨exampleOf code, if (exampleOf code).waits then ledOf code else true, moves⟩ := by
  unfold quiet at isQuiet
  unfold target expectsNext
  cases waits : (exampleOf code).waits with
  | true =>
      simp only [waits, if_true, Bool.and_eq_true, decide_eq_true_eq] at isQuiet
      simp [isQuiet]
  | false =>
      simp only [waits, Bool.false_eq_true, if_false, Bool.and_eq_true, decide_eq_true_eq] at isQuiet
      simp [isQuiet]

/-- A command that is written in a quiet moment is the next step of the machine;
a zero is none. -/
theorem target_store {flag : WaitQueueFlag} {code : List Statement} (moves : Nat)
    (isQuiet : quiet flag code = true) (notExit : flag ≠ .exit) :
    target moves .key code = (target moves flag code).apply 1 ∧
      target moves .next code = (target moves flag code).apply 2 ∧
      target moves .wait code = target moves flag code := by
  unfold quiet at isQuiet
  unfold target expectsNext Mode.apply
  generalize stage code = stage at *
  generalize ledOf code = led
  generalize exampleOf code = number at *
  cases stage with
  | listening => cases flag <;> cases number <;> simp [Example.waits, following_eq] at *
  | deaf | toggling | leaving => simp at isQuiet

/-- The LEDs once the writes that the thread has left are done. -/
def settled (io : Io) (code : List Statement) : Gpio := gpioWrite (gpioWrites code) io.gpio

/-- The loop's variable as the LEDs show it, once the thread has set them. -/
def shown : List Statement → Option Bool
  | .loop _ led woken :: _ => if woken then some led else none
  | .testExit _ led :: _ | .testNext _ led :: _ => some led
  | .gpioSetValue _ _ :: rest | .setFlag _ :: rest | .waitEvent :: rest | .usleepRange :: rest =>
      shown rest
  | .call _ :: _ | .followSwitch :: _ | .pollSwitch _ :: _ | .waitRelease _ :: _
  | .returnFlag _ :: _ | .doExit :: _ | [] => none

/-- The thread is past the call of the example, or past its first change of the
LEDs. -/
def entered : List Statement → Bool
  | .call _ :: _ => false
  | .gpioSetValue _ _ :: rest | .setFlag _ :: rest | .waitEvent :: rest | .usleepRange :: rest =>
      entered rest
  | _ => true

def begun : List Statement → Bool
  | .call _ :: _ => false
  | .loop _ _ woken :: _ => woken
  | .gpioSetValue _ _ :: rest | .setFlag _ :: rest | .waitEvent :: rest | .usleepRange :: rest =>
      begun rest
  | _ => true

/-- The levels of the banks in each example, where `before` are the LEDs at its
call. -/
def Levels (code : List Statement) (before : Gpio) (left right : Bool) : Prop :=
  match exampleOf code with
  | .one => (∀ led ∈ shown code, left = led) ∧
      (entered code = true → ∀ pin ∈ rightPins, before pin = right)
  | .two => (∀ led ∈ shown code, right = led) ∧
      (entered code = true → ∀ pin ∈ leftPins, before pin = left)
  | .three => (∀ led ∈ shown code, right = led) ∧ (begun code = true → left = !right)
  | .four | .five | .six => left = !right

/-- The thread on its way to `mode`. -/
structure Heads (mode : Mode) (io : Io) (code : List Statement) : Prop where
  goal : target io.moves io.waitQueueFlag code = mode
  levels : ∃ left right, Banks (settled io code) left right ∧ Levels code io.entered left right

section

variable {level : Bool} {io : Io} {number : Example} {led : Bool} {left right : Bool}

/-- A statement that changes neither the flag nor the LEDs to come. -/
theorem Heads.carry {mode : Mode} {after : Io} {code rest : List Statement}
    (heads : Heads mode io code) (sameMoves : after.moves = io.moves)
    (sameFlag : after.waitQueueFlag = io.waitQueueFlag)
    (sameTarget : target io.moves io.waitQueueFlag rest = target io.moves io.waitQueueFlag code)
    (sameLeds : settled after rest = settled io code)
    (levels : ∀ left right, Levels code io.entered left right →
      Levels rest after.entered left right) : Heads mode after rest := by
  obtain ⟨goal, left, right, banks, holds⟩ := heads
  rw [← sameTarget, ← sameFlag, ← sameMoves] at goal
  rw [← sameLeds] at banks
  exact ⟨goal, left, right, banks, levels left right holds⟩

theorem Heads.call {mode : Mode} (heads : Heads mode io [.call number]) :
    Heads mode (exec level (.call number) io).1 (exec level (.call number) io).2 := by
  obtain ⟨goal, left, right, banks, holds⟩ := heads
  have banksNow : Banks io.gpio left right := banks
  constructor
  · rw [← goal]
    cases number <;> rfl
  · refine ⟨left, right, ?_, ?_⟩
    · cases number <;> exact banks
    · cases number with
      | one => exact ⟨(fun _ none => by cases none), fun _ => banksNow.right⟩
      | two => exact ⟨(fun _ none => by cases none), fun _ => banksNow.left⟩
      | three => exact ⟨(fun _ none => by cases none), fun isTrue => by cases isTrue⟩
      | four | five | six => exact holds

/-- The body of a loop, for every example: what its writes make of the banks. -/
theorem loopBody_levels {before : Gpio} {woken : Bool} (banks : Banks io.gpio left right)
    (holds : Levels [.loop number led woken] before left right) :
    ∃ left' right', Banks (settled io (loopBody led number)) left' right' ∧
      Levels (loopBody led number) before left' right' := by
  cases number with
  | one =>
      refine ⟨!led, right, ?_, ?_⟩
      · cases led <;> exact banks.writeLeft _
      · cases led <;> exact ⟨fun _ same => by cases same; rfl, holds.2⟩
  | two =>
      refine ⟨left, !led, ?_, ?_⟩
      · cases led <;> exact banks.writeRight _
      · cases led <;> exact ⟨fun _ same => by cases same; rfl, holds.2⟩
  | three =>
      refine ⟨led, !led, ?_, ?_⟩
      · cases led <;> exact (banks.writeBoth _ _).1
      · cases led <;> exact ⟨fun _ same => by cases same; rfl, fun _ => rfl⟩
  | four =>
      refine ⟨led, !led, ?_, ?_⟩
      · cases led <;> exact (banks.writeBoth _ _).1
      · cases led <;> rfl
  | five => exact ⟨left, right, banks, holds⟩
  | six => exact ⟨left, right, banks, holds⟩

theorem Heads.loop {mode : Mode} {woken : Bool}
    (heads : Heads mode io [.loop number led woken]) :
    Heads mode (exec level (.loop number led woken) io).1 (loopBody led number) := by
  obtain ⟨goal, left, right, banks, holds⟩ := heads
  obtain ⟨sameMoves, sameFlag, sameGpio, sameEntered⟩ :
      (exec level (.loop number led woken) io).1.moves = io.moves ∧
        (exec level (.loop number led woken) io).1.waitQueueFlag = io.waitQueueFlag ∧
        (exec level (.loop number led woken) io).1.gpio = io.gpio ∧
        (exec level (.loop number led woken) io).1.entered = io.entered := by
    simp only [exec]
    split <;> exact ⟨rfl, rfl, rfl, rfl⟩
  constructor
  · rw [← goal, sameMoves, sameFlag]
    cases number <;> cases led <;> cases woken <;> rfl
  · rw [sameEntered, settled, sameGpio]
    exact loopBody_levels banks holds

theorem target_again {moves : Nat} {flag : WaitQueueFlag} (steady : Steady flag [.testNext number led])
    (notNext : flag ≠ .next) :
    target moves flag [.loop number led true] = target moves flag [.testNext number led] := by
  cases flag with
  | next => exact absurd rfl notNext
  | exit => exact absurd rfl steady.notExit
  | key => cases number <;> cases led <;> rfl
  | wait =>
      cases number with
      | one | two | three => exact absurd rfl (steady.awake rfl)
      | four | five | six => rfl

theorem Heads.testNext {mode : Mode} (steady : Steady io.waitQueueFlag [.testNext number led])
    (heads : Heads mode io [.testNext number led]) :
    Heads mode io (exec level (.testNext number led) io).2 := by
  simp only [exec]
  by_cases moves : io.waitQueueFlag = .next
  · rw [if_pos moves]
    apply heads.carry rfl rfl
    · rw [moves]
      cases number <;> rfl
    · rfl
    · intro left right holds
      cases number with
      | one | two => exact ⟨(fun _ none => by cases none), holds.2⟩
      | three => exact ⟨(fun _ none => by cases none), holds.2⟩
      | four | five | six => exact holds
  · rw [if_neg moves]
    by_cases isSix : number = .six
    · subst number
      rw [if_pos rfl]
      apply heads.carry rfl rfl
      · cases io.waitQueueFlag <;> rfl
      · rfl
      · exact fun _ _ holds => holds
    · rw [if_neg isSix]
      apply heads.carry rfl rfl
      · exact target_again steady moves
      · rfl
      · intro left right holds
        cases number <;> exact holds

theorem Heads.followSwitch {mode : Mode} (heads : Heads mode io [.followSwitch]) :
    Heads mode io (followCode level) := by
  obtain ⟨goal, left, right, banks, holds⟩ := heads
  constructor
  · rw [← goal]
    cases level <;> rfl
  · refine ⟨level, !level, ?_, ?_⟩
    · cases level with
      | true => exact (banks.writeBoth _ _).2
      | false => exact (banks.writeBoth _ _).1
    · cases level <;> rfl

theorem Heads.pollSwitch {mode : Mode} (heads : Heads mode io [.pollSwitch led]) :
    Heads mode io (exec level (.pollSwitch led) io).2 := by
  obtain ⟨goal, left, right, banks, holds⟩ := heads
  cases level with
  | true => exact ⟨goal, left, right, banks, holds⟩
  | false =>
      constructor
      · rw [← goal]
        cases led <;> rfl
      · refine ⟨led, !led, ?_, ?_⟩
        · cases led <;> exact (banks.writeBoth _ _).2
        · cases led <;> rfl

theorem Heads.returnFlag {mode : Mode} (notExit : io.waitQueueFlag ≠ .exit)
    (heads : Heads mode io [.returnFlag number]) :
    Heads mode (exec level (.returnFlag number) io).1 (exec level (.returnFlag number) io).2 := by
  obtain ⟨goal, left, right, banks, holds⟩ := heads
  simp only [exec, if_neg notExit]
  constructor
  · rw [← goal]
    cases number <;> rfl
  · refine ⟨left, right, banks, ?_⟩
    cases number with
    | one => exact ⟨(fun _ none => by cases none), fun isTrue => by cases isTrue⟩
    | two => exact ⟨(fun _ none => by cases none), fun isTrue => by cases isTrue⟩
    | three => exact holds.2 rfl
    | four => exact holds
    | five => exact holds
    | six => exact ⟨(fun _ none => by cases none), fun isTrue => by cases isTrue⟩

end

theorem Heads.threadStep {mode : Mode} {level : Bool} {io after : Io} {code rest : List Statement}
    (steady : Steady io.waitQueueFlag code) (heads : Heads mode io code)
    (stepped : threadStep level io code = some (after, rest)) : Heads mode after rest := by
  obtain ⟨_, statement, others, rfl, rfl, rfl⟩ := threadStep_eq_some stepped
  have formed := steady.formed
  cases statement with
  | gpioSetValue pin value => exact ⟨heads.goal, heads.levels⟩
  | setFlag flag =>
      simp only [wellFormed, Bool.and_eq_true, decide_eq_true_eq] at formed
      obtain ⟨⟨⟨rfl, listens⟩, _⟩, _⟩ := formed
      refine ⟨?_, heads.levels⟩
      rw [← heads.goal]
      simp [exec, target, expectsNext, stage, listens, ledOf, exampleOf]
  | waitEvent =>
      simp only [wellFormed, Bool.and_eq_true, decide_eq_true_eq] at formed
      have sameStage : stage others = stage (.waitEvent :: others) := formed.1.1.1
      exact ⟨(target_congr io.moves io.waitQueueFlag sameStage rfl rfl).trans heads.goal, heads.levels⟩
  | usleepRange => exact ⟨heads.goal, heads.levels⟩
  | call number =>
      obtain rfl := wellFormed_ends formed rfl
      rw [List.append_nil]
      exact heads.call
  | loop number led woken =>
      obtain rfl := wellFormed_ends formed rfl
      rw [List.append_nil]
      exact heads.loop
  | testExit number led =>
      obtain rfl := wellFormed_ends formed rfl
      simp only [exec, if_neg steady.notExit, List.append_nil]
      exact ⟨heads.goal, heads.levels⟩
  | testNext number led =>
      obtain rfl := wellFormed_ends formed rfl
      rw [List.append_nil]
      exact heads.testNext steady
  | followSwitch =>
      obtain rfl := wellFormed_ends formed rfl
      rw [List.append_nil]
      exact heads.followSwitch
  | pollSwitch led =>
      obtain rfl := wellFormed_ends formed rfl
      rw [List.append_nil]
      exact heads.pollSwitch
  | waitRelease led =>
      obtain rfl := wellFormed_ends formed rfl
      cases level <;> exact ⟨heads.goal, heads.levels⟩
  | returnFlag number =>
      obtain rfl := wellFormed_ends formed rfl
      rw [List.append_nil]
      exact heads.returnFlag steady.notExit
  | doExit => simp [wellFormed] at formed

/-- In a quiet moment the thread is blocked or goes round a loop of the last
three examples. -/
theorem quiet_threadStep {level : Bool} {io after : Io} {code rest : List Statement}
    (steady : Steady io.waitQueueFlag code) (isQuiet : quiet io.waitQueueFlag code = true)
    (stepped : threadStep level io code = some (after, rest)) :
    quiet after.waitQueueFlag rest = true := by
  obtain ⟨notBlocked, statement, others, rfl, rfl, rfl⟩ := threadStep_eq_some stepped
  have formed := steady.formed
  cases statement with
  | gpioSetValue pin value => exact isQuiet
  | usleepRange => exact isQuiet
  | waitEvent =>
      simp only [wellFormed, Bool.and_eq_true, decide_eq_true_eq] at formed
      simp [quiet, stage, exampleOf, formed] at isQuiet
      simp [blocked, isQuiet] at notBlocked
  | testExit number led =>
      obtain rfl := wellFormed_ends formed rfl
      simp only [exec, if_neg steady.notExit, List.append_nil]
      exact isQuiet
  | testNext number led =>
      obtain rfl := wellFormed_ends formed rfl
      have awake := steady.awake
      simp only [exec, List.append_nil]
      cases number with
      | one | two | three =>
          simp [quiet, stage, exampleOf, Example.waits] at isQuiet
          exact absurd isQuiet (awake rfl)
      | four | five | six =>
          simp [quiet, stage, exampleOf, Example.waits] at isQuiet
          simp [isQuiet, quiet, stage, exampleOf, Example.waits]
  | loop number led woken =>
      obtain rfl := wellFormed_ends formed rfl
      cases number with
      | one | two | three => cases woken <;> simp [quiet, stage, Example.waits] at isQuiet
      | four | five | six => cases led <;> exact isQuiet
  | followSwitch =>
      obtain rfl := wellFormed_ends formed rfl
      cases level <;> exact isQuiet
  | pollSwitch led =>
      obtain rfl := wellFormed_ends formed rfl
      cases level <;> cases led <;> exact isQuiet
  | waitRelease led =>
      obtain rfl := wellFormed_ends formed rfl
      cases level <;> exact isQuiet
  | call number | setFlag flag | returnFlag number => simp [quiet, stage] at isQuiet
  | doExit => simp [wellFormed] at formed

theorem Steady.quiet_store {flag : WaitQueueFlag} {code : List Statement}
    (steady : Steady flag code) (isQuiet : quiet flag code = true) {stored : WaitQueueFlag}
    (notExit : stored ≠ .exit) : Steady stored code := by
  refine ⟨steady.formed, notExit, fun past => ?_⟩
  have awake := steady.awake past
  simp only [quiet, waits_of_pastWait past, if_true, Bool.and_eq_true, decide_eq_true_eq] at isQuiet
  exact absurd isQuiet.2 awake

/-- What the `switch` makes of a byte in a quiet moment. -/
theorem switchCode_spec (byte : UInt8) :
    switchCode byte = [] ∧ (∀ mode : Mode, mode.apply byte = mode) ∨
      ∃ stored rest, switchCode byte = .setFlag stored :: rest ∧ (rest = [] ∨ rest = [.wakeUp]) ∧
        stored ≠ .exit ∧ ∀ moves flag code, quiet flag code = true → flag ≠ .exit →
          target moves stored code = (target moves flag code).apply byte := by
  by_cases zero : byte = 0
  · subst byte
    refine .inr ⟨.wait, [], rfl, .inl rfl, by decide, fun moves flag code isQuiet notExit => ?_⟩
    exact (target_store moves isQuiet notExit).2.2
  · by_cases key : byte = 1
    · subst byte
      refine .inr ⟨.key, _, rfl, .inr rfl, by decide, fun moves flag code isQuiet notExit => ?_⟩
      exact (target_store moves isQuiet notExit).1
    · by_cases next : byte = 2
      · subst byte
        refine .inr ⟨.next, _, rfl, .inr rfl, by decide, fun moves flag code isQuiet notExit => ?_⟩
        exact (target_store moves isQuiet notExit).2.1
      · refine .inl ⟨?_, fun mode => by simp [Mode.apply, key, next]⟩
        unfold switchCode
        split
        · rename_i isZero
          exact absurd (UInt8.toNat_inj.mp isZero) zero
        · rename_i isKey
          exact absurd (UInt8.toNat_inj.mp isKey) key
        · rename_i isNext
          exact absurd (UInt8.toNat_inj.mp isNext) next
        · rfl

def commandOf : Event → Option UInt8
  | .write buf => some (buf.headD 0)
  | .thread _ | .writer _ => none

def commands (events : List Event) : List UInt8 := events.filterMap commandOf

/-- At most one call is in progress: before its store, in a quiet moment, the
machine is one command ahead of the thread. -/
inductive Serves (mode : Mode) (system : System) : Prop
  | idle (none : system.writers = []) (heads : Heads mode system.io system.thread)
  | calling (writer : Writer) (only : system.writers = [writer]) (carries : writer.buf ≠ [])
      (code : writer.code = toyDriverWrite ∨
        writer.code = [.switchByte] ∧ system.io.kernelWriteBuffer.headD 0 = writer.byte ∨
        writer.code = switchCode writer.byte ∧ writer.code ≠ [])
      (isQuiet : quiet system.io.waitQueueFlag system.thread = true) (previous : Mode)
      (heads : Heads previous system.io system.thread) (next : previous.apply writer.byte = mode)
  | waking (writer : Writer) (only : system.writers = [writer]) (code : writer.code = [.wakeUp])
      (heads : Heads mode system.io system.thread)

structure Serial (mode : Mode) (system : System) : Prop where
  steady : Steady system.io.waitQueueFlag system.thread
  serves : Serves mode system

theorem quiet_of_quiescent {system : System} (steady : Steady system.io.waitQueueFlag system.thread)
    (rests : quiescent system = true) : system.writers = [] ∧
      quiet system.io.waitQueueFlag system.thread = true := by
  simp only [quiescent, Bool.and_eq_true, List.isEmpty_iff] at rests
  refine ⟨rests.1, ?_⟩
  have formed := steady.formed
  have waits := rests.2
  generalize system.thread = code at *
  unfold waiting at waits
  split at waits
  · simp only [wellFormed, Bool.and_eq_true, decide_eq_true_eq] at formed waits
    simp [quiet, stage, exampleOf, formed, waits]
  · simp only [wellFormed, Bool.and_eq_true, decide_eq_true_eq, Bool.not_eq_true'] at formed waits
    simp [quiet, stage, exampleOf, formed, waits]
  · contradiction

section

variable {mode : Mode} {system after : System}

theorem threadStep_buffer {level : Bool} {io io' : Io} {code rest : List Statement}
    (stepped : threadStep level io code = some (io', rest)) :
    io'.kernelWriteBuffer = io.kernelWriteBuffer := by
  obtain ⟨_, statement, others, rfl, rfl, rfl⟩ := threadStep_eq_some stepped
  cases statement with
  | loop number led woken | returnFlag number =>
      simp only [exec]
      split <;> rfl
  | _ => rfl

theorem Serial.thread (serial : Serial mode system) {level : Bool}
    (stepped : step system (.thread level) = some after) : Serial mode after := by
  obtain ⟨threadStepped, sameWriters⟩ := step_thread stepped
  obtain ⟨steady, serves⟩ := serial
  refine ⟨(steady.threadStep threadStepped).steady, ?_⟩
  cases serves with
  | idle none heads => exact .idle (sameWriters ▸ none) (heads.threadStep steady threadStepped)
  | calling writer only carries code isQuiet previous heads next =>
      refine .calling writer (sameWriters ▸ only) carries ?_
        (quiet_threadStep steady isQuiet threadStepped) previous
        (heads.threadStep steady threadStepped) next
      rw [threadStep_buffer threadStepped]
      exact code
  | waking writer only code heads =>
      exact .waking writer (sameWriters ▸ only) code (heads.threadStep steady threadStepped)

theorem Serial.write (serial : Serial mode system) {buf : List UInt8}
    (rests : quiescent system = true) (stepped : step system (.write buf) = some after) :
    Serial (mode.apply (buf.headD 0)) after := by
  obtain ⟨⟨notEmpty, _⟩, rfl⟩ := step_write stepped
  obtain ⟨steady, serves⟩ := serial
  obtain ⟨none, isQuiet⟩ := quiet_of_quiescent steady rests
  refine ⟨steady, ?_⟩
  cases serves with
  | idle none heads =>
      exact .calling ⟨buf, toyDriverWrite⟩ (by simp [none]) notEmpty (.inl rfl) isQuiet mode heads rfl
  | calling writer only => simp [only] at none
  | waking writer only => simp [only] at none

theorem sole_writer {caller writer : Writer} {index : Nat}
    (found : [caller][index]? = some writer) : index = 0 ∧ caller = writer := by
  cases index with
  | zero => exact ⟨rfl, Option.some.inj found⟩
  | succ index => simp at found

theorem Serial.writer (serial : Serial mode system) {index : Nat}
    (stepped : step system (.writer index) = some after) : Serial mode after := by
  obtain ⟨writer, statement, left, found, code, rfl⟩ := step_writer stepped
  obtain ⟨steady, serves⟩ := serial
  cases serves with
  | idle none => simp [none] at found
  | waking caller only waking heads =>
      rw [only] at found ⊢
      obtain ⟨rfl, rfl⟩ := sole_writer found
      cases waking.symm.trans code
      exact ⟨steady, .idle rfl heads⟩
  | calling caller only carries calls isQuiet previous heads next =>
      rw [only] at found ⊢
      obtain ⟨rfl, rfl⟩ := sole_writer found
      rcases calls with copies | ⟨switches, own⟩ | ⟨stores, notDone⟩
      · cases copies.symm.trans code
        refine ⟨steady, .calling _ rfl carries (.inr (.inl ⟨rfl, ?_⟩)) isQuiet previous
          ⟨heads.goal, heads.levels⟩ next⟩
        cases buf : caller.buf with
        | nil => exact absurd buf carries
        | cons byte rest => simp [writerExec, Writer.byte, buf]
      · cases switches.symm.trans code
        have sameCode : (writerExec caller (exampleOf system.thread).waits .switchByte
            system.io).2 ++ [] = switchCode caller.byte := by
          rw [List.append_nil, ← own]
          rfl
        rw [sameCode]
        by_cases done : switchCode caller.byte = []
        · rcases switchCode_spec caller.byte with ⟨_, ignored⟩ | ⟨stored, rest, more, _⟩
          · rw [ignored] at next
            refine ⟨steady, .idle ?_ (next ▸ heads)⟩
            simp [replaceWriter, done]
          · simp [more] at done
        · refine ⟨steady, .calling { caller with code := switchCode caller.byte } ?_ carries
            (.inr (.inr ⟨rfl, done⟩)) isQuiet previous heads next⟩
          simp [replaceWriter, done]
      · rcases switchCode_spec caller.byte with ⟨none, _⟩ | ⟨stored, rest, more, ends, notExit, spec⟩
        · exact absurd (stores.trans none) notDone
        · cases (stores.trans more).symm.trans code
          have headsNow : Heads mode (writerExec caller (exampleOf system.thread).waits
              (.setFlag stored) system.io).1 system.thread := by
            refine ⟨?_, heads.levels⟩
            rw [← next, ← heads.goal]
            exact spec _ _ _ isQuiet steady.notExit
          refine ⟨steady.quiet_store isQuiet notExit, ?_⟩
          rcases ends with rfl | rfl
          · exact .idle rfl headsNow
          · exact .waking _ rfl rfl headsNow

end

def isWrite : Event → Bool
  | .write _ => true
  | .thread _ | .writer _ => false

theorem Serial.run {mode : Mode} {start final : System} {events : List Event}
    (serial : Serial mode start) (ran : Data.run step start events = some final)
    (sequential : ∀ transition ∈ path step start events,
      isWrite transition.event = true → quiescent transition.before = true) :
    Serial ((commands events).foldl Mode.apply mode) final := by
  rw [commands, List.foldl_filterMap]
  refine run_simulates ?_ serial ran sequential
  intro mode before event after serial quiet stepped
  cases event with
  | thread level => exact serial.thread stepped
  | write buf => exact serial.write (quiet rfl) stepped
  | writer index => exact serial.writer stepped

/-- While it listens in one of the first three examples, the thread has set the
LEDs as its variable says. -/
theorem shown_of_listening {code : List Statement} (formed : wellFormed code = true)
    (listens : stage code = .listening) (waits : (exampleOf code).waits = true) :
    shown code = some (ledOf code) ∧ entered code = true ∧ begun code = true := by
  induction code with
  | nil => cases formed
  | cons statement rest ih =>
      cases statement with
      | gpioSetValue pin value =>
          simp only [wellFormed, Bool.and_eq_true] at formed
          exact ih formed.2 listens waits
      | waitEvent =>
          simp only [wellFormed, Bool.and_eq_true, decide_eq_true_eq] at formed
          exact ih formed.2 formed.1.1.1 waits
      | usleepRange =>
          simp only [wellFormed, Bool.and_eq_true] at formed
          exact ih formed.2 listens waits
      | testExit number led | testNext number led => exact ⟨rfl, rfl, rfl⟩
      | loop number led woken =>
          have isWaiting : number.waits = true := waits
          cases woken <;> simp [stage, isWaiting] at listens
      | call number | setFlag flag | returnFlag number | doExit => cases listens
      | followSwitch | pollSwitch led | waitRelease led => cases waits

def atWait : List Statement → Bool
  | .waitEvent :: _ | .usleepRange :: _ => true
  | _ => false

/-- The thread has set the LEDs when it comes to wait. -/
theorem settled_of_atWait (io : Io) {code : List Statement} (formed : wellFormed code = true)
    (waits : atWait code = true) : settled io code = io.gpio ∧ stage code = .listening := by
  unfold atWait at waits
  split at waits
  · simp only [wellFormed, Bool.and_eq_true, decide_eq_true_eq] at formed
    simp [settled, gpioWrites, stage, formed]
  · simp only [wellFormed, Bool.and_eq_true, decide_eq_true_eq] at formed
    simp [settled, gpioWrites, stage, formed]
  · contradiction

theorem Heads.oneBank {mode : Mode} {io : Io} {code : List Statement} (heads : Heads mode io code)
    (formed : wellFormed code = true) (waits : atWait code = true)
    (late : exampleOf code ≠ .one ∧ exampleOf code ≠ .two) : OneBank io.gpio := by
  obtain ⟨sameLeds, listens⟩ := settled_of_atWait io formed waits
  obtain ⟨_, left, right, banks, holds⟩ := heads
  rw [sameLeds] at banks
  have opposite : left = !right := by
    unfold Levels at holds
    cases number : exampleOf code with
    | one => exact absurd number late.1
    | two => exact absurd number late.2
    | three =>
        rw [number] at holds
        exact holds.2 (shown_of_listening formed listens (by rw [number]; rfl)).2.2
    | four | five | six =>
        rw [number] at holds
        exact holds
  refine ⟨left, ?_⟩
  rw [opposite, Bool.not_not, ← opposite]
  exact banks

theorem Levels.shows {io : Io} {code : List Statement} {left right : Bool}
    (holds : Levels code io.entered left right) (banks : Banks io.gpio left right)
    (leds : (exampleOf code).waits = true →
      shown code = some (ledOf code) ∧ entered code = true ∧ begun code = true) :
    Shows ⟨exampleOf code, if (exampleOf code).waits then ledOf code else true, io.moves⟩ io := by
  unfold Levels at holds
  unfold Shows
  cases number : exampleOf code with
  | one =>
      simp only [number] at holds leds
      obtain ⟨isShown, isEntered, _⟩ := leds rfl
      have same := holds.1 _ isShown
      subst same
      exact ⟨banks.left, fun pin member => (banks.right pin member).trans
        (holds.2 isEntered pin member).symm⟩
  | two =>
      simp only [number] at holds leds
      obtain ⟨isShown, isEntered, _⟩ := leds rfl
      have same := holds.1 _ isShown
      subst same
      exact ⟨banks.right, fun pin member => (banks.left pin member).trans
        (holds.2 isEntered pin member).symm⟩
  | three =>
      simp only [number] at holds leds
      obtain ⟨isShown, _, isBegun⟩ := leds rfl
      have same := holds.1 _ isShown
      have opposite := holds.2 isBegun
      subst same opposite
      exact banks
  | four | five | six =>
      simp only [number] at holds
      subst holds
      exact ⟨!right, by simpa using banks⟩

theorem atWait_of_waiting {io : Io} {code : List Statement} (waits : waiting io code = true) :
    atWait code = true := by
  unfold waiting at waits
  split at waits
  · rfl
  · rfl
  · contradiction

theorem Serial.implements {mode : Mode} {system : System} (serial : Serial mode system)
    (rests : quiescent system = true) : Implements mode system := by
  obtain ⟨steady, serves⟩ := serial
  obtain ⟨none, isQuiet⟩ := quiet_of_quiescent steady rests
  cases serves with
  | calling writer only => simp [only] at none
  | waking writer only => simp [only] at none
  | idle none heads =>
      simp only [quiescent, Bool.and_eq_true] at rests
      have waits := atWait_of_waiting rests.2
      obtain ⟨sameLeds, listens⟩ := settled_of_atWait system.io steady.formed waits
      have goal := heads.goal.symm.trans (target_of_quiet isQuiet)
      obtain ⟨_, left, right, banks, holds⟩ := heads
      rw [sameLeds] at banks
      rw [goal]
      exact ⟨rfl, rfl, holds.shows banks (shown_of_listening steady.formed listens)⟩

/-- The machine of six modes, for every list of commands that are written one
after the other. -/
theorem modes_implemented (events : List Event) (final : System)
    (ran : run step toyModuleInit events = some final)
    (sequential : ∀ transition ∈ path step toyModuleInit events,
      isWrite transition.event = true → quiescent transition.before = true) :
    (quiescent final = true → Implements ((commands events).foldl Mode.apply firstMode) final) ∧
      (atWait final.thread = true →
        exampleOf final.thread ≠ .one ∧ exampleOf final.thread ≠ .two →
          OneBank final.io.gpio) := by
  have initial : Serial firstMode toyModuleInit := {
    steady := Inv.init.steady
    serves := .idle rfl {
      goal := rfl
      levels := ⟨false, false, ⟨fun _ _ => rfl, fun _ _ => rfl⟩,
        ⟨(fun _ none => by cases none), fun isTrue => by cases isTrue⟩⟩ } }
  have serial := initial.run ran sequential
  refine ⟨serial.implements, fun waits late => ?_⟩
  obtain ⟨steady, serves⟩ := serial
  cases serves with
  | idle none heads => exact heads.oneBank steady.formed waits late
  | calling writer only carries code isQuiet previous heads next =>
      exact heads.oneBank steady.formed waits late
  | waking writer only code heads => exact heads.oneBank steady.formed waits late

/-- A command, and the thread on its way to its next wait. -/
def served (byte : UInt8) (level : Bool) (statements : Nat) : List Event :=
  call byte ++ List.replicate statements (.thread level)

/-- Through all six examples and into the first one again, with a KEY in the first, the
third and the sixth of them. -/
def aroundOnce : List Event :=
  arrival ++ served 1 false 9 ++ served 2 false 11 ++ served 2 false 15 ++ served 1 false 13 ++
    served 2 false 15 ++ served 2 true 16 ++ served 2 true 10 ++ served 1 true 0 ++
    served 2 true 12 ++ served 1 true 9

theorem aroundOnce_implemented : ∃ final, run step toyModuleInit aroundOnce = some final ∧
    commands aroundOnce = [1, 2, 2, 1, 2, 2, 2, 1, 2, 1] ∧ Implements ⟨.one, false, 6⟩ final := by
  have ran : (run step toyModuleInit aroundOnce).any quiescent = true := by decide +kernel
  obtain ⟨final, isFinal, rests⟩ := (Option.any_eq_true _ _).mp ran
  have sequential : ∀ transition ∈ path step toyModuleInit aroundOnce,
      isWrite transition.event = true → quiescent transition.before = true := by decide +kernel
  exact ⟨final, isFinal, rfl, (modes_implemented aroundOnce final isFinal sequential).1 rests⟩

end ToySystem.Drivers.SimpleIo
