import ToySystem.Drivers.SimpleIo

namespace ToySystem.Drivers.SimpleIo

open ToySystem.Data ToySystem.Kernel

/-! # Commands to simple_io

What becomes of a command depends on where the thread is when the flag is set.
Every command in the flag, and every one the thread has acted on only in part,
is an expected move or toggle; what the counts fall short of with these is lost.
-/

/-- What the thread will do with the flag: reset it before it looks at it, look
at it, toggle the LEDs whatever it holds by then, or move on likewise. -/
inductive Stage where
  | deaf
  | listening
  | toggling
  | leaving
deriving DecidableEq, Repr

def stage : List Statement → Stage
  | .gpioSetValue _ _ :: rest | .usleepRange :: rest => stage rest
  | .waitEvent :: _ | .testExit _ _ :: _ | .testNext _ _ :: _ | .followSwitch :: _
  | .pollSwitch _ :: _ | .waitRelease _ :: _ => .listening
  | .loop number _ woken :: _ =>
      if number.waits then if woken then .toggling else .deaf else .listening
  | .returnFlag _ :: _ => .leaving
  | .call _ :: _ | .setFlag _ :: _ | .doExit :: _ | [] => .deaf

/-- The thread was woken in one of the first three examples. -/
def pastWait : List Statement → Bool
  | .testExit number _ :: _ | .testNext number _ :: _ => number.waits
  | _ => false

def gpioWrites : List Statement → List (Nat × Bool)
  | [] => []
  | .gpioSetValue pin value :: rest => (pin, value) :: gpioWrites rest
  | _ :: rest => gpioWrites rest

/-- What a thread that nobody told to exit can have left. -/
def wellFormed : List Statement → Bool
  | [.call _] | [.loop _ _ _] | [.testExit _ _] | [.testNext _ _] | [.followSwitch]
  | [.pollSwitch _] | [.waitRelease _] | [.returnFlag _] => true
  | .gpioSetValue _ _ :: rest => !pastWait rest && wellFormed rest
  | .setFlag flag :: rest =>
      flag = .wait && stage rest = .listening && !pastWait rest && wellFormed rest
  | .waitEvent :: rest =>
      stage rest = .listening && (exampleOf rest).waits && gpioWrites rest = [] && wellFormed rest
  | .usleepRange :: rest =>
      stage rest = .listening && !(exampleOf rest).waits && gpioWrites rest = [] && wellFormed rest
  | _ => false

def expectsNext (flag : WaitQueueFlag) (code : List Statement) : Bool :=
  stage code = .leaving || stage code = .listening && flag = .next

def expectsKey (flag : WaitQueueFlag) (code : List Statement) : Bool :=
  stage code = .toggling || stage code = .listening && (exampleOf code).waits && flag = .key

theorem loopBody_facts (number : Example) (led : Bool) :
    wellFormed (loopBody led number) = true ∧ exampleOf (loopBody led number) = number ∧
      pastWait (loopBody led number) = false ∧
      stage (loopBody led number) = if number.waits then .deaf else .listening := by
  cases number <;> cases led <;> decide

theorem callBody_facts (number : Example) :
    let code := prologue number ++ [.loop number false false]
    wellFormed code = true ∧ exampleOf code = number ∧ pastWait code = false ∧
      stage code = .deaf := by
  cases number <;> decide

theorem followCode_facts (level : Bool) :
    wellFormed (followCode level) = true ∧ exampleOf (followCode level) = .five ∧
      pastWait (followCode level) = false ∧ stage (followCode level) = .listening := by
  cases level <;> decide

theorem pressCode_facts (led : Bool) :
    wellFormed (pressCode led) = true ∧ exampleOf (pressCode led) = .six ∧
      pastWait (pressCode led) = false ∧ stage (pressCode led) = .listening := by
  cases led <;> decide

/-- The thread between two of its statements.  In the first three examples it is
past its wait only with a command in the flag. -/
structure Steady (flag : WaitQueueFlag) (code : List Statement) : Prop where
  formed : wellFormed code = true
  notExit : flag ≠ .exit
  awake : pastWait code = true → flag ≠ .wait

theorem Steady.fresh {flag : WaitQueueFlag} {code : List Statement} (notExit : flag ≠ .exit)
    (formed : wellFormed code = true) (notPast : pastWait code = false) : Steady flag code :=
  ⟨formed, notExit, fun past => by simp [notPast] at past⟩

theorem waits_of_pastWait {code : List Statement} (past : pastWait code = true) :
    (exampleOf code).waits = true := by
  unfold pastWait at past
  split at past
  · exact past
  · exact past
  · contradiction

/-- One statement of the thread: what it did is what it was expected to do. -/
structure Accounted (io : Io) (code : List Statement) (after : Io) (rest : List Statement) :
    Prop where
  steady : Steady after.waitQueueFlag rest
  moves : after.moves + (expectsNext after.waitQueueFlag rest).toNat =
    io.moves + (expectsNext io.waitQueueFlag code).toNat
  toggles : after.toggles + (expectsKey after.waitQueueFlag rest).toNat =
    io.toggles + (expectsKey io.waitQueueFlag code).toNat
  nexts : after.nexts = io.nexts
  keys : after.keys = io.keys

/-- Statements that end a sequence: a thread has nothing left after them but what
they add. -/
def ends : Statement → Bool
  | .gpioSetValue _ _ | .setFlag _ | .waitEvent | .usleepRange => false
  | _ => true

theorem wellFormed_ends {statement : Statement} {others : List Statement}
    (formed : wellFormed (statement :: others) = true) (isEnd : ends statement = true) :
    others = [] := by
  cases others with
  | nil => rfl
  | cons next others => cases statement <;> simp [ends, wellFormed] at formed isEnd

/-- A statement that touches neither the flag nor the counts is accounted for if
the stage and the example stay. -/
theorem Accounted.quiet {io after : Io} {code rest : List Statement}
    (same : after.waitQueueFlag = io.waitQueueFlag ∧ after.moves = io.moves ∧
      after.toggles = io.toggles ∧ after.nexts = io.nexts ∧ after.keys = io.keys)
    (steady : Steady io.waitQueueFlag rest) (sameStage : stage rest = stage code)
    (sameExample : exampleOf rest = exampleOf code) : Accounted io code after rest := by
  obtain ⟨sameFlag, moves, toggles, nexts, keys⟩ := same
  rw [← sameFlag] at steady
  exact {
    steady
    moves := by rw [expectsNext, expectsNext, sameFlag, sameStage, moves]
    toggles := by rw [expectsKey, expectsKey, sameFlag, sameStage, sameExample, toggles]
    nexts
    keys }

theorem Accounted.unchanged {io : Io} {code rest : List Statement}
    (steady : Steady io.waitQueueFlag rest) (sameStage : stage rest = stage code)
    (sameExample : exampleOf rest = exampleOf code) : Accounted io code io rest :=
  .quiet ⟨rfl, rfl, rfl, rfl, rfl⟩ steady sameStage sameExample

section

variable {level : Bool} {io : Io} {number : Example} {led : Bool}

theorem Steady.call (steady : Steady io.waitQueueFlag [.call number]) :
    Accounted io [.call number] (exec level (.call number) io).1
      (exec level (.call number) io).2 := by
  obtain ⟨formed, _, notPast, stageBody⟩ := callBody_facts number
  exact {
    steady := .fresh steady.notExit formed notPast
    moves := by simp [exec, expectsNext, stageBody, stage]
    toggles := by simp [exec, expectsKey, stageBody, stage]
    nexts := rfl
    keys := rfl }

theorem Steady.loop {woken : Bool} (steady : Steady io.waitQueueFlag [.loop number led woken]) :
    Accounted io [.loop number led woken] (exec level (.loop number led woken) io).1
      (exec level (.loop number led woken) io).2 := by
  obtain ⟨formed, sameExample, notPast, stageBody⟩ := loopBody_facts number led
  have next : Steady io.waitQueueFlag (loopBody led number) := .fresh steady.notExit formed notPast
  cases waits : number.waits with
  | false =>
      have sameStage : stage (loopBody led number) = stage [.loop number led woken] := by
        simp [stageBody, stage, waits]
      simp only [exec, waits, Bool.false_and, Bool.false_eq_true, if_false]
      exact .unchanged next sameStage sameExample
  | true =>
      cases woken with
      | false =>
          have sameStage : stage (loopBody led number) = stage [.loop number led false] := by
            simp [stageBody, stage, waits]
          simp only [exec, Bool.and_false, Bool.false_eq_true, if_false]
          exact .unchanged next sameStage sameExample
      | true =>
          simp only [exec, waits, Bool.and_true, if_true]
          exact {
            steady := next
            moves := by simp [expectsNext, stageBody, stage, waits]
            toggles := by simp [expectsKey, stageBody, stage, waits]
            nexts := rfl
            keys := rfl }

theorem Steady.testExit (steady : Steady io.waitQueueFlag [.testExit number led]) :
    Accounted io [.testExit number led] io (exec level (.testExit number led) io).2 := by
  simp only [exec, if_neg steady.notExit]
  exact .unchanged ⟨rfl, steady.notExit, steady.awake⟩ rfl rfl

/-- The second reading of the flag decides: out of the loop, or round it again,
which in the first three examples toggles LEDs. -/
theorem Steady.testNext (steady : Steady io.waitQueueFlag [.testNext number led]) :
    Accounted io [.testNext number led] io (exec level (.testNext number led) io).2 := by
  have notExit := steady.notExit
  simp only [exec]
  by_cases moves : io.waitQueueFlag = .next
  · rw [if_pos moves]
    exact {
      steady := .fresh notExit rfl rfl
      moves := by simp [expectsNext, stage, moves]
      toggles := by simp [expectsKey, stage, moves]
      nexts := rfl
      keys := rfl }
  · rw [if_neg moves]
    by_cases isSix : number = .six
    · subst number
      exact .unchanged (.fresh notExit rfl rfl) rfl rfl
    · rw [if_neg isSix]
      cases waits : number.waits with
      | false =>
          have sameStage : stage [.loop number led true] = stage [.testNext number led] := by
            simp [stage, waits]
          exact .unchanged (.fresh notExit rfl rfl) sameStage rfl
      | true =>
          have key : io.waitQueueFlag = .key := by
            have notWait := steady.awake waits
            cases flag : io.waitQueueFlag <;> simp_all
          exact {
            steady := .fresh notExit rfl rfl
            moves := by simp [expectsNext, stage, waits, key]
            toggles := by simp [expectsKey, stage, waits, key, exampleOf]
            nexts := rfl
            keys := rfl }

theorem Steady.returnFlag (steady : Steady io.waitQueueFlag [.returnFlag number]) :
    Accounted io [.returnFlag number] (exec level (.returnFlag number) io).1
      (exec level (.returnFlag number) io).2 := by
  simp only [exec, if_neg steady.notExit]
  exact {
    steady := .fresh steady.notExit rfl rfl
    moves := by simp [expectsNext, stage]
    toggles := by simp [expectsKey, stage]
    nexts := rfl
    keys := rfl }

theorem Steady.setFlag {flag : WaitQueueFlag} {others : List Statement}
    (steady : Steady io.waitQueueFlag (.setFlag flag :: others)) :
    Accounted io (.setFlag flag :: others) (exec level (.setFlag flag) io).1 others := by
  have formed := steady.formed
  simp only [wellFormed, Bool.and_eq_true, decide_eq_true_eq, Bool.not_eq_true'] at formed
  obtain ⟨⟨⟨rfl, listens⟩, notPast⟩, formed⟩ := formed
  exact {
    steady := .fresh (by simp [exec]) formed notPast
    moves := by simp [exec, expectsNext, listens, stage]
    toggles := by simp [exec, expectsKey, listens, stage]
    nexts := rfl
    keys := rfl }

end

theorem Steady.threadStep {level : Bool} {io after : Io} {code rest : List Statement}
    (steady : Steady io.waitQueueFlag code)
    (stepped : threadStep level io code = some (after, rest)) : Accounted io code after rest := by
  obtain ⟨notBlocked, statement, others, rfl, rfl, rfl⟩ := threadStep_eq_some stepped
  have formed := steady.formed
  have notExit := steady.notExit
  cases statement with
  | gpioSetValue pin value =>
      simp only [wellFormed, Bool.and_eq_true, Bool.not_eq_true'] at formed
      exact .quiet ⟨rfl, rfl, rfl, rfl, rfl⟩ (.fresh notExit formed.2 formed.1) rfl rfl
  | setFlag flag => exact steady.setFlag
  | waitEvent =>
      simp only [wellFormed, Bool.and_eq_true, decide_eq_true_eq] at formed
      have woken : io.waitQueueFlag ≠ .wait := by simpa [blocked] using notBlocked
      exact .unchanged ⟨formed.2, notExit, fun _ => woken⟩ formed.1.1.1 rfl
  | usleepRange =>
      simp only [wellFormed, Bool.and_eq_true, Bool.not_eq_true', decide_eq_true_eq] at formed
      have notPast : pastWait others = false := by
        by_contra past
        rw [Bool.not_eq_false] at past
        simp [waits_of_pastWait past] at formed
      exact .unchanged (.fresh notExit formed.2 notPast) rfl rfl
  | call number =>
      obtain rfl := wellFormed_ends formed rfl
      rw [List.append_nil]
      exact steady.call
  | loop number led woken =>
      obtain rfl := wellFormed_ends formed rfl
      rw [List.append_nil]
      exact steady.loop
  | testExit number led =>
      obtain rfl := wellFormed_ends formed rfl
      rw [List.append_nil]
      exact steady.testExit
  | testNext number led =>
      obtain rfl := wellFormed_ends formed rfl
      rw [List.append_nil]
      exact steady.testNext
  | followSwitch =>
      obtain rfl := wellFormed_ends formed rfl
      obtain ⟨bodyFormed, sameExample, notPast, sameStage⟩ := followCode_facts level
      rw [List.append_nil]
      exact .unchanged (.fresh notExit bodyFormed notPast) sameStage sameExample
  | pollSwitch led =>
      obtain rfl := wellFormed_ends formed rfl
      obtain ⟨bodyFormed, sameExample, notPast, sameStage⟩ := pressCode_facts led
      rw [List.append_nil]
      cases level with
      | true => exact .unchanged (.fresh notExit rfl rfl) rfl rfl
      | false =>
          exact .unchanged (.fresh notExit bodyFormed notPast) sameStage sameExample
  | waitRelease led =>
      obtain rfl := wellFormed_ends formed rfl
      cases level with
      | true | false => exact .unchanged (.fresh notExit rfl rfl) rfl rfl
  | returnFlag number =>
      obtain rfl := wellFormed_ends formed rfl
      rw [List.append_nil]
      exact steady.returnFlag
  | doExit => simp [wellFormed] at formed

/-- Whether a command written now will be acted on, and keeps no earlier one from
it: in the first three examples only while the thread listens and no command is
in the flag; in the others a NEXT also replaces a KEY, and a KEY, which they
ignore, does harm only to a NEXT that was not seen yet. -/
def heard (flag : WaitQueueFlag) (code : List Statement) : WaitQueueFlag → Bool
  | .key =>
      if (exampleOf code).waits then stage code = .listening && flag = .wait
      else !(stage code = .listening && flag = .next)
  | .next =>
      stage code = .listening && if (exampleOf code).waits then flag = .wait else flag ≠ .next
  | .wait | .exit => true

/-- The commands that were neither acted on nor will be. -/
def lost (io : Io) (code : List Statement) : Nat :=
  (io.nexts - (io.moves + (expectsNext io.waitQueueFlag code).toNat)) +
    (io.keys - (io.toggles + (expectsKey io.waitQueueFlag code).toNat))

structure Ledger (io : Io) (code : List Statement) : Prop where
  moves : io.moves + (expectsNext io.waitQueueFlag code).toNat ≤ io.nexts
  toggles : io.toggles + (expectsKey io.waitQueueFlag code).toNat ≤ io.keys

def commandFlag (byte : UInt8) : WaitQueueFlag := if byte = 1 then .key else .next

section

variable {io : Io} {code : List Statement}

theorem Accounted.ledger {after : Io} {rest : List Statement}
    (accounted : Accounted io code after rest) (ledger : Ledger io code) :
    Ledger after rest ∧ lost after rest = lost io code := by
  obtain ⟨_, moves, toggles, nexts, keys⟩ := accounted
  constructor
  · constructor
    · rw [moves, nexts]
      exact ledger.moves
    · rw [toggles, keys]
      exact ledger.toggles
  · rw [lost, lost, moves, toggles, nexts, keys]

/-- What the thread is expected to do grows by at most the command, and by all of
it exactly if the command is heard. -/
theorem expects_store {flag : WaitQueueFlag} (notExit : flag ≠ .exit) {byte : UInt8}
    (command : byte = 1 ∨ byte = 2) :
    let stored := commandFlag byte
    let next := if byte = 2 then 1 else 0
    let key := if byte = 1 && (exampleOf code).waits then 1 else 0
    (expectsNext stored code).toNat ≤ (expectsNext flag code).toNat + next ∧
      (expectsKey stored code).toNat ≤ (expectsKey flag code).toNat + key ∧
      ((expectsNext stored code).toNat + (expectsKey stored code).toNat =
          (expectsNext flag code).toNat + next + ((expectsKey flag code).toNat + key) ↔
        heard flag code stored = true) := by
  unfold expectsNext expectsKey heard
  generalize stage code = stage
  generalize (exampleOf code).waits = waits
  rcases command with rfl | rfl
  all_goals
    cases flag with
    | exit => exact absurd rfl notExit
    | wait | key | next => cases stage <;> cases waits <;> decide

/-- A command is counted, and lost unless it is heard. -/
theorem Ledger.store (ledger : Ledger io code) (notExit : io.waitQueueFlag ≠ .exit)
    {writer : Writer} (command : writer.byte = 1 ∨ writer.byte = 2) :
    let stored := commandFlag writer.byte
    let after := (writerExec writer (exampleOf code).waits (.setFlag stored) io).1
    Ledger after code ∧ lost io code ≤ lost after code ∧
      (lost after code = lost io code ↔ heard io.waitQueueFlag code stored = true) := by
  obtain ⟨moves, toggles⟩ := ledger
  obtain ⟨next, key, exactly⟩ := @expects_store code _ notExit _ command
  simp only [lost, writerExec, ← exactly]
  have movesAfter : io.moves + (expectsNext (commandFlag writer.byte) code).toNat ≤
      io.nexts + if writer.byte = 2 then 1 else 0 := by omega
  have togglesAfter : io.toggles + (expectsKey (commandFlag writer.byte) code).toNat ≤
      io.keys + if writer.byte = 1 && (exampleOf code).waits then 1 else 0 := by omega
  exact ⟨⟨movesAfter, togglesAfter⟩, by omega, by omega⟩

end

theorem Steady.store {flag : WaitQueueFlag} {code : List Statement} (steady : Steady flag code)
    {byte : UInt8} : Steady (commandFlag byte) code := by
  unfold commandFlag
  split
  all_goals exact ⟨steady.formed, by decide, fun _ => by decide⟩

/-- The statement that an event executes of a call of `toy_driver_write`. -/
def writerStatement (system : System) : Event → Option (Writer × WriteStatement)
  | .writer index =>
      system.writers[index]?.bind fun writer => writer.code.head?.map fun head => (writer, head)
  | .thread _ | .write _ => none

/-- A call's `switch` reads the byte that this call copied. -/
def ownByte (system : System) (event : Event) : Bool :=
  match writerStatement system event with
  | some (writer, .switchByte) => system.io.kernelWriteBuffer.headD 0 = writer.byte
  | _ => true

def storeHeard (system : System) (event : Event) : Bool :=
  match writerStatement system event with
  | some (_, .setFlag flag) => heard system.io.waitQueueFlag system.thread flag
  | _ => true

def isCommand (byte : UInt8) : Bool := byte = 1 || byte = 2

/-- A call that carries a command and has found it so far. -/
structure Carries (writer : Writer) : Prop where
  command : isCommand writer.byte = true
  code : writer.code = toyDriverWrite ∨ writer.code = [.switchByte] ∨
    writer.code = [.setFlag (commandFlag writer.byte), .wakeUp] ∨ writer.code = [.wakeUp]

structure Inv (system : System) : Prop where
  steady : Steady system.io.waitQueueFlag system.thread
  ledger : Ledger system.io system.thread
  writers : ∀ writer ∈ system.writers, Carries writer

def carriesCommand : Event → Bool
  | .write buf => isCommand (buf.headD 0)
  | .thread _ | .writer _ => true

theorem mem_replaceWriter {index : Nat} {writer other : Writer} {writers : List Writer}
    (member : other ∈ replaceWriter index writer writers) :
    other ∈ writers ∨ other = writer ∧ writer.code ≠ [] := by
  unfold replaceWriter at member
  split at member
  · exact .inl (List.mem_of_mem_eraseIdx member)
  · rename_i goesOn
    rcases List.mem_or_eq_of_mem_set member with old | same
    · exact .inl old
    · exact .inr ⟨same, goesOn⟩

theorem switchCode_command {byte : UInt8} (command : isCommand byte = true) :
    switchCode byte = [.setFlag (commandFlag byte), .wakeUp] := by
  simp only [isCommand, Bool.or_eq_true, decide_eq_true_eq] at command
  rcases command with rfl | rfl
  all_goals rfl

section

variable {system after : System}

theorem Inv.thread (inv : Inv system) {level : Bool}
    (stepped : step system (.thread level) = some after) :
    Inv after ∧ lost after.io after.thread = lost system.io system.thread := by
  obtain ⟨threadStepped, sameWriters⟩ := step_thread stepped
  have accounted := inv.steady.threadStep threadStepped
  obtain ⟨ledger, sameLost⟩ := accounted.ledger inv.ledger
  exact ⟨⟨accounted.steady, ledger, sameWriters ▸ inv.writers⟩, sameLost⟩

theorem Inv.write (inv : Inv system) {buf : List UInt8} (command : isCommand (buf.headD 0) = true)
    (stepped : step system (.write buf) = some after) :
    Inv after ∧ lost after.io after.thread = lost system.io system.thread := by
  obtain ⟨_, rfl⟩ := step_write stepped
  refine ⟨⟨inv.steady, inv.ledger, ?_⟩, rfl⟩
  intro writer member
  rcases List.mem_append.mp member with old | new
  · exact inv.writers writer old
  · rw [List.mem_singleton.mp new]
    exact ⟨command, .inl rfl⟩

/-- One statement of a call, which is at the index `index`. -/
theorem Inv.writer (inv : Inv system) {index : Nat} (own : ownByte system (.writer index) = true)
    (stepped : step system (.writer index) = some after) :
    Inv after ∧ lost system.io system.thread ≤ lost after.io after.thread ∧
      (lost after.io after.thread = lost system.io system.thread ↔
        storeHeard system (.writer index) = true) := by
  obtain ⟨writer, statement, left, found, code, rfl⟩ := step_writer stepped
  obtain ⟨steady, ledger, writers⟩ := inv
  have carries := writers writer (List.mem_of_getElem? found)
  have head : writerStatement system (.writer index) = some (writer, statement) := by
    simp [writerStatement, found, code]
  have others : ∀ {rest}, (rest = [] ∨ Carries { writer with code := rest }) →
      ∀ other ∈ replaceWriter index { writer with code := rest } system.writers,
        Carries other := by
    intro rest goesOn other member
    rcases mem_replaceWriter member with old | ⟨rfl, notDone⟩
    · exact writers other old
    · exact goesOn.resolve_left notDone
  simp only [ownByte, storeHeard, head] at own ⊢
  obtain ⟨command, copies | switches | stores | wakes⟩ := carries
  · cases copies.symm.trans code
    have goesOn : Carries { writer with code := [.switchByte] } := ⟨command, .inr (.inl rfl)⟩
    have kept : Ledger (writerExec writer (exampleOf system.thread).waits .copyFromUser
        system.io).1 system.thread := ⟨ledger.moves, ledger.toggles⟩
    exact ⟨⟨steady, kept, others (.inr goesOn)⟩, Nat.le_refl _, by simp [lost, writerExec]⟩
  · cases switches.symm.trans code
    have stored : switchCode (system.io.kernelWriteBuffer.headD 0) =
        [.setFlag (commandFlag writer.byte), .wakeUp] := by
      rw [of_decide_eq_true own, switchCode_command command]
    have goesOn : Carries { writer with
        code := switchCode (system.io.kernelWriteBuffer.headD 0) ++ [] } :=
      ⟨command, .inr (.inr (.inl (by rw [stored]; rfl)))⟩
    exact ⟨⟨steady, ledger, others (.inr goesOn)⟩, Nat.le_refl _, by simp [writerExec]⟩
  · cases stores.symm.trans code
    have goesOn : Carries { writer with code := [.wakeUp] } := ⟨command, .inr (.inr (.inr rfl))⟩
    have isCommand : writer.byte = 1 ∨ writer.byte = 2 := by
      simpa [SimpleIo.isCommand] using command
    obtain ⟨kept, rises, exactly⟩ := ledger.store steady.notExit isCommand
    exact ⟨⟨steady.store, kept, others (.inr goesOn)⟩, rises, exactly⟩
  · cases wakes.symm.trans code
    exact ⟨⟨steady, ledger, others (.inl rfl)⟩, Nat.le_refl _, by simp [writerExec]⟩

theorem Inv.step (inv : Inv system) {event : Event}
    (stepped : SimpleIo.step system event = some after)
    (allowed : carriesCommand event = true ∧ ownByte system event = true) :
    Inv after ∧ lost system.io system.thread ≤ lost after.io after.thread ∧
      (lost after.io after.thread = lost system.io system.thread ↔
        storeHeard system event = true) := by
  cases event with
  | thread level =>
      obtain ⟨invAfter, same⟩ := inv.thread stepped
      exact ⟨invAfter, Nat.le_of_eq same.symm, iff_of_true same rfl⟩
  | write buf =>
      obtain ⟨invAfter, same⟩ := inv.write allowed.1 stepped
      exact ⟨invAfter, Nat.le_of_eq same.symm, iff_of_true same rfl⟩
  | writer index => exact inv.writer allowed.2 stepped

end

/-- The thread waits: blocked, or asleep without a NEXT in the flag. -/
def waiting (io : Io) : List Statement → Bool
  | .waitEvent :: _ => io.waitQueueFlag = .wait
  | .usleepRange :: _ => io.waitQueueFlag ≠ .next
  | _ => false

def quiescent (system : System) : Bool :=
  system.writers.isEmpty && waiting system.io system.thread

def NothingLost (io : Io) : Prop := io.moves = io.nexts ∧ io.toggles = io.keys

theorem Inv.nothingLost_iff {system : System} (inv : Inv system)
    (rests : waiting system.io system.thread = true) :
    NothingLost system.io ↔ lost system.io system.thread = 0 := by
  obtain ⟨⟨formed, _, _⟩, ⟨moves, toggles⟩, _⟩ := inv
  have nothing : expectsNext system.io.waitQueueFlag system.thread = false ∧
      expectsKey system.io.waitQueueFlag system.thread = false := by
    generalize system.thread = code at *
    unfold waiting at rests
    split at rests
    · simp only [wellFormed, Bool.and_eq_true, decide_eq_true_eq] at formed rests
      simp [expectsNext, expectsKey, stage, rests]
    · simp only [wellFormed, Bool.and_eq_true, decide_eq_true_eq, Bool.not_eq_true'] at formed rests
      simp [expectsNext, expectsKey, stage, exampleOf, formed, rests]
    · contradiction
  rw [nothing.1] at moves
  rw [nothing.2] at toggles
  simp only [Bool.toNat_false, Nat.add_zero] at moves toggles
  simp only [NothingLost, lost, nothing.1, nothing.2, Bool.toNat_false]
  omega

theorem Inv.init : Inv toyModuleInit where
  steady := .fresh (by decide) rfl rfl
  ledger := ⟨by decide, by decide⟩
  writers := fun _ none => by cases none

/-- Nothing is lost if every command is heard, and, as long as no call's byte is
replaced by another's, only then. -/
theorem nothing_lost_iff_heard (events : List Event) (final : System)
    (ran : run step toyModuleInit events = some final)
    (commands : ∀ event ∈ events, carriesCommand event = true)
    (rests : quiescent final = true) :
    ((∀ transition ∈ path step toyModuleInit events,
        ownByte transition.before transition.event = true ∧
          storeHeard transition.before transition.event = true) → NothingLost final.io) ∧
      ((∀ transition ∈ path step toyModuleInit events,
          ownByte transition.before transition.event = true) → NothingLost final.io →
        ∀ transition ∈ path step toyModuleInit events,
          storeHeard transition.before transition.event = true) := by
  have exactly : (∀ transition ∈ path step toyModuleInit events,
      ownByte transition.before transition.event = true) →
      (NothingLost final.io ↔ ∀ transition ∈ path step toyModuleInit events,
        storeHeard transition.before transition.event = true) := by
    intro own
    have allowed : ∀ transition ∈ path step toyModuleInit events,
        carriesCommand transition.event = true ∧
          ownByte transition.before transition.event = true :=
      fun transition member => ⟨commands _ (event_mem_of_mem_path member), own _ member⟩
    obtain ⟨inv, _, account⟩ := run_measure_iff
      (fun system : System => lost system.io system.thread)
      (fun _ _ _ inv allowed stepped => inv.step stepped allowed) Inv.init ran allowed
    have waits : waiting final.io final.thread = true := by
      simp only [quiescent, Bool.and_eq_true] at rests
      exact rests.2
    rw [inv.nothingLost_iff waits]
    exact account
  exact ⟨fun both => (exactly fun transition member => (both transition member).1).mpr
    fun transition member => (both transition member).2, fun own => (exactly own).mp⟩

/-- The thread gets to its first wait. -/
def arrival : List Event := List.replicate 7 (.thread false)

def call (byte : UInt8) : List Event := .write [byte] :: List.replicate 4 (.writer 0)

def singleKey : List Event := arrival ++ call 1 ++ List.replicate 9 (.thread false)

theorem single_key_kept :
    ∃ final, run step toyModuleInit singleKey = some final ∧ NothingLost final.io := by
  refine ⟨_, rfl, ?_⟩
  exact (nothing_lost_iff_heard singleKey _ rfl (by decide) (by decide)).1 (by decide)

/-- A KEY and a NEXT before the thread wakes: the KEY is overwritten. -/
theorem key_overwritten : ¬ ∀ events final, run step toyModuleInit events = some final →
    (∀ event ∈ events, carriesCommand event = true) → quiescent final = true →
      NothingLost final.io := by
  intro kept
  have account := kept (arrival ++ call 1 ++ call 2 ++ List.replicate 11 (.thread false)) _ rfl
    (by decide) (by decide)
  exact absurd account.2 (by decide)

end ToySystem.Drivers.SimpleIo
