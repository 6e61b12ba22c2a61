import ToySystem.Message.RobotMessage
import ToySystem.Message.ToyMessage
import ToySystem.Ui.Input

namespace ToySystem.Ui.Shell

open ToySystem.Data ToySystem.Kernel ToySystem.Libc ToySystem.Message

/-! # The command shell

`toy_loop` of `ui/input.c`, its twelve commands, and of `input` the queues it opens
and the filter it loads.  A failed assertion ends the process; what is printed is
left out.
-/

def toyTokDelim : List Char := [' ', '\t', '\r', '\n', '\x07']

def toyBuffsize : Nat := 1024

def exitFailure : Int := 1

inductive Queue where
  | watchdog
  | monitor
  | disk
  | camera
  | backend
deriving DecidableEq, Repr

def inputOpens : List Queue := [.watchdog, .monitor, .disk, .camera]

/-- The descriptor of a queue that was never opened refers to none. -/
def mqSend (queue : Queue) : Int := if queue ∈ inputOpens then 0 else -1

inductive SystemCall where
  | mmap
  | mincore
deriving DecidableEq, Repr

/-- The calls that the filter answers with `EPERM`. -/
def seccompRules : List SystemCall := [.mincore]

def systemCall (call : SystemCall) : Int := if call ∈ seccompRules then -1 else 0

def assert (holds : Bool) : Option Unit := if holds then some () else none

inductive ElfFile where
  | missing
  | noStat
  | empty
  | mapped
deriving DecidableEq, Repr

inductive WaitStatus where
  | stopped
  | exited
  | signaled
deriving DecidableEq, Repr

/-- What `waitpid` reports about a child, which ends at last. -/
structure Child where
  statuses : List WaitStatus
  ends : ∃ status ∈ statuses, status ≠ .stopped

structure Answers where
  sampleElf : ElfFile
  child : Child
  simpleIoNode : Bool
  simpleIoWrite : Int
  engineNode : Bool
  engineIoctl : Int
  -- the bytes that `robot_msg` happens to hold
  stack : Memory

inductive Message where
  | toyMsg (msg : ToyMsg)
  | robotMsg (bytes : List UInt8)

structure Process where
  globalMessage : List Char
  sent : List (Queue × Message)
  simpleIoWritten : List UInt8
  engineRequests : List (UInt32 × Int32)

def Process.send (process : Process) (queue : Queue) (msg : Message) : Process × Int :=
  if mqSend queue = 0 then ({ process with sent := process.sent ++ [(queue, msg)] }, 0)
  else (process, -1)

def engineNode (answers : Answers) : DeviceFile Process where
  openDevice process := (process, if answers.engineNode then 3 else -1)
  ioctl request argument process :=
    ({ process with engineRequests := process.engineRequests ++ [(request, argument)] },
      answers.engineIoctl)
  closeDevice process := process

abbrev Args := List (List Char)

/-- The new state and the result; none if the process has ended. -/
abbrev Command := Answers → Process → Args → Option (Process × Int)

def toySend : Command := fun _ process _ => some (process, 1)

/-- The loop around `waitpid`: whether it is left. -/
def waitLoop : List WaitStatus → Bool
  | [] => false
  | status :: statuses =>
      if status = .exited ∨ status = .signaled then true else waitLoop statuses

def toyShell : Command := fun answers process _ =>
  if waitLoop answers.child.statuses then some (process, 1) else none

def toyExit : Command := fun _ process _ => some (process, 0)

/-- `strcpy` into `global_message`; a text that is too long destroys what follows. -/
def toyMutex : Command := fun _ process args =>
  match args[1]? with
  | none => some (process, 1)
  | some text =>
      if text.length < toyBuffsize then some ({ process with globalMessage := text }, 1) else none

def toyMessageQueue : Command := fun _ process args =>
  match args[1]?, args[2]? with
  | some queue, some text =>
      if queue = "camera".toList then
        let msg : ToyMsg := { msgType := (atoi text).toUInt32, param1 := 0, param2 := 0 }
        let (process, mqretcode) := process.send .camera (.toyMsg msg)
        (assert (mqretcode = 0)).map fun _ => (process, 1)
      else some (process, 1)
  | _, _ => some (process, 1)

def toyReadElfHeader : Command := fun answers process _ =>
  match answers.sampleElf with
  | .missing | .noStat => some (process, exitFailure)
  | .empty | .mapped => some (process, 1)

def toyDumpState : Command := fun _ process _ =>
  let msg : ToyMsg := { msgType := dumpState, param1 := 0, param2 := 0 }
  let (process, mqretcode) := process.send .camera (.toyMsg msg)
  (assert (mqretcode = 0)).bind fun _ =>
    let (process, mqretcode) := process.send .monitor (.toyMsg msg)
    (assert (mqretcode = 0)).map fun _ => (process, 1)

def toyMincore : Command := fun _ process _ =>
  (assert (systemCall .mincore = 0)).map fun _ => (process, 1)

def toySimpleIo : Command := fun answers process args =>
  if answers.simpleIoNode then
    let buff : UInt8 := if args[1]? = some "exit".toList then 2 else 1
    if answers.simpleIoWrite < 0 then some (process, 1)
    else some ({ process with simpleIoWritten := process.simpleIoWritten ++ [buff] }, 1)
  else some (process, 1)

def toySetMotor1Speed : Command := fun answers process args =>
  some (Ui.toySetMotor1Speed (engineNode answers) args process)

def toySetMotor2Speed : Command := fun answers process args =>
  some (Ui.toySetMotor2Speed (engineNode answers) args process)

def toySendToBe : Command := fun answers process args =>
  match args[1]? with
  | none => some (process, 1)
  | some text =>
      let robotMsg := answers.stack.storeUInt32 RobotMessage.idOffset messageIdInfo
      let robotMsg := robotMsg.storeUInt32 RobotMessage.infoIdOffset 12341234
      let robotMsg := robotMsg.storeUInt32 RobotMessage.infoTemperatureOffset (atoi text).toUInt32
      let (process, mqretcode) := process.send .backend (.robotMsg (RobotMessage.send robotMsg))
      (assert (mqretcode = 0)).map fun _ => (process, 1)

def builtinStr : List (List Char) :=
  ["send".toList, "sh".toList, "exit".toList, "mu".toList, "mq".toList, "elf".toList,
    "dump".toList, "mincore".toList, "n".toList, "m1".toList, "m2".toList, "be".toList]

def builtinFunc : List Command :=
  [toySend, toyShell, toyExit, toyMutex, toyMessageQueue, toyReadElfHeader, toyDumpState,
    toyMincore, toySimpleIo, toySetMotor1Speed, toySetMotor2Speed, toySendToBe]

def toyExecute : Command := fun answers process args =>
  match args with
  | [] => some (process, 1)
  | command :: _ =>
      match (builtinStr.zip builtinFunc).find? fun builtin => command = builtin.1 with
      | none => some (process, 1)
      | some builtin => builtin.2 answers process args

/-- The tokens that `strtok` finds, until there are none.  There is room for all of them in the
array as long as they are fewer than 2^31 - 64. -/
def toySplitLine (line : List Char) : Args :=
  ((line.takeWhile fun c => c ≠ '\x00').splitOnP fun c => c ∈ toyTokDelim).filter
    fun token => token ≠ []

/-- A line of input, with what its command meets.  Its tokens fit `global_message`. -/
structure Line where
  text : List Char
  answers : Answers
  short : ∀ token ∈ toySplitLine text, token.length < toyBuffsize

def Line.args (line : Line) : Args := toySplitLine line.text

/-- The lines that are processed, with the results of `toy_execute`. -/
def toyLoop : Process → List Line → Option (List (Line × Int))
  | _, [] => some []
  | process, line :: lines =>
      (toyExecute line.answers process line.args).bind fun (process, status) =>
        if status = 0 then some [(line, status)]
        else (toyLoop process lines).map fun processed => (line, status) :: processed

def Exits (args : Args) : Prop := args.head? = some "exit".toList

instance (args : Args) : Decidable (Exits args) := inferInstanceAs (Decidable (_ = _))

/-- Up to the first line that says exit, and that line. -/
def upToExit : List Line → List Line
  | [] => []
  | line :: lines => if Exits line.args then [line] else line :: upToExit lines

/-- All lines up to the first exit are processed, and none but it has the result 0. -/
def EndsWhenTold (process : Process) (lines : List Line) : Prop :=
  ∃ processed, toyLoop process lines = some processed ∧
    processed.map Prod.fst = upToExit lines ∧
    ∀ result ∈ processed, (result.2 = 0 ↔ Exits result.1.args)

/-- The command whose system call the filter refuses, and the one that sends to the
queue that is not open. -/
def Aborts (args : Args) : Prop :=
  args.head? = some "mincore".toList ∨ args.head? = some "be".toList ∧ 2 ≤ args.length

/-- What a command does under its name. -/
def Behaves (builtin : List Char × Command) : Prop :=
  ∀ answers process rest, (∀ token ∈ builtin.1 :: rest, token.length < toyBuffsize) →
    (Aborts (builtin.1 :: rest) ∧ builtin.2 answers process (builtin.1 :: rest) = none ∨
      ¬ Aborts (builtin.1 :: rest) ∧ ∃ after status,
        builtin.2 answers process (builtin.1 :: rest) = some (after, status) ∧
          (status = 0 ↔ Exits (builtin.1 :: rest)))

theorem waitLoop_ends (child : Child) : waitLoop child.statuses = true := by
  obtain ⟨status, member, ended⟩ := child.ends
  revert member
  induction child.statuses with
  | nil => simp
  | cons first statuses ih =>
      intro member
      unfold waitLoop
      split
      · rfl
      · next notFirst =>
          rcases List.mem_cons.mp member with same | later
          · subst same
            cases status with
            | stopped => exact absurd rfl ended
            | exited => simp at notFirst
            | signaled => simp at notFirst
          · exact ih later

theorem send_open {queue : Queue} (isOpen : queue ∈ inputOpens) (process : Process)
    (msg : Message) : process.send queue msg =
      ({ process with sent := process.sent ++ [(queue, msg)] }, 0) := by
  simp [Process.send, mqSend, isOpen]

/-- A command other than those that end the shell or the process. -/
theorem behaves_of_returns {name : List Char} {command : Command}
    (plain : name ∉ ["exit".toList, "mincore".toList, "be".toList])
    (returns : ∀ answers process rest, (∀ token ∈ name :: rest, token.length < toyBuffsize) →
      ∃ after, command answers process (name :: rest) = some (after, 1)) :
    Behaves (name, command) := by
  intro answers process rest short
  obtain ⟨after, returned⟩ := returns answers process rest short
  simp only [List.mem_cons, not_or] at plain
  obtain ⟨notExit, notMincore, notBe, _⟩ := plain
  have works : ¬ Aborts (name :: rest) := by
    intro aborts
    rcases aborts with isMincore | ⟨isBe, _⟩
    · exact notMincore (Option.some.inj isMincore)
    · exact notBe (Option.some.inj isBe)
  have stays : ¬ Exits (name :: rest) := fun isExit => notExit (Option.some.inj isExit)
  exact .inr ⟨works, after, 1, returned, iff_of_false (by decide) stays⟩

theorem toyMutex_returns (answers : Answers) (process : Process) (args : Args)
    (short : ∀ token ∈ args, token.length < toyBuffsize) :
    ∃ after, toyMutex answers process args = some (after, 1) := by
  unfold toyMutex
  split
  · exact ⟨process, rfl⟩
  · next text found =>
      rw [if_pos (short text (List.mem_of_getElem? found))]
      exact ⟨_, rfl⟩

theorem toyMessageQueue_returns (answers : Answers) (process : Process) (args : Args) :
    ∃ after, toyMessageQueue answers process args = some (after, 1) := by
  unfold toyMessageQueue
  split
  · split
    · simp [send_open (by decide : Queue.camera ∈ inputOpens), assert]
    · exact ⟨process, rfl⟩
  · exact ⟨process, rfl⟩

theorem toyReadElfHeader_returns (answers : Answers) (process : Process) (args : Args) :
    toyReadElfHeader answers process args = some (process, 1) := by
  unfold toyReadElfHeader
  split <;> rfl

theorem toyDumpState_returns (answers : Answers) (process : Process) (args : Args) :
    ∃ after, toyDumpState answers process args = some (after, 1) := by
  simp [toyDumpState, send_open (by decide : Queue.camera ∈ inputOpens),
    send_open (by decide : Queue.monitor ∈ inputOpens), assert]

theorem toySimpleIo_returns (answers : Answers) (process : Process) (args : Args) :
    ∃ after, toySimpleIo answers process args = some (after, 1) := by
  unfold toySimpleIo
  split
  · dsimp only
    split <;> exact ⟨_, rfl⟩
  · exact ⟨process, rfl⟩

theorem toySetMotorSpeed_returns {W : Type} (device : DeviceFile W) (request : UInt32)
    (args : Args) (world : W) : (toySetMotorSpeed device request args world).2 = 1 := by
  unfold toySetMotorSpeed
  split <;> rfl

theorem toyExit_behaves : Behaves ("exit".toList, toyExit) := by
  intro answers process rest _
  have works : ¬ Aborts ("exit".toList :: rest) := by simp [Aborts]
  exact .inr ⟨works, process, 0, rfl, iff_of_true rfl rfl⟩

theorem toyMincore_behaves : Behaves ("mincore".toList, toyMincore) :=
  fun _ _ _ _ => .inl ⟨.inl rfl, rfl⟩

theorem toySendToBe_behaves : Behaves ("be".toList, toySendToBe) := by
  intro answers process rest _
  cases rest with
  | nil =>
      have works : ¬ Aborts ["be".toList] := by simp [Aborts]
      exact .inr ⟨works, process, 1, rfl, iff_of_false (by decide) (by simp [Exits])⟩
  | cons text rest => exact .inl ⟨.inr ⟨rfl, by simp⟩, rfl⟩

theorem builtins_behave : ∀ builtin ∈ builtinStr.zip builtinFunc, Behaves builtin := by
  simp only [builtinStr, builtinFunc, List.zip_cons_cons, List.zip_nil_left, List.forall_mem_cons,
    List.not_mem_nil, IsEmpty.forall_iff, implies_true, and_true]
  refine ⟨?_, ?_, toyExit_behaves, ?_, ?_, ?_, ?_, toyMincore_behaves, ?_, ?_, ?_,
    toySendToBe_behaves⟩
  · exact behaves_of_returns (by decide) fun _ process _ _ => ⟨process, rfl⟩
  · refine behaves_of_returns (by decide) fun answers process rest _ => ⟨process, ?_⟩
    rw [toyShell, if_pos (waitLoop_ends answers.child)]
  · exact behaves_of_returns (by decide) fun answers process rest short =>
      toyMutex_returns answers process _ short
  · exact behaves_of_returns (by decide) fun answers process rest _ =>
      toyMessageQueue_returns answers process _
  · exact behaves_of_returns (by decide) fun answers process rest _ =>
      ⟨process, toyReadElfHeader_returns answers process _⟩
  · exact behaves_of_returns (by decide) fun answers process rest _ =>
      toyDumpState_returns answers process _
  · exact behaves_of_returns (by decide) fun answers process rest _ =>
      toySimpleIo_returns answers process _
  · exact behaves_of_returns (by decide) fun answers process rest _ =>
      ⟨_, congrArg some (Prod.ext rfl (toySetMotorSpeed_returns _ motor1SetSpeed _ process))⟩
  · exact behaves_of_returns (by decide) fun answers process rest _ =>
      ⟨_, congrArg some (Prod.ext rfl (toySetMotorSpeed_returns _ motor2SetSpeed _ process))⟩

theorem toyExecute_behaves (answers : Answers) (process : Process) (args : Args)
    (short : ∀ token ∈ args, token.length < toyBuffsize) :
    Aborts args ∧ toyExecute answers process args = none ∨
      ¬ Aborts args ∧ ∃ after status, toyExecute answers process args = some (after, status) ∧
        (status = 0 ↔ Exits args) := by
  cases args with
  | nil =>
      exact .inr ⟨by simp [Aborts], process, 1, rfl, iff_of_false (by decide) (by simp [Exits])⟩
  | cons command rest =>
      unfold toyExecute
      dsimp only
      cases found : (builtinStr.zip builtinFunc).find? fun builtin => command = builtin.1 with
      | some builtin =>
          have behaves := builtins_behave builtin (List.mem_of_find?_eq_some found)
          have same : command = builtin.1 := by simpa using List.find?_some found
          subst same
          exact behaves answers process rest short
      | none =>
          have names : builtinStr = (builtinStr.zip builtinFunc).map Prod.fst := rfl
          have unknown : ∀ name ∈ builtinStr, command ≠ name := by
            intro name member
            rw [names] at member
            obtain ⟨builtin, inTable, rfl⟩ := List.mem_map.mp member
            simpa using List.find?_eq_none.mp found builtin inTable
          have notExit := unknown "exit".toList (by decide)
          have notMincore := unknown "mincore".toList (by decide)
          have notBe := unknown "be".toList (by decide)
          refine .inr ⟨?_, process, 1, rfl, iff_of_false (by decide) ?_⟩
          · intro aborts
            rcases aborts with isMincore | ⟨isBe, _⟩
            · exact notMincore (Option.some.inj isMincore)
            · exact notBe (Option.some.inj isBe)
          · exact fun isExit => notExit (Option.some.inj isExit)

section

variable {process after : Process} {line : Line} {lines : List Line} {status : Int}

theorem endsWhenTold_exit
    (executed : toyExecute line.answers process line.args = some (after, status))
    (zero : status = 0 ↔ Exits line.args) (exits : Exits line.args) :
    EndsWhenTold process (line :: lines) := by
  have last : status = 0 := zero.mpr exits
  have looped : toyLoop process (line :: lines) = some [(line, status)] := by
    simp [toyLoop, executed, last]
  have upTo : upToExit (line :: lines) = [line] := if_pos exits
  exact ⟨_, looped, upTo.symm, by simpa using zero⟩

theorem endsWhenTold_goes_on
    (executed : toyExecute line.answers process line.args = some (after, status))
    (zero : status = 0 ↔ Exits line.args) (stays : ¬ Exits line.args) :
    EndsWhenTold process (line :: lines) ↔ EndsWhenTold after lines := by
  have goesOn : status ≠ 0 := mt zero.mp stays
  have looped : toyLoop process (line :: lines) =
      (toyLoop after lines).map fun processed => (line, status) :: processed := by
    simp [toyLoop, executed, goesOn]
  have upTo : upToExit (line :: lines) = line :: upToExit lines := if_neg stays
  constructor
  · rintro ⟨processed, ran, same, results⟩
    rw [looped] at ran
    obtain ⟨rest, ranRest, rfl⟩ := Option.map_eq_some_iff.mp ran
    rw [upTo, List.map_cons, List.cons.injEq] at same
    exact ⟨rest, ranRest, same.2, (List.forall_mem_cons.mp results).2⟩
  · rintro ⟨rest, ranRest, same, results⟩
    refine ⟨(line, status) :: rest, by rw [looped, ranRest]; rfl, ?_, ?_⟩
    · rw [upTo, List.map_cons, same]
    · exact List.forall_mem_cons.mpr ⟨zero, results⟩

end

/-- The shell ends only when told to exactly if no line before the exit asks for one
of the two commands that abort. -/
theorem endsWhenTold_iff (process : Process) (lines : List Line) :
    EndsWhenTold process lines ↔ ∀ line ∈ upToExit lines, ¬ Aborts line.args := by
  induction lines generalizing process with
  | nil => exact iff_of_true ⟨[], rfl, rfl, by simp⟩ (by simp [upToExit])
  | cons line lines ih =>
      rcases toyExecute_behaves line.answers process line.args line.short with
        ⟨aborts, ended⟩ | ⟨works, after, status, executed, zero⟩
      · have here : line ∈ upToExit (line :: lines) := by
          unfold upToExit
          split <;> simp
        refine iff_of_false ?_ fun all => all line here aborts
        rintro ⟨processed, looped, _⟩
        simp [toyLoop, ended] at looped
      · by_cases exits : Exits line.args
        · have upTo : upToExit (line :: lines) = [line] := if_pos exits
          rw [upTo]
          exact iff_of_true (endsWhenTold_exit executed zero exits) (by simpa using works)
        · have upTo : upToExit (line :: lines) = line :: upToExit lines := if_neg exits
          rw [upTo, List.forall_mem_cons, ← ih after, and_iff_right works]
          exact endsWhenTold_goes_on executed zero exits

def mincoreLine : Line where
  text := "mincore\n".toList
  answers := {
    sampleElf := .missing
    child := ⟨[.exited], .exited, by decide, by decide⟩
    simpleIoNode := false
    simpleIoWrite := 0
    engineNode := false
    engineIoctl := 0
    stack := fun _ => 0 }
  short := by decide

theorem not_endsWhenTold_mincore :
    ¬ ∀ (process : Process) (lines : List Line), EndsWhenTold process lines := by
  intro all
  obtain ⟨processed, looped, _⟩ := all ⟨[], [], [], []⟩ [mincoreLine]
  have ended : toyLoop ⟨[], [], [], []⟩ [mincoreLine] = none := by decide
  rw [ended] at looped
  cases looped

end ToySystem.Ui.Shell
