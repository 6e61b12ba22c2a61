import ToySystem.Data.Ledger
import ToySystem.Message.ToyMessage
import ToySystem.Server.MonitorThread

namespace ToySystem.Server.SharedSegment

open ToySystem.Data ToySystem.Message ToySystem.Ui

/-! # The shared segment and its failures

`system/shared_memory.c`, the part of `input` and `sensor_thread` in `ui/input.c`
that creates the segment and sends its id, and `monitor_thread` of
`system/system_server.c`, which attaches it for each message.
-/

def shmKeyBase : Int := 10
def shmKeySensor : Int := shmKeyBase
def shmKeyMax : Int := 11

/-- `failed` is `(void *)-1`. -/
inductive Pointer where
  | null
  | failed
  | segment (address : Nat)
deriving DecidableEq, Repr

/-- What `shmget` returns on success. -/
abbrev ShmId := { id : Int32 // 0 ≤ id }

def shmgetResult : Option ShmId → Int32
  | none => -1
  | some id => id.val

/-! ## The segment in `shared_memory.c`

`shmat` and `shmget` are what the kernel answers if it is asked.
-/

def toyShmAttach (shmid : Int32) (shmat : Option Nat) : Pointer :=
  if shmid < 0 then .failed
  else
    match shmat with
    | none => .failed
    | some address => .segment address

/-- The table `shm_id` after the call, and the result. -/
def toyShmCreate (key : Int) (shmget : Option ShmId) (shmat : Option Nat)
    (shmId : Int → Int32) : (Int → Int32) × Pointer :=
  let keyOffset := key - shmKeyBase
  let shmId := Function.update shmId keyOffset (shmgetResult shmget)
  if shmId keyOffset = -1 then (shmId, .failed)
  else (shmId, toyShmAttach (shmId keyOffset) shmat)

def toyShmGetKeyid (key : Int) (shmId : Int → Int32) : Int32 :=
  if key < shmKeyBase ∨ shmKeyMax ≤ key then -1 else shmId (key - shmKeyBase)

structure InputProcess where
  shmId : Int → Int32
  theSensorInfo : Pointer

/-- What the kernel answers the input process. -/
structure Creation where
  shmget : Option ShmId
  shmat : Option Nat

/-- The table is zero before. -/
def input (creation : Creation) : InputProcess :=
  let (shmId, pointer) :=
    toyShmCreate shmKeySensor creation.shmget creation.shmat fun _ => 0
  { shmId, theSensorInfo := if pointer = .failed then .null else pointer }

def sensorThreadMessage (process : InputProcess) : ToyMsg where
  msgType := sensorData
  -- an `int` that becomes an `unsigned int`
  param1 := (toyShmGetKeyid shmKeySensor process.shmId).toUInt32
  param2 := 0

def toyDumpStateMessage : ToyMsg where
  msgType := dumpState
  param1 := 0
  param2 := 0

/-- The log is that of the attachments. -/
structure Monitor where
  theSensorInfo : Pointer
  robotMsg : Memory
  sent : List (Pointer × Memory)
  log : List (Operation Pointer)

def Monitor.attach (monitor : Monitor) (shmid : Int32) (shmat : Option Nat) : Monitor :=
  let pointer := toyShmAttach shmid shmat
  { monitor with
    theSensorInfo := pointer
    log := monitor.log ++ if pointer = .failed then [] else [.acquire pointer] }

/-- A read through `the_sensor_info`; the process does not survive any other. -/
def Monitor.read (monitor : Monitor) : Option Monitor :=
  match monitor.theSensorInfo with
  | .null | .failed => none
  | .segment address => some { monitor with log := monitor.log ++ [.use (.segment address)] }

/-- `toy_shm_detach(the_sensor_info)`; the pointer is kept. -/
def Monitor.detach (monitor : Monitor) : Monitor :=
  if monitor.theSensorInfo = .null then monitor
  else { monitor with log := monitor.log ++ [.delete monitor.theSensorInfo] }

/-- A message on the queue, and what is met in handling it: the answer of `shmat`,
and what the segment holds. -/
structure Arrival where
  isSensorData : Bool
  shmat : Option Nat
  contents : ShmSensor

def Arrival.msg (process : InputProcess) (arrival : Arrival) : ToyMsg :=
  if arrival.isSensorData then sensorThreadMessage process else toyDumpStateMessage

/-- The three fields are printed, and the temperature is read once more for the
message. -/
def handleSensorData (monitor : Monitor) (shmid : Int32) (arrival : Arrival) :
    Option Monitor := do
  let monitor := monitor.attach shmid arrival.shmat
  let monitor ← monitor.read
  let monitor ← monitor.read
  let monitor ← monitor.read
  let monitor ← monitor.read
  let robotMsg := monitorThread arrival.contents monitor.robotMsg
  return Monitor.detach { monitor with
    robotMsg
    sent := monitor.sent ++ [(monitor.theSensorInfo, robotMsg)] }

/-- One iteration of `monitor_thread`. -/
def monitorRound (process : InputProcess) (monitor : Monitor) (arrival : Arrival) :
    Option Monitor :=
  let msg := arrival.msg process
  if msg.msgType = sensorData then handleSensorData monitor msg.param1.toInt32 arrival
  else some monitor

def Monitor.start (robotMsg : Memory) : Monitor where
  theSensorInfo := .null
  robotMsg := robotMsg
  sent := []
  log := []

/-- The thread survives; it reads through attached segments only and detaches just
these; and no message is built from anything else. -/
def Survives (creation : Creation) (robotMsg : Memory) (arrivals : List Arrival) : Prop :=
  ∃ final, run (monitorRound (input creation)) (.start robotMsg) arrivals = some final ∧
    balance final.log = some [] ∧ ∀ message ∈ final.sent, ∃ address, message.1 = .segment address

/-- The sensor thread, which tests its pointer, never writes through a bad one. -/
theorem input_theSensorInfo (creation : Creation) :
    (input creation).theSensorInfo ≠ .failed := by
  unfold input
  dsimp only
  split
  · exact Pointer.noConfusion
  · next valid => exact valid

/-- A message that is handled without a failure. -/
def Available (creation : Creation) (arrival : Arrival) : Prop :=
  arrival.isSensorData = true → creation.shmget.isSome = true ∧ arrival.shmat.isSome = true

/-- What holds of the thread between two messages. -/
structure Orderly (monitor : Monitor) : Prop where
  balanced : balance monitor.log = some []
  valid : ∀ message ∈ monitor.sent, ∃ address, message.1 = .segment address

section

variable {creation : Creation} {monitor next : Monitor} {arrival : Arrival}

/-- The id goes through an unsigned field and comes out as it was. -/
theorem sensorThreadMessage_shmid (creation : Creation) :
    (sensorThreadMessage (input creation)).param1.toInt32 = shmgetResult creation.shmget := by
  have key : ¬ (shmKeySensor < shmKeyBase ∨ shmKeyMax ≤ shmKeySensor) := by decide
  have table : (input creation).shmId (shmKeySensor - shmKeyBase) =
      shmgetResult creation.shmget := by
    unfold input toyShmCreate
    dsimp only
    split <;> exact Function.update_self (shmKeySensor - shmKeyBase) _ (fun _ => (0 : Int32))
  rw [sensorThreadMessage, Int32.toInt32_toUInt32, toyShmGetKeyid, if_neg key, table]

theorem toyShmAttach_segment (id : ShmId) (address : Nat) :
    toyShmAttach id.val (some address) = .segment address := by
  have valid : ¬ id.val < 0 := Int32.not_lt.mpr id.property
  rw [toyShmAttach, if_neg valid]

theorem toyShmAttach_failed
    (failed : ¬ (creation.shmget.isSome = true ∧ arrival.shmat.isSome = true)) :
    toyShmAttach (shmgetResult creation.shmget) arrival.shmat = .failed := by
  rcases not_and_or.mp failed with noId | noAddress
  · rw [Option.not_isSome_iff_eq_none.mp noId]
    rfl
  · rw [Option.not_isSome_iff_eq_none.mp noAddress, toyShmAttach]
    split <;> rfl

theorem monitorRound_dumpState (other : arrival.isSensorData = false) :
    monitorRound (input creation) monitor arrival = some monitor := by
  simp [monitorRound, Arrival.msg, other, toyDumpStateMessage, dumpState, sensorData]

theorem monitorRound_sensorData (isSensorData : arrival.isSensorData = true) :
    monitorRound (input creation) monitor arrival =
      handleSensorData monitor (shmgetResult creation.shmget) arrival := by
  rw [← sensorThreadMessage_shmid]
  unfold monitorRound Arrival.msg
  rw [if_pos isSensorData]
  exact if_pos rfl

theorem handleSensorData_attached {shmid : Int32} {address : Nat}
    (attached : toyShmAttach shmid arrival.shmat = .segment address) :
    handleSensorData monitor shmid arrival = some {
      theSensorInfo := .segment address
      robotMsg := monitorThread arrival.contents monitor.robotMsg
      sent := monitor.sent ++
        [(.segment address, monitorThread arrival.contents monitor.robotMsg)]
      log := monitor.log ++ [.acquire (.segment address), .use (.segment address),
        .use (.segment address), .use (.segment address), .use (.segment address),
        .delete (.segment address)] } := by
  simp [handleSensorData, attached, Monitor.attach, Monitor.read, Monitor.detach]

theorem handleSensorData_failed {shmid : Int32}
    (failed : toyShmAttach shmid arrival.shmat = .failed) :
    handleSensorData monitor shmid arrival = none := by
  simp [handleSensorData, failed, Monitor.attach, Monitor.read]

/-- One message: handled in good order, or fatal. -/
theorem monitorRound_cases (orderly : Orderly monitor) :
    Available creation arrival ∧
        (∃ next, monitorRound (input creation) monitor arrival = some next ∧ Orderly next) ∨
      ¬ Available creation arrival ∧
        monitorRound (input creation) monitor arrival = none := by
  cases kind : arrival.isSensorData with
  | false =>
      refine .inl ⟨?_, monitor, monitorRound_dumpState kind, orderly⟩
      intro isSensorData
      rw [kind] at isSensorData
      cases isSensorData
  | true =>
      rw [monitorRound_sensorData kind]
      by_cases available : creation.shmget.isSome = true ∧ arrival.shmat.isSome = true
      · obtain ⟨id, hasId⟩ := Option.isSome_iff_exists.mp available.1
        obtain ⟨address, hasAddress⟩ := Option.isSome_iff_exists.mp available.2
        have attached : toyShmAttach (shmgetResult creation.shmget) arrival.shmat =
            .segment address := by
          rw [hasId, hasAddress]
          exact toyShmAttach_segment id address
        refine .inl ⟨fun _ => available, _, handleSensorData_attached attached, ?_, ?_⟩
        · have before : run ledgerStep [] monitor.log = some [] := orderly.balanced
          rw [balance, run_append, before]
          simp [run, ledgerStep]
        · intro message member
          rcases List.mem_append.mp member with old | new
          · exact orderly.valid message old
          · rw [List.mem_singleton.mp new]
            exact ⟨address, rfl⟩
      · exact .inr ⟨fun all => available (all kind),
          handleSensorData_failed (toyShmAttach_failed available)⟩

end

/-- The monitor survives exactly those messages for which the segment is there. -/
theorem survives_iff (creation : Creation) (robotMsg : Memory) (arrivals : List Arrival) :
    Survives creation robotMsg arrivals ↔
      ∀ arrival ∈ arrivals, Available creation arrival := by
  have start : Orderly (.start robotMsg) := ⟨rfl, by simp [Monitor.start]⟩
  constructor
  · rintro ⟨final, ran, _⟩
    refine allowed_of_run start ?_ ran
    intro before arrival after orderly stepped
    rcases monitorRound_cases orderly with ⟨available, next, handled, valid⟩ | ⟨_, crash⟩
    · cases handled.symm.trans stepped
      exact ⟨available, valid⟩
    · rw [crash] at stepped
      cases stepped
  · intro available
    obtain ⟨final, ran, orderly⟩ := run_total start
      (fun before arrival orderly available =>
        ((monitorRound_cases orderly).resolve_right fun crash => crash.1 available).2) available
    exact ⟨final, ran, orderly.balanced, orderly.valid⟩

/-- A segment that cannot be created. -/
def noSegment : Creation where
  shmget := none
  shmat := none

theorem not_survives_noSegment :
    ¬ ∀ (creation : Creation) (robotMsg : Memory) (arrivals : List Arrival),
      Survives creation robotMsg arrivals := by
  intro all
  obtain ⟨final, ran, _⟩ := all noSegment (fun _ => 0) [⟨true, none, ⟨0, 0, 0⟩⟩]
  have crash : run (monitorRound (input noSegment)) (.start fun _ => 0)
      [⟨true, none, ⟨0, 0, 0⟩⟩] = none := rfl
  rw [crash] at ran
  cases ran

end ToySystem.Server.SharedSegment
