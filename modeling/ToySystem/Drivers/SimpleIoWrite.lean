import ToySystem.Drivers.SimpleIo

namespace ToySystem.Drivers.SimpleIoWrite

open ToySystem.Data ToySystem.Drivers.SimpleIo

/-! # Writing to the simple_io device

Whole calls of `toy_driver_write` one after another, with what `copy_from_user` makes
of each.  Between two calls the driver's thread may set the flag.
-/

abbrev WriteBuffer := { bytes : List UInt8 // bytes.length = bufSize }

namespace WriteBuffer

theorem ne_nil (buffer : WriteBuffer) : buffer.val ≠ [] := by
  have length := buffer.property
  intro none
  rw [none] at length
  cases length

/-- `kernel_write_buffer[0]` -/
def first (buffer : WriteBuffer) : UInt8 := buffer.val.head buffer.ne_nil

end WriteBuffer

/-- A call asks for `count` bytes; `readable` are those that can be read from user
space before a page is missing. -/
structure Write where
  count : Nat
  readable : List UInt8
  bound : readable.length ≤ count

namespace Write

/-- The size of the destination is known, so a copy that does not fit is refused. -/
def copied (write : Write) : List UInt8 :=
  if write.count ≤ bufSize then write.readable else []

def Complete (write : Write) : Prop :=
  0 < write.count ∧ write.count ≤ bufSize ∧ write.readable.length = write.count

instance (write : Write) : Decidable write.Complete := inferInstanceAs (Decidable (_ ∧ _ ∧ _))

end Write

/-- The bytes that could not be read are cleared. -/
def copyFromUser (write : Write) (buffer : WriteBuffer) : WriteBuffer :=
  if fits : write.count ≤ bufSize then
    ⟨write.readable ++ List.replicate (write.count - write.readable.length) 0 ++
      buffer.val.drop write.count, by
        have size := buffer.property
        have bound := write.bound
        rw [List.length_append, List.length_append, List.length_replicate, List.length_drop]
        omega⟩
  else buffer

/-- The flag that a byte commands. -/
def commanded (byte : UInt8) : Option WaitQueueFlag :=
  match switchCode byte with
  | .setFlag flag :: _ => some flag
  | _ => none

/-- The driver's variables, and what the last call returned. -/
structure Device where
  waitQueueFlag : WaitQueueFlag
  kernelWriteBuffer : WriteBuffer
  returned : Int

/-- A failed copy is only logged. -/
def toyDriverWrite (write : Write) (device : Device) : Device :=
  let buffer := copyFromUser write device.kernelWriteBuffer
  { waitQueueFlag := (commanded buffer.first).getD device.waitQueueFlag
    kernelWriteBuffer := buffer
    returned := write.count }

inductive Event where
  | write (write : Write)
  | thread (flag : WaitQueueFlag)

def step (device : Device) : Event → Option Device
  | .write write => some (toyDriverWrite write device)
  | .thread flag => some { device with waitQueueFlag := flag }

/-- A call that supplies bytes sets the flag by the first of them, any other call
changes nothing but the bytes copied and reports no more than these. -/
structure OwnBytes (write : Write) (before after : Device) : Prop where
  complete : write.Complete → ∀ byte ∈ write.readable.head?,
    after.waitQueueFlag = (commanded byte).getD before.waitQueueFlag
  flag : ¬ write.Complete → after.waitQueueFlag = before.waitQueueFlag
  buffer : ¬ write.Complete → ∀ index, write.copied.length ≤ index →
    after.kernelWriteBuffer.val[index]? = before.kernelWriteBuffer.val[index]?
  returned : ¬ write.Complete → after.returned ≤ write.copied.length

def ActsOnOwnBytes (transition : Transition Device Event) : Prop :=
  ∀ write, transition.event = .write write → OwnBytes write transition.before transition.after

/-- Without bytes, the byte left by an earlier call must not command a change. -/
def Idle (write : Write) (before : Device) : Prop :=
  write.count = 0 ∧ ∀ flag ∈ commanded before.kernelWriteBuffer.first, before.waitQueueFlag = flag

def WellSupplied (transition : Transition Device Event) : Prop :=
  ∀ write, transition.event = .write write → write.Complete ∨ Idle write transition.before

theorem copyFromUser_complete {write : Write} (complete : write.Complete) (buffer : WriteBuffer) :
    (copyFromUser write buffer).first ∈ write.readable.head? := by
  obtain ⟨some, fits, all⟩ := complete
  cases shape : write.readable with
  | nil =>
      rw [shape] at all
      exact absurd all (by rw [List.length_nil]; omega)
  | cons byte bytes =>
      simp only [WriteBuffer.first, copyFromUser, dif_pos fits, shape, List.cons_append,
        List.head_cons, List.head?_cons, Option.mem_def]

theorem copyFromUser_none {write : Write} (none : write.count = 0) (buffer : WriteBuffer) :
    copyFromUser write buffer = buffer := by
  have bound := write.bound
  have empty : write.readable = [] := List.eq_nil_of_length_eq_zero (by omega)
  refine Subtype.ext ?_
  simp only [copyFromUser, none, empty, Nat.zero_le, dif_pos, List.length_nil, Nat.sub_self,
    List.replicate_zero, List.nil_append, List.drop_zero]

theorem toyDriverWrite_idle {write : Write} {before : Device} (idle : Idle write before) :
    (toyDriverWrite write before).waitQueueFlag = before.waitQueueFlag := by
  obtain ⟨none, settled⟩ := idle
  rw [toyDriverWrite, copyFromUser_none none]
  cases command : commanded before.kernelWriteBuffer.first with
  | none => rfl
  | some flag => exact (settled flag command).symm

/-- Only a call that supplies nothing can do without success, and only its flag
depends on the call's past. -/
theorem ownBytes_iff (write : Write) (before : Device) :
    OwnBytes write before (toyDriverWrite write before) ↔
      write.Complete ∨ Idle write before := by
  by_cases complete : write.Complete
  · refine ⟨fun _ => .inl complete, fun _ => ⟨?_, ?_, ?_, ?_⟩⟩
    · intro _ byte isHead
      have first := copyFromUser_complete complete before.kernelWriteBuffer
      have same := Option.mem_unique first isHead
      rw [toyDriverWrite, same]
    · exact fun incomplete => absurd complete incomplete
    · exact fun incomplete => absurd complete incomplete
    · exact fun incomplete => absurd complete incomplete
  · constructor
    · intro own
      have told : (write.count : Int) ≤ write.copied.length := own.returned complete
      have none : write.count = 0 := by
        have bound := write.bound
        by_cases fits : write.count ≤ bufSize
        · rw [Write.copied, if_pos fits] at told
          by_cases some : write.count = 0
          · exact some
          · exact absurd ⟨by omega, fits, by omega⟩ complete
        · rw [Write.copied, if_neg fits, List.length_nil] at told
          omega
      have flag := own.flag complete
      rw [toyDriverWrite, copyFromUser_none none] at flag
      refine .inr ⟨none, ?_⟩
      intro command commands
      rw [Option.mem_def.mp commands, Option.getD_some] at flag
      exact flag.symm
    · rintro (supplied | ⟨none, settled⟩)
      · exact absurd supplied complete
      · refine ⟨fun supplied => absurd supplied complete, ?_, ?_, ?_⟩
        · exact fun _ => toyDriverWrite_idle ⟨none, settled⟩
        · intro _ index _
          rw [toyDriverWrite, copyFromUser_none none]
        · intro _
          have nothing : ((toyDriverWrite write before).returned : Int) = 0 := by
            rw [toyDriverWrite, none]
            rfl
          omega

/-- A sequence acts on its own bytes exactly if every call supplies bytes that can
all be copied, or none while the buffer's old byte commands nothing new. -/
theorem actsOnOwnBytes_iff (start : Device) (events : List Event) :
    (∀ transition ∈ path step start events, ActsOnOwnBytes transition) ↔
      ∀ transition ∈ path step start events, WellSupplied transition := by
  refine @path_forall_iff _ _ step (fun _ => True) _ _ start events trivial ?_
    (fun _ _ _ _ _ _ => trivial)
  intro before event after _ stepped
  cases event with
  | thread flag =>
      have noWrite : ∀ write, Event.thread flag ≠ .write write := by
        intro write same
        cases same
      exact ⟨fun _ write same => absurd same (noWrite write),
        fun _ write same => absurd same (noWrite write)⟩
  | write write =>
      cases Option.some.inj stepped
      have call := ownBytes_iff write before
      constructor
      · rintro acts write same
        cases same
        exact call.mp (acts _ rfl)
      · rintro supplied write same
        cases same
        exact call.mpr (supplied _ rfl)

/-- After `toy_module_init`. -/
def toyModuleInit : Device where
  waitQueueFlag := .wait
  kernelWriteBuffer := ⟨List.replicate bufSize 0, List.length_replicate⟩
  returned := 0

def writeNext : Write := ⟨1, [2], by decide⟩
def writeNothing : Write := ⟨0, [], by decide⟩

/-- A write of no bytes commands once more what the last one commanded. -/
theorem not_actsOnOwnBytes_nothing :
    ¬ ∀ events, ∀ transition ∈ path step toyModuleInit events, ActsOnOwnBytes transition := by
  intro all
  have acts := all [.write writeNext, .thread .wait, .write writeNothing]
  rw [path_cons rfl, path_cons rfl, path_cons rfl] at acts
  simp only [List.forall_mem_cons] at acts
  obtain ⟨_, _, last, _⟩ := acts
  have flag := (last writeNothing rfl).flag (by decide)
  cases flag

/-- What an event does to the flag when calls act on their own bytes. -/
def flagAfter (flag : WaitQueueFlag) : Event → WaitQueueFlag
  | .write write => (write.readable.head?.bind commanded).getD flag
  | .thread flag => flag

/-- Then the flag is the same whatever the buffer held. -/
theorem run_flag {start final : Device} {events : List Event}
    (supplied : ∀ transition ∈ path step start events, WellSupplied transition)
    (ran : run step start events = some final) :
    final.waitQueueFlag = events.foldl flagAfter start.waitQueueFlag := by
  refine @run_simulates _ _ step _ (fun flag device => device.waitQueueFlag = flag) _ _ ?_
    _ _ _ _ rfl ran supplied
  intro flag before event after same supplied stepped
  cases event with
  | thread flag =>
      cases Option.some.inj stepped
      rfl
  | write write =>
      cases Option.some.inj stepped
      rcases supplied write rfl with complete | idle
      · have first := copyFromUser_complete complete before.kernelWriteBuffer
        rw [flagAfter, Option.mem_def.mp first, ← same]
        rfl
      · have bound := write.bound
        have none := idle.1
        have empty : write.readable = [] := List.eq_nil_of_length_eq_zero (by omega)
        rw [flagAfter, empty, ← same]
        exact toyDriverWrite_idle idle

end ToySystem.Drivers.SimpleIoWrite
