import ToySystem.Server.MotorControl

namespace ToySystem.Server.MotorControl

open ToySystem.Data ToySystem.Drivers ToySystem.Drivers.Engine ToySystem.Kernel ToySystem.Libc
  ToySystem.Machine ToySystem.Ui

/-! # The period of a motor's timer

The callback computes its period from the speed that the last command left in
the driver.  The web path passes any unsigned number on as an `int`, the shell
cuts speeds above 100 only, and a speed of 100 already makes the period zero.
-/

def FitsInt (value : Int) : Prop := Int32.minValue.toInt ≤ value ∧ value ≤ Int32.maxValue.toInt

/-- The two intermediate results of the callback do not overflow, and the
period is positive and at most the maximum. -/
def TimeoutSane (speed : Int32) : Prop :=
  FitsInt (100 - speed.toInt) ∧ FitsInt (maxTimeoutMsec.toInt * (100 - speed.toInt)) ∧
    0 < motorTimeout speed ∧ motorTimeout speed ≤ maxTimeoutMsec

theorem bmod_of_fitsInt {value : Int} (fits : FitsInt value) : value.bmod Int32.size = value := by
  obtain ⟨low, high⟩ := fits
  have low' : -2147483648 ≤ value := low
  have high' : value ≤ 2147483647 := high
  have size : Int32.size = 4294967296 := rfl
  rw [size]
  exact Int.bmod_eq_of_le (by omega) (by omega)

theorem motorTimeout_toInt {speed : Int32} (difference : FitsInt (100 - speed.toInt))
    (product : FitsInt (maxTimeoutMsec.toInt * (100 - speed.toInt))) :
    (motorTimeout speed).toInt = 20 * (100 - speed.toInt) := by
  have hundred : (100 : Int32).toInt = 100 := rfl
  have maximum : maxTimeoutMsec.toInt = 2000 := rfl
  have notMinusOne : (100 : Int32) ≠ -1 := by decide
  have exactDifference : (100 - speed).toInt = 100 - speed.toInt :=
    (Int32.toInt_sub 100 speed).trans (bmod_of_fitsInt difference)
  have exactProduct : (maxTimeoutMsec * (100 - speed)).toInt =
      maxTimeoutMsec.toInt * (100 - speed.toInt) := by
    rw [← exactDifference] at product ⊢
    exact (Int32.toInt_mul maxTimeoutMsec (100 - speed)).trans (bmod_of_fitsInt product)
  calc (motorTimeout speed).toInt
      = (maxTimeoutMsec.toInt * (100 - speed.toInt)).tdiv 100 := by
        rw [motorTimeout, Int32.toInt_div_of_ne_right _ _ notMinusOne, exactProduct, hundred]
    _ = (100 * (20 * (100 - speed.toInt))).tdiv 100 := by
        rw [maximum]
        congr 1
        omega
    _ = 20 * (100 - speed.toInt) := Int.mul_tdiv_cancel_left _ (by decide)

theorem timeoutSane_iff (speed : Int32) :
    TimeoutSane speed ↔ 0 ≤ speed.toInt ∧ speed.toInt ≤ 99 := by
  have zero : (0 : Int32).toInt = 0 := rfl
  have maximum : maxTimeoutMsec.toInt = 2000 := rfl
  have least : Int32.minValue.toInt = -2147483648 := rfl
  have greatest : Int32.maxValue.toInt = 2147483647 := rfl
  unfold TimeoutSane
  constructor
  · intro ⟨difference, product, positive, bounded⟩
    have period := motorTimeout_toInt difference product
    rw [Int32.lt_iff_toInt_lt, period, zero] at positive
    rw [Int32.le_iff_toInt_le, period, maximum] at bounded
    omega
  · intro ⟨low, high⟩
    have difference : FitsInt (100 - speed.toInt) := by
      rw [FitsInt]
      omega
    have product : FitsInt (maxTimeoutMsec.toInt * (100 - speed.toInt)) := by
      rw [maximum, FitsInt]
      omega
    have period := motorTimeout_toInt difference product
    refine ⟨difference, product, ?_, ?_⟩
    · rw [Int32.lt_iff_toInt_lt, period, zero]
      omega
    · rw [Int32.le_iff_toInt_le, period, maximum]
      omega

def speedGiven : Event → Option (Motor × Int32)
  | .message _ msg =>
      match msg.addressee with
      | none => none
      | some motor => if msg.speed = 0 then none else some (motor, msg.speed.toInt32)
  | .shell _ motor args => args[1]?.map fun text => (motor, shellSpeed text)
  | .expiry _ _ | .emergencyStop => none

/-- The numbers that an event carries lie in the range the timer can bear. -/
def SpeedInRange : Event → Prop
  | .message _ msg => msg.addressee ≠ none → msg.speed.toNat ≤ 99
  | .shell _ _ args => ∀ text ∈ args[1]?, 0 ≤ (atoi text).toInt ∧ (atoi text).toInt ≤ 99
  | .expiry _ _ | .emergencyStop => True

theorem toInt32_range (value : UInt32) :
    0 ≤ value.toInt32.toInt ∧ value.toInt32.toInt ≤ 99 ↔ value.toNat ≤ 99 := by
  have below : value.toNat < 2 ^ 32 := value.toNat_lt
  have signed : value.toInt32.toInt = value.toBitVec.toInt := rfl
  have same : value.toBitVec.toNat = value.toNat := rfl
  rw [signed, BitVec.toInt_eq_toNat_cond, same]
  split <;> omega

theorem shellSpeed_range (text : List Char) :
    0 ≤ (shellSpeed text).toInt ∧ (shellSpeed text).toInt ≤ 99 ↔
      0 ≤ (atoi text).toInt ∧ (atoi text).toInt ≤ 99 := by
  have hundred : (100 : Int32).toInt = 100 := rfl
  unfold shellSpeed
  split
  · rename_i large
    have above : 100 < (atoi text).toInt := by
      rw [gt_iff_lt, Int32.lt_iff_toInt_lt, hundred] at large
      exact large
    rw [hundred]
    omega
  · exact Iff.rfl

theorem speedInRange_iff (event : Event) :
    SpeedInRange event ↔
      ∀ given ∈ speedGiven event, 0 ≤ given.2.toInt ∧ given.2.toInt ≤ 99 := by
  cases event with
  | message now msg =>
      cases addressed : msg.addressee with
      | none => simp [SpeedInRange, speedGiven, addressed]
      | some motor =>
          by_cases halt : msg.speed = 0
          · simp [SpeedInRange, speedGiven, addressed, halt]
          · simp [SpeedInRange, speedGiven, addressed, halt, toInt32_range]
  | expiry now motor => simp [SpeedInRange, speedGiven]
  | emergencyStop => simp [SpeedInRange, speedGiven]
  | shell now motor args =>
      cases given : args[1]? with
      | none => simp [SpeedInRange, speedGiven, given]
      | some text => simp [SpeedInRange, speedGiven, given, shellSpeed_range]

section

variable {system after : Motors EngineDriver} {event : Event}

theorem haltEffect_speed (now : Ktime) (target motor : Motor) (driver : EngineDriver) :
    (haltEffect (engineDevice now) target driver).speed motor = driver.speed motor := by
  obtain ⟨before, effect, same | halted⟩ := haltEffect_engineDevice driver
  · rw [effect, same, motorHalt_speed]
  · rw [effect, halted, motorHalt_speed, motorHalt_speed]

theorem motorStartSpeed_speed_other (now : Ktime) (value : Int32) (driver : EngineDriver)
    {target motor : Motor} (different : motor ≠ target) :
    (motorStartSpeed target now value driver).speed motor = driver.speed motor :=
  congrArg MotorVars.speed (motorStartSpeed_other now value driver different)

def speedAfter (event : Event) (motor : Motor) (speed : Int32) : Int32 :=
  match speedGiven event with
  | none => speed
  | some (target, given) => if motor = target then given else speed

theorem speedResponse_speeds (now : Ktime) (target motor : Motor) (value : Int32)
    (given : Option Int32) (driver : EngineDriver) :
    (speedResponse target now value given driver).speed motor =
      if motor = target then value else driver.speed motor := by
  by_cases this : motor = target
  · subst target
    rw [if_pos rfl]
    cases given with
    | none => exact motorStartSpeed_speed now value driver
    | some _ => exact driver.setSpeed_speed motor value
  · rw [if_neg this]
    cases given with
    | none => exact motorStartSpeed_speed_other now value driver this
    | some _ => exact congrArg MotorVars.speed (driver.setSpeed_other value this)

theorem step_speed (sound : Sound system) (stepped : step system event = some after)
    (motor : Motor) :
    after.world.speed motor = speedAfter event motor (system.world.speed motor) := by
  cases event with
  | message now msg =>
      cases addressed : msg.addressee with
      | none =>
          rw [unknown_message addressed stepped]
          simp [speedAfter, speedGiven, addressed]
      | some target =>
          obtain ⟨given, stands⟩ := sound.stands target
          by_cases halt : msg.speed = 0
          · obtain ⟨_, _, world⟩ := halt_message stands addressed halt stepped
            have unchanged : speedAfter (.message now msg) motor (system.world.speed motor) =
                system.world.speed motor := by
              simp [speedAfter, speedGiven, addressed, halt]
            rw [world, unchanged]
            cases given with
            | none => rfl
            | some _ => exact haltEffect_speed now target motor system.world
          · obtain ⟨_, _, world⟩ := speed_message stands addressed halt stepped
            rw [world, speedResponse_speeds]
            simp [speedAfter, speedGiven, addressed, halt]
  | expiry now target =>
      obtain ⟨driver, expired, rfl⟩ := Option.map_eq_some_iff.mp stepped
      exact (hrtimerExpiry_cases now system.world expired).2.2.2.2 motor
  | emergencyStop =>
      cases Option.some.inj stepped
      exact kGpioIrqSignalHandler_speed system.world
  | shell now target args =>
      cases Option.some.inj stepped
      rw [shell_world]
      cases present : args[1]? with
      | none => simp [speedAfter, speedGiven, present]
      | some text =>
          have started := speedResponse_speeds now target motor (shellSpeed text) none system.world
          simpa [speedAfter, speedGiven, present, speedResponse] using started

theorem step_sane (sound : Sound system) (stepped : step system event = some after)
    (sane : ∀ motor, TimeoutSane (system.world.speed motor)) :
    (∀ motor, TimeoutSane (after.world.speed motor)) ↔ SpeedInRange event := by
  rw [speedInRange_iff]
  constructor
  · intro saneAfter given isGiven
    have here := saneAfter given.1
    rw [step_speed sound stepped, speedAfter, isGiven, timeoutSane_iff] at here
    simpa using here
  · intro inRange motor
    rw [step_speed sound stepped, speedAfter]
    cases isGiven : speedGiven event with
    | none => exact sane motor
    | some given =>
        simp only
        split
        · exact (timeoutSane_iff given.2).mpr (inRange given isGiven)
        · exact sane motor

end

structure Paced (system : Motors EngineDriver) : Prop where
  sound : Sound system
  sane : ∀ motor, TimeoutSane (system.world.speed motor)

theorem Paced.boot (started : Motor → Ktime) : Paced (boot started) where
  sound := Sound.boot started
  sane _ := (timeoutSane_iff 1).mpr (by decide)

theorem timer_period_sane_iff (started : Motor → Ktime) (events : List Event) :
    (∀ system ∈ visited step (boot started) events, ∀ motor,
        TimeoutSane (system.world.speed motor)) ↔
      ∀ transition ∈ path step (boot started) events, SpeedInRange transition.event := by
  have initial := Paced.boot started
  rw [visited, List.forall_mem_cons, List.forall_mem_map, and_iff_right initial.sane]
  apply path_forall_iff initial
  · intro before event after paced stepped
    exact step_sane paced.sound stepped paced.sane
  · intro before event after paced stepped sane
    exact ⟨paced.sound.step stepped, sane⟩

/-- The top of the documented range: the period is zero. -/
theorem speed_hundred_stops_clock :
    ∃ system ∈ visited step (boot fun _ => 0) [.message 0 ⟨messageIdEngine, leftMotor, 100⟩],
      motorTimeout (system.world.speed .motor1) = 0 ∧
        ¬ TimeoutSane (system.world.speed .motor1) := by
  refine ⟨_, List.mem_cons_of_mem _ (List.mem_singleton.mpr rfl), by decide, ?_⟩
  intro sane
  exact absurd ((timeoutSane_iff _).mp sane).2 (by decide)

end ToySystem.Server.MotorControl
