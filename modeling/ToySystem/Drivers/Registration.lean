import ToySystem.Data.Ledger
import ToySystem.Drivers.Click
import ToySystem.Drivers.Engine
import ToySystem.Drivers.SimpleIo
import ToySystem.Kernel.ErrPtr

namespace ToySystem.Drivers.Registration

open ToySystem.Data ToySystem.Kernel

/-! # The init functions of the GPIO drivers

`toy_module_init` of `drivers/engine/engine.c` and `drivers/simple_io/simple_io.c`
and `toy_driver_init` of `drivers/state_machine/state_machine.c`: what they
register, and what their ladders of labels give back.
-/

inductive Resource where
  | chrdevRegion
  | toyClass
  | device
  | cdev
  | gpio (pin : Nat)
  | irq
deriving DecidableEq, Repr

/-- What the kernel answers, one result for each call.  On failure
`class_create` and `device_create` return an error pointer. -/
structure Answers where
  allocChrdevRegion : Int32
  classCreate : ErrPtr
  deviceCreate : ErrPtr
  cdevAdd : Int32
  gpioRequest : Nat → Int32
  gpioDirectionOutput : Nat → Int32
  gpioDirectionInput : Int32
  requestIrq : Int32
  classNotNull : classCreate ≠ .null
  deviceNotNull : deviceCreate ≠ .null

def Answers.granted (kernel : Answers) : Resource → Bool
  | .chrdevRegion => kernel.allocChrdevRegion = 0
  | .toyClass => kernel.classCreate = .valid
  | .device => kernel.deviceCreate = .valid
  | .cdev => kernel.cdevAdd = 0
  | .gpio pin => kernel.gpioRequest pin = 0
  | .irq => kernel.requestIrq = 0

structure Pins where
  outputs : List Nat
  input : Nat

/-- The result of an init function, and what it acquired and released. -/
structure Outcome where
  result : Int32
  log : List (Operation Resource)

/-- A `return`: `attempted` are the resources asked for so far, `ladder` those
that are given back on the way. -/
def leave (kernel : Answers) (result : Int32) (attempted ladder : List Resource) : Outcome where
  result := result
  log := (attempted.filter kernel.granted).map .acquire ++ ladder.map .delete

section

variable (kernel : Answers) (pins : Pins)

/-- Its result is not looked at. -/
def registerGpioOutput (gpioNum : Nat) : Int32 × List Resource :=
  if kernel.gpioRequest gpioNum ≠ 0 then (-1, [.gpio gpioNum])
  else if kernel.gpioDirectionOutput gpioNum ≠ 0 then (-1, [.gpio gpioNum])
  else (0, [.gpio gpioNum])

def deviceCalls : List Resource := [.chrdevRegion, .toyClass, .device, .cdev]

def outputCalls : List Resource :=
  pins.outputs.flatMap fun pin => (registerGpioOutput kernel pin).2

def gpioCalls : List Resource := deviceCalls ++ outputCalls kernel pins ++ [.gpio pins.input]

/-! The labels, each with what follows it. -/

def cerror : List Resource := [.chrdevRegion]
def deviceError : List Resource := .toyClass :: cerror
def regError : List Resource := .device :: deviceError
def gpioError : List Resource := .gpio pins.input :: pins.outputs.map .gpio ++ regError

/-- The three functions up to `gpio_direction_input`; `rest` is what follows. -/
def register (rest : Outcome) : Outcome :=
  if kernel.allocChrdevRegion < 0 then leave kernel (-1) [.chrdevRegion] []
  else if kernel.classCreate = .null then leave kernel (-1) [.chrdevRegion, .toyClass] cerror
  else if kernel.deviceCreate = .null then
    leave kernel (-1) [.chrdevRegion, .toyClass, .device] deviceError
  else if kernel.cdevAdd = -1 then leave kernel (-1) deviceCalls regError
  else if kernel.gpioRequest pins.input ≠ 0 then
    leave kernel (-1) (gpioCalls kernel pins) (gpioError pins)
  else if kernel.gpioDirectionInput ≠ 0 then
    leave kernel (-1) (gpioCalls kernel pins) (gpioError pins)
  else rest

end

namespace Engine

open Drivers.Engine

def pins : Pins where
  outputs := [toyGpioOutputLeft1, toyGpioOutputLeft2, toyGpioOutputLeft3, toyGpioOutputLeft4,
    toyGpioOutputRight1, toyGpioOutputRight2, toyGpioOutputRight3, toyGpioOutputRight4]
  input := 16

def toyModuleInit (kernel : Answers) : Outcome :=
  register kernel pins
    (if kernel.requestIrq ≠ 0 then
      leave kernel (-1) (gpioCalls kernel pins ++ [.irq]) (gpioError pins)
    else leave kernel 0 (gpioCalls kernel pins ++ [.irq]) [])

end Engine

namespace SimpleIo

def pins : Pins where
  outputs := Drivers.SimpleIo.leftPins ++ Drivers.SimpleIo.rightPins
  input := 16

def toyModuleInit (kernel : Answers) : Outcome :=
  register kernel pins (leave kernel 0 (gpioCalls kernel pins) [])

end SimpleIo

namespace StateMachine

def pins : Pins where
  outputs := Click.ledArrayMap
  input := 16

/-- A failure of `request_irq` is returned past the labels. -/
def toyDriverInit (kernel : Answers) : Outcome :=
  register kernel pins
    (if kernel.requestIrq ≠ 0 then
      leave kernel kernel.requestIrq (gpioCalls kernel pins ++ [.irq]) []
    else leave kernel 0 (gpioCalls kernel pins ++ [.irq]) [])

end StateMachine

inductive Driver where
  | engine
  | simpleIo
  | stateMachine
deriving DecidableEq, Repr

namespace Driver

def pins : Driver → Pins
  | .engine => Engine.pins
  | .simpleIo => SimpleIo.pins
  | .stateMachine => StateMachine.pins

def init : Driver → Answers → Outcome
  | .engine => Engine.toyModuleInit
  | .simpleIo => SimpleIo.toyModuleInit
  | .stateMachine => StateMachine.toyDriverInit

/-- What a loaded driver needs. -/
def needed (driver : Driver) : List Resource :=
  deviceCalls ++ driver.pins.outputs.map .gpio ++ [.gpio driver.pins.input] ++
    if driver = .simpleIo then [] else [.irq]

end Driver

/-- Nothing is released that is not held; a loaded driver holds all it needs, and
a failed one nothing. -/
def AllOrNothing (needed : List Resource) (outcome : Outcome) : Prop :=
  ∃ holding, balance outcome.log = some holding ∧
    (outcome.result = 0 → ∀ resource ∈ needed, resource ∈ holding) ∧
    (outcome.result ≠ 0 → holding = [])

/-- The ends that the ladders do mirror with all pins held: from `gpio_error` on
the `cdev` is forgotten, so that it must not have been added. -/
def Driver.mirrored (kernel : Answers) : Driver → Prop
  | .engine => kernel.cdevAdd = 0 ↔ kernel.gpioDirectionInput = 0 ∧ kernel.requestIrq = 0
  | .simpleIo => kernel.cdevAdd = 0 ↔ kernel.gpioDirectionInput = 0
  | .stateMachine =>
      (kernel.cdevAdd = 0 ↔ kernel.gpioDirectionInput = 0) ∧
        (kernel.gpioDirectionInput = 0 → kernel.requestIrq = 0)

def Mirrored (driver : Driver) (kernel : Answers) : Prop :=
  kernel.allocChrdevRegion < 0 ∨
    kernel.allocChrdevRegion = 0 ∧ kernel.classCreate = .valid ∧ kernel.deviceCreate = .valid ∧
      (kernel.cdevAdd = -1 ∨
        (∀ pin ∈ driver.pins.input :: driver.pins.outputs, kernel.gpioRequest pin = 0) ∧
          driver.mirrored kernel)

section

variable {kernel : Answers} {pins : Pins} {needed attempted ladder : List Resource}

theorem leave_failed {result : Int32} (failed : result ≠ 0) :
    AllOrNothing needed (leave kernel result attempted ladder) ↔
      (attempted.filter kernel.granted).Perm ladder := by
  constructor
  · rintro ⟨holding, balanced, _, nothing⟩
    rw [nothing failed] at balanced
    exact balance_ladder.mp balanced
  · intro mirrored
    exact ⟨[], balance_ladder.mpr mirrored, fun loaded => absurd loaded failed, fun _ => rfl⟩

theorem leave_loaded : AllOrNothing needed (leave kernel 0 attempted []) ↔
    ∀ resource ∈ needed, resource ∈ attempted ∧ kernel.granted resource = true := by
  have balanced : balance (leave kernel 0 attempted []).log =
      some (attempted.filter kernel.granted).reverse := by
    rw [leave, List.map_nil, List.append_nil, balance_acquire]
  have held : ∀ resource, resource ∈ (attempted.filter kernel.granted).reverse ↔
      resource ∈ attempted ∧ kernel.granted resource = true := by simp
  constructor
  · rintro ⟨holding, isHolding, loaded, _⟩ resource isNeeded
    cases balanced.symm.trans isHolding
    exact (held resource).mp (loaded rfl resource isNeeded)
  · intro granted
    exact ⟨_, balanced, fun _ resource isNeeded => (held resource).mpr (granted resource isNeeded),
      fun failed => absurd rfl failed⟩

theorem outputCalls_eq : outputCalls kernel pins = pins.outputs.map .gpio := by
  have single : ∀ pin, (registerGpioOutput kernel pin).2 = [.gpio pin] := by
    intro pin
    unfold registerGpioOutput
    split
    · rfl
    · split <;> rfl
  simp only [outputCalls, single, List.map_eq_flatMap]

/-- The device is registered. -/
def Answers.hasDevice (kernel : Answers) : Prop :=
  kernel.allocChrdevRegion = 0 ∧ kernel.classCreate = .valid ∧ kernel.deviceCreate = .valid

def Answers.hasPins (kernel : Answers) (pins : Pins) : Prop :=
  ∀ pin ∈ pins.input :: pins.outputs, kernel.gpioRequest pin = 0

theorem granted_regError : (∀ resource ∈ regError, kernel.granted resource = true) ↔
    kernel.hasDevice := by
  simp only [regError, deviceError, cerror, List.forall_mem_cons, List.not_mem_nil,
    IsEmpty.forall_iff, implies_true, and_true, Answers.granted, decide_eq_true_eq]
  constructor
  · rintro ⟨device, toyClass, region⟩
    exact ⟨region, toyClass, device⟩
  · rintro ⟨region, toyClass, device⟩
    exact ⟨device, toyClass, region⟩

theorem granted_pins : (∀ resource ∈ (pins.input :: pins.outputs).map .gpio,
    kernel.granted resource = true) ↔ kernel.hasPins pins := by
  rw [List.forall_mem_map]
  simp only [Answers.granted, decide_eq_true_eq, Answers.hasPins]

theorem granted_cdev : kernel.granted .cdev = false ↔ kernel.cdevAdd ≠ 0 := by
  simp [Answers.granted]

theorem regError_mirrors : (deviceCalls.filter kernel.granted).Perm regError ↔
    kernel.hasDevice ∧ kernel.cdevAdd ≠ 0 := by
  have parts : deviceCalls.Perm (regError ++ [.cdev]) := by decide
  rw [filter_perm_iff parts, granted_regError, List.forall_mem_singleton, granted_cdev]

theorem gpioError_mirrors (kernel : Answers) (pins : Pins) (more : List Resource) :
    ((gpioCalls kernel pins ++ more).filter kernel.granted).Perm (gpioError pins) ↔
      kernel.hasDevice ∧ kernel.hasPins pins ∧ kernel.cdevAdd ≠ 0 ∧
        ∀ resource ∈ more, kernel.granted resource = false := by
  have parts : (gpioCalls kernel pins ++ more).Perm (gpioError pins ++ .cdev :: more) := by
    rw [List.perm_iff_count]
    intro resource
    simp only [gpioCalls, outputCalls_eq, gpioError, regError, deviceError, cerror, deviceCalls,
      List.count_append, List.count_cons, List.count_nil]
    omega
  have given : gpioError pins = (pins.input :: pins.outputs).map .gpio ++ regError := rfl
  rw [filter_perm_iff parts, List.forall_mem_cons, granted_cdev, given, List.forall_mem_append,
    granted_pins, granted_regError]
  constructor
  · rintro ⟨⟨hasPins, hasDevice⟩, rest⟩
    exact ⟨hasDevice, hasPins, rest⟩
  · rintro ⟨hasDevice, hasPins, rest⟩
    exact ⟨⟨hasPins, hasDevice⟩, rest⟩

theorem granted_needed (more : List Resource) :
    (∀ resource ∈ deviceCalls ++ pins.outputs.map .gpio ++ [.gpio pins.input] ++ more,
      kernel.granted resource = true) ↔
      kernel.hasDevice ∧ kernel.cdevAdd = 0 ∧ kernel.hasPins pins ∧
        ∀ resource ∈ more, kernel.granted resource = true := by
  have parts : List.Perm (deviceCalls ++ pins.outputs.map .gpio ++ [.gpio pins.input])
      (regError ++ .cdev :: (pins.input :: pins.outputs).map .gpio) := by
    rw [List.perm_iff_count]
    intro resource
    simp only [regError, deviceError, cerror, deviceCalls, List.map_cons, List.count_append,
      List.count_cons, List.count_nil]
    omega
  have cdev : kernel.granted .cdev = true ↔ kernel.cdevAdd = 0 := decide_eq_true_iff
  rw [List.forall_mem_append]
  simp only [parts.mem_iff]
  rw [List.forall_mem_append, List.forall_mem_cons, granted_regError, granted_pins, cdev,
    and_assoc, and_assoc]

/-- What the three functions have in common. -/
theorem register_iff {rest : Outcome} : AllOrNothing needed (register kernel pins rest) ↔
    kernel.allocChrdevRegion < 0 ∨
      ¬ kernel.allocChrdevRegion < 0 ∧
        (kernel.cdevAdd = -1 ∧ kernel.hasDevice ∨
          kernel.cdevAdd ≠ -1 ∧ kernel.gpioRequest pins.input = 0 ∧
            (kernel.gpioDirectionInput ≠ 0 ∧ kernel.hasDevice ∧ kernel.hasPins pins ∧
                kernel.cdevAdd ≠ 0 ∨
              kernel.gpioDirectionInput = 0 ∧ AllOrNothing needed rest)) := by
  have ended : ∀ attempted ladder, AllOrNothing needed (leave kernel (-1) attempted ladder) ↔
      (attempted.filter kernel.granted).Perm ladder := fun _ _ => leave_failed (by decide)
  have unnoticed := gpioError_mirrors kernel pins []
  rw [List.append_nil] at unnoticed
  unfold register
  rw [if_neg kernel.classNotNull, if_neg kernel.deviceNotNull]
  by_cases noRegion : kernel.allocChrdevRegion < 0
  · have refused : kernel.granted .chrdevRegion = false := by
      have nonzero := Int32.ne_of_lt noRegion
      simp [Answers.granted, nonzero]
    simp [noRegion, ended, refused]
  · simp only [noRegion, if_false, not_false_eq_true, true_and, false_or]
    by_cases notAdded : kernel.cdevAdd = -1
    · simp [notAdded, ended, regError_mirrors]
    · by_cases noInput : kernel.gpioRequest pins.input = 0
      · by_cases noDirection : kernel.gpioDirectionInput = 0
        · simp [notAdded, noInput, noDirection]
        · simp [notAdded, noInput, noDirection, ended, unnoticed]
      · have noPins : ¬ kernel.hasPins pins := fun all => noInput (all _ List.mem_cons_self)
        simp [notAdded, noInput, ended, unnoticed, noPins]

/-- An end past the labels. -/
theorem register_iff_tail {rest : Outcome} (tail : Prop)
    (mirrors : kernel.gpioRequest pins.input = 0 →
      (AllOrNothing needed rest ↔ kernel.hasDevice ∧ kernel.hasPins pins ∧ tail)) :
    AllOrNothing needed (register kernel pins rest) ↔
      kernel.allocChrdevRegion < 0 ∨
        kernel.hasDevice ∧ (kernel.cdevAdd = -1 ∨
          kernel.hasPins pins ∧
            (kernel.gpioDirectionInput ≠ 0 ∧ kernel.cdevAdd ≠ 0 ∨
              kernel.gpioDirectionInput = 0 ∧ tail)) := by
  have region : kernel.hasDevice → ¬ kernel.allocChrdevRegion < 0 := by
    intro hasDevice
    rw [hasDevice.1]
    decide
  rw [register_iff]
  by_cases input : kernel.gpioRequest pins.input = 0
  · rw [mirrors input]
    by_cases hasDevice : kernel.hasDevice
    · by_cases hasPins : kernel.hasPins pins
      · by_cases added : kernel.cdevAdd = -1
        · simp [region hasDevice, hasDevice, added]
        · simp [region hasDevice, hasDevice, hasPins, input, added]
      · simp [region hasDevice, hasDevice, hasPins]
    · simp [hasDevice]
  · have noPins : ¬ kernel.hasPins pins := fun all => input (all _ List.mem_cons_self)
    by_cases hasDevice : kernel.hasDevice
    · simp [region hasDevice, hasDevice, noPins, input]
    · simp [hasDevice, input]

theorem loaded_mirrors (kernel : Answers) (pins : Pins) (more : List Resource) :
    AllOrNothing (deviceCalls ++ pins.outputs.map .gpio ++ [.gpio pins.input] ++ more)
        (leave kernel 0 (gpioCalls kernel pins ++ more) []) ↔
      kernel.hasDevice ∧ kernel.hasPins pins ∧ kernel.cdevAdd = 0 ∧
        ∀ resource ∈ more, kernel.granted resource = true := by
  have attempts : gpioCalls kernel pins ++ more =
      deviceCalls ++ pins.outputs.map .gpio ++ [.gpio pins.input] ++ more := by
    rw [gpioCalls, outputCalls_eq]
  rw [leave_loaded, ← attempts]
  have asked : (∀ resource ∈ gpioCalls kernel pins ++ more,
      resource ∈ gpioCalls kernel pins ++ more ∧ kernel.granted resource = true) ↔
        ∀ resource ∈ gpioCalls kernel pins ++ more, kernel.granted resource = true :=
    forall₂_congr fun _ attempted => and_iff_right attempted
  rw [asked, attempts, granted_needed]
  tauto

theorem mirrored_iff {tail : Prop} (driver : Driver)
    (fails : kernel.gpioDirectionInput ≠ 0 → (kernel.cdevAdd ≠ 0 ↔ driver.mirrored kernel))
    (works : kernel.gpioDirectionInput = 0 → (tail ↔ driver.mirrored kernel)) :
    (kernel.allocChrdevRegion < 0 ∨
      kernel.hasDevice ∧ (kernel.cdevAdd = -1 ∨ kernel.hasPins driver.pins ∧
        (kernel.gpioDirectionInput ≠ 0 ∧ kernel.cdevAdd ≠ 0 ∨
          kernel.gpioDirectionInput = 0 ∧ tail))) ↔ Mirrored driver kernel := by
  have ends : (kernel.gpioDirectionInput ≠ 0 ∧ kernel.cdevAdd ≠ 0 ∨
      kernel.gpioDirectionInput = 0 ∧ tail) ↔ driver.mirrored kernel := by
    by_cases direction : kernel.gpioDirectionInput = 0
    · simp [direction, works direction]
    · simp [direction, fails direction]
  rw [ends, Answers.hasDevice, and_assoc, and_assoc]
  exact Iff.rfl

theorem irq_granted :
    (∀ resource ∈ [Resource.irq], kernel.granted resource = true) ↔ kernel.requestIrq = 0 := by
  simp [Answers.granted]

theorem irq_refused :
    (∀ resource ∈ [Resource.irq], kernel.granted resource = false) ↔ kernel.requestIrq ≠ 0 := by
  simp [Answers.granted]

theorem engine_iff :
    AllOrNothing Driver.engine.needed (Driver.engine.init kernel) ↔ Mirrored .engine kernel := by
  refine (register_iff_tail (kernel.cdevAdd = 0 ↔ kernel.requestIrq = 0) ?_).trans
    (mirrored_iff .engine ?_ ?_)
  · intro _
    by_cases irq : kernel.requestIrq = 0
    · rw [if_neg (not_not.mpr irq)]
      refine (loaded_mirrors kernel Engine.pins [.irq]).trans ?_
      rw [irq_granted]
      simp [irq]
    · rw [if_pos irq, leave_failed (by decide), gpioError_mirrors, irq_refused]
      simp [irq]
  · intro fails
    simp [Driver.mirrored, fails]
  · intro works
    simp [Driver.mirrored, works]

theorem simpleIo_iff :
    AllOrNothing Driver.simpleIo.needed (Driver.simpleIo.init kernel) ↔
      Mirrored .simpleIo kernel := by
  refine (register_iff_tail (kernel.cdevAdd = 0) ?_).trans (mirrored_iff .simpleIo ?_ ?_)
  · intro _
    have loaded := loaded_mirrors kernel SimpleIo.pins []
    rw [List.append_nil (gpioCalls kernel SimpleIo.pins)] at loaded
    refine loaded.trans ?_
    simp
  · intro fails
    simp [Driver.mirrored, fails]
  · intro works
    simp [Driver.mirrored, works]

theorem stateMachine_iff :
    AllOrNothing Driver.stateMachine.needed (Driver.stateMachine.init kernel) ↔
      Mirrored .stateMachine kernel := by
  refine (register_iff_tail (kernel.cdevAdd = 0 ∧ kernel.requestIrq = 0) ?_).trans
    (mirrored_iff .stateMachine ?_ ?_)
  · intro input
    by_cases irq : kernel.requestIrq = 0
    · rw [if_neg (not_not.mpr irq)]
      refine (loaded_mirrors kernel StateMachine.pins [.irq]).trans ?_
      rw [irq_granted]
    · -- The input pin is held by now, and nothing is given back.
      rw [if_pos irq, leave_failed irq, List.perm_nil, List.filter_eq_nil_iff]
      have held : kernel.granted (.gpio StateMachine.pins.input) = true := by
        simp [Answers.granted, input]
      have forgotten : ¬ ∀ resource ∈ gpioCalls kernel StateMachine.pins ++ [.irq],
          ¬ kernel.granted resource = true := by
        intro none
        exact none _ (by simp [gpioCalls]) held
      have refused : ¬ (kernel.hasDevice ∧ kernel.hasPins StateMachine.pins ∧
          kernel.cdevAdd = 0 ∧ kernel.requestIrq = 0) := fun given => irq given.2.2.2
      exact iff_of_false forgotten refused
  · intro fails
    simp [Driver.mirrored, fails]
  · intro works
    simp [Driver.mirrored, works]

end

/-- The three drivers are registered all or nothing at the mirrored ends and at no
other. -/
theorem init_allOrNothing_iff (driver : Driver) (kernel : Answers) :
    AllOrNothing driver.needed (driver.init kernel) ↔ Mirrored driver kernel := by
  cases driver with
  | engine => exact engine_iff
  | simpleIo => exact simpleIo_iff
  | stateMachine => exact stateMachine_iff

/-- An input pin that cannot be had: the `cdev` stays, and the pin is freed. -/
def inputPinTaken : Answers where
  allocChrdevRegion := 0
  classCreate := .valid
  deviceCreate := .valid
  cdevAdd := 0
  gpioRequest pin := if pin = 16 then -16 else 0
  gpioDirectionOutput _ := 0
  gpioDirectionInput := 0
  requestIrq := 0
  classNotNull := ErrPtr.noConfusion
  deviceNotNull := ErrPtr.noConfusion

theorem not_allOrNothing_inputPinTaken :
    ¬ ∀ (driver : Driver) (kernel : Answers), AllOrNothing driver.needed (driver.init kernel) := by
  intro all
  obtain ⟨holding, balanced, _⟩ := all .engine inputPinTaken
  have stuck : balance (Driver.engine.init inputPinTaken).log = none := by decide
  rw [stuck] at balanced
  cases balanced

end ToySystem.Drivers.Registration
