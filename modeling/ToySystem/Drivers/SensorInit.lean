import ToySystem.Data.Ledger
import ToySystem.Kernel.ErrPtr

namespace ToySystem.Drivers.SensorInit

open ToySystem.Data ToySystem.Kernel

/-! # Loading and unloading the sensor driver

`k_module_init` and `k_module_exit` of `drivers/sensor/sensor.c`: what they
acquire and release, and through which client they talk to the sensor.
-/

/-- What `k_class` points to: it may hold the truth value of a comparison. -/
inductive ClassPtr where
  | ofComparison (isTrue : Bool)
  | created
deriving DecidableEq, Repr

inductive Resource where
  | chrdevRegion
  | kClass (pointer : ClassPtr)
  | device (parent : ClassPtr)
  | cdev
  | i2cAdapter
  | i2cClient (pointer : ErrPtr)
  | i2cDriver
  | kobjectMemory
  | kobject
  | hrtimer
  | workqueue
deriving DecidableEq, Repr

/-- What the kernel answers.  On failure `class_create`, `device_create` and
`i2c_new_client_device` return an error pointer, the others that return a
pointer null. -/
structure Answers where
  allocChrdevRegion : Int32
  classCreate : ErrPtr
  deviceCreate : ErrPtr
  cdevAdd : Int32
  i2cGetAdapter : Bool
  i2cNewClientDevice : ErrPtr
  i2cAddDriver : Int32
  kzalloc : Bool
  kobjectAdd : Int32
  createWorkqueue : Bool
  classNotNull : classCreate ≠ .null
  deviceNotNull : deviceCreate ≠ .null
  clientNotNull : i2cNewClientDevice ≠ .null

/-- The driver's variables, and what was done so far. -/
structure Loading where
  kClass : ClassPtr
  bmp280I2cClient : ErrPtr
  toyKobj : Bool
  log : List (Operation Resource)

def Loading.start : Loading where
  kClass := .ofComparison false
  bmp280I2cClient := .null
  toyKobj := false
  log := []

namespace Loading

def ask (driver : Loading) (given : Bool) (resource : Resource) : Loading :=
  { driver with log := driver.log ++ if given then [.acquire resource] else [] }

def release (driver : Loading) (resource : Resource) : Loading :=
  { driver with log := driver.log ++ [.delete resource] }

/-- A read or a write of a register. -/
def transfer (driver : Loading) : Loading :=
  { driver with log := driver.log ++ [.use (.i2cClient driver.bmp280I2cClient)] }

/-! The labels, each with what follows it. -/

def cerror (driver : Loading) : Int32 × Loading := (-1, driver.release .chrdevRegion)

def deviceError (driver : Loading) : Int32 × Loading :=
  (driver.release (.kClass driver.kClass)).cerror

def regError (driver : Loading) : Int32 × Loading :=
  (driver.release (.device driver.kClass)).deviceError

end Loading

section

variable (kernel : Answers)

/-- From the timer on nothing is looked at. -/
def startTimer (driver : Loading) : Int32 × Loading :=
  (0, (driver.ask true .hrtimer).ask kernel.createWorkqueue .workqueue)

def addKobject (driver : Loading) : Int32 × Loading :=
  if kernel.kzalloc then
    -- `kobject_init` gives out the reference that `kobject_put` takes back.
    let driver := { (driver.ask true .kobjectMemory).ask true .kobject with toyKobj := true }
    if kernel.kobjectAdd ≠ 0 then ({ driver.release .kobject with toyKobj := false }).regError
    else startTimer kernel driver
  else startTimer kernel driver

/-- The chip's id, its three calibration words, and its two control registers. -/
def configure (driver : Loading) : Int32 × Loading :=
  addKobject kernel driver.transfer.transfer.transfer.transfer.transfer.transfer

def connect (driver : Loading) : Int32 × Loading :=
  if kernel.i2cGetAdapter then
    let client := kernel.i2cNewClientDevice
    let driver := (driver.ask true .i2cAdapter).ask (client = .valid) (.i2cClient client)
    let driver := { driver with bmp280I2cClient := client }
    if client ≠ .null then
      let driver := driver.ask (kernel.i2cAddDriver = 0) .i2cDriver
      if kernel.i2cAddDriver ≠ 0 then driver.regError
      else configure kernel (driver.release .i2cAdapter)
    else configure kernel (driver.release .i2cAdapter)
  else configure kernel driver

def addDevice (driver : Loading) : Int32 × Loading :=
  let driver := driver.ask (kernel.deviceCreate = .valid) (.device driver.kClass)
  if kernel.deviceCreate = .null then driver.deviceError
  else
    let driver := driver.ask (kernel.cdevAdd = 0) .cdev
    if kernel.cdevAdd = -1 then driver.regError else connect kernel driver

/-- The comparison with `NULL` is made before the assignment to `k_class`. -/
def kModuleInit : Int32 × Loading :=
  let driver := Loading.start.ask (kernel.allocChrdevRegion = 0) .chrdevRegion
  if kernel.allocChrdevRegion < 0 then (-1, driver)
  else
    let isNull : Bool := kernel.classCreate = .null
    let driver := { driver.ask (kernel.classCreate = .valid) (.kClass .created) with
      kClass := .ofComparison isNull }
    if isNull then driver.cerror else addDevice kernel driver

end

def kModuleExit (driver : Loading) : List (Operation Resource) :=
  [.delete .workqueue, .delete .hrtimer] ++
    (if driver.toyKobj then [.delete .kobject, .delete .kobjectMemory] else []) ++
    [.delete (.i2cClient driver.bmp280I2cClient), .delete .i2cDriver, .delete .cdev,
      .delete (.device driver.kClass), .delete (.kClass driver.kClass), .delete .chrdevRegion]

/-- What a loaded driver needs. -/
def needed : List Resource :=
  [.chrdevRegion, .kClass .created, .device .created, .cdev, .i2cClient .valid, .i2cDriver,
    .kobjectMemory, .kobject, .hrtimer, .workqueue]

/-- Nothing is used or released that is not held; a loaded driver holds all it needs
and gives all of it back, and a failed one holds nothing. -/
def AllOrNothing (outcome : Int32 × Loading) : Prop :=
  ∃ holding, balance outcome.2.log = some holding ∧
    (outcome.1 = 0 → outcome.2.kClass = .created ∧ (∀ resource ∈ needed, resource ∈ holding) ∧
      run ledgerStep holding (kModuleExit outcome.2) = some []) ∧
    (outcome.1 ≠ 0 → holding = [])

/-- The variable holds no class, and no such class is ever acquired. -/
structure Lost (driver : Loading) : Prop where
  notCreated : driver.kClass = .ofComparison false
  neverAcquired : .acquire (.kClass (.ofComparison false)) ∉ driver.log

/-- An end without a class; on an error it is destroyed all the same. -/
def EndsLost (outcome : Int32 × Loading) : Prop :=
  Lost outcome.2 ∧
    (outcome.1 ≠ 0 → .delete (.kClass (.ofComparison false)) ∈ outcome.2.log)

section

variable {kernel : Answers} {driver : Loading}

theorem Lost.ask (lost : Lost driver) (given : Bool) {resource : Resource}
    (other : resource ≠ .kClass (.ofComparison false)) : Lost (driver.ask given resource) where
  notCreated := lost.notCreated
  neverAcquired := by
    cases given with
    | false => simpa [Loading.ask] using lost.neverAcquired
    | true => simpa [Loading.ask, lost.neverAcquired] using other.symm

theorem Lost.release (lost : Lost driver) (resource : Resource) :
    Lost (driver.release resource) where
  notCreated := lost.notCreated
  neverAcquired := by simpa [Loading.release] using lost.neverAcquired

theorem Lost.transfer (lost : Lost driver) : Lost driver.transfer where
  notCreated := lost.notCreated
  neverAcquired := by simpa [Loading.transfer] using lost.neverAcquired

theorem Lost.regError (lost : Lost driver) : EndsLost driver.regError := by
  have destroyed := ((lost.release (.device driver.kClass)).release (.kClass driver.kClass)).release
    .chrdevRegion
  refine ⟨destroyed, fun _ => ?_⟩
  simp [Loading.regError, Loading.deviceError, Loading.cerror, Loading.release, lost.notCreated]

theorem Lost.startTimer (lost : Lost driver) : EndsLost (startTimer kernel driver) :=
  ⟨(lost.ask true (by decide)).ask kernel.createWorkqueue (by decide),
    fun failed => absurd rfl failed⟩

theorem Lost.addKobject (lost : Lost driver) : EndsLost (addKobject kernel driver) := by
  have added : Lost ((driver.ask true .kobjectMemory).ask true .kobject) :=
    (lost.ask true (by decide)).ask true (by decide)
  unfold SensorInit.addKobject
  split
  · split
    · exact Lost.regError ⟨added.notCreated, (added.release .kobject).neverAcquired⟩
    · exact Lost.startTimer ⟨added.notCreated, added.neverAcquired⟩
  · exact lost.startTimer

theorem Lost.configure (lost : Lost driver) : EndsLost (configure kernel driver) :=
  lost.transfer.transfer.transfer.transfer.transfer.transfer.addKobject

theorem Lost.connect (lost : Lost driver) : EndsLost (connect kernel driver) := by
  have asked : Lost ((driver.ask true .i2cAdapter).ask (kernel.i2cNewClientDevice = .valid)
      (.i2cClient kernel.i2cNewClientDevice)) :=
    (lost.ask true (by decide)).ask _ (by simp)
  have connected : Lost { (driver.ask true .i2cAdapter).ask (kernel.i2cNewClientDevice = .valid)
      (.i2cClient kernel.i2cNewClientDevice) with
        bmp280I2cClient := kernel.i2cNewClientDevice } :=
    ⟨asked.notCreated, asked.neverAcquired⟩
  unfold SensorInit.connect
  dsimp only
  rw [if_pos kernel.clientNotNull]
  split
  · have added := connected.ask (kernel.i2cAddDriver = 0)
      (Resource.noConfusion : Resource.i2cDriver ≠ .kClass (.ofComparison false))
    split
    · exact added.regError
    · exact (added.release .i2cAdapter).configure
  · exact lost.configure

theorem Lost.addDevice (lost : Lost driver) : EndsLost (addDevice kernel driver) := by
  have created : Lost (driver.ask (kernel.deviceCreate = .valid) (.device driver.kClass)) :=
    lost.ask _ (by simp)
  have added : Lost ((driver.ask (kernel.deviceCreate = .valid) (.device driver.kClass)).ask
      (kernel.cdevAdd = 0) .cdev) := created.ask _ (by simp)
  unfold SensorInit.addDevice
  rw [if_neg kernel.deviceNotNull]
  split
  · exact added.regError
  · exact added.connect

end

theorem kModuleInit_endsLost {kernel : Answers} (region : ¬ kernel.allocChrdevRegion < 0) :
    EndsLost (kModuleInit kernel) := by
  have compared : decide (kernel.classCreate = .null) = false := by
    simpa using kernel.classNotNull
  unfold kModuleInit
  simp only [if_neg region, compared, Bool.false_eq_true, if_false]
  refine Lost.addDevice ⟨rfl, ?_⟩
  simp [Loading.start, Loading.ask]

/-- The module is loaded and unloaded properly only where nothing is acquired. -/
theorem kModuleInit_allOrNothing_iff (kernel : Answers) :
    AllOrNothing (kModuleInit kernel) ↔ kernel.allocChrdevRegion < 0 := by
  constructor
  · rintro ⟨holding, balanced, loaded, _⟩
    by_contra region
    obtain ⟨lost, destroyed⟩ := kModuleInit_endsLost region
    by_cases result : (kModuleInit kernel).1 = 0
    · have created := (loaded result).1
      rw [lost.notCreated] at created
      cases created
    · exact lost.neverAcquired (acquired_of_delete balanced (destroyed result))
  · intro noRegion
    have refused := Int32.ne_of_lt noRegion
    have ended : kModuleInit kernel = (-1, Loading.start) := by
      simp [kModuleInit, noRegion, refused, Loading.ask, Loading.start]
    rw [ended]
    exact ⟨[], rfl, fun loaded => absurd loaded (by decide), fun _ => rfl⟩

/-- A kernel that grants everything but the device file, for which it wants a class. -/
def allGranted : Answers where
  allocChrdevRegion := 0
  classCreate := .valid
  deviceCreate := .error
  cdevAdd := 0
  i2cGetAdapter := true
  i2cNewClientDevice := .valid
  i2cAddDriver := 0
  kzalloc := true
  kobjectAdd := 0
  createWorkqueue := true
  classNotNull := ErrPtr.noConfusion
  deviceNotNull := ErrPtr.noConfusion
  clientNotNull := ErrPtr.noConfusion

theorem not_allOrNothing_allGranted :
    ¬ ∀ kernel : Answers, AllOrNothing (kModuleInit kernel) := by
  intro all
  obtain ⟨holding, _, loaded, _⟩ := all allGranted
  have result : (kModuleInit allGranted).1 = 0 := by decide
  have lost : (kModuleInit allGranted).2.kClass = .ofComparison false := by decide
  have created := (loaded result).1
  rw [lost] at created
  cases created

end ToySystem.Drivers.SensorInit
