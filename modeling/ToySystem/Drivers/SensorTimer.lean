import ToySystem.Data.Run
import ToySystem.Data.Thread
import ToySystem.Drivers.Sensor
import ToySystem.Kernel.Hrtimer

namespace ToySystem.Drivers.Sensor

open ToySystem.Data ToySystem.Kernel

/-! # The sensor driver's timer and its workqueue

`drivers/sensor/sensor.c`: the timer queues the work that reads the sensor, and
restarts itself.  It is started before the workqueue is created and cancelled
after the workqueue is destroyed.
-/

/-- What a pointer of the driver points to. -/
inductive Resource where
  | null
  | live
  | released
deriving DecidableEq, Repr

/-- The statements of `k_module_init` after `hrtimer_start`, and those of
`k_module_exit`, which is called some time later. -/
inductive ModuleStatement where
  | createWorkqueue
  | destroyWorkqueue
  | hrtimerCancel
  | testToyKobj
  | kobjectPut
  | kfree
  | i2cUnregisterDevice
  | i2cDelDriver
  | cdevDel
  | deviceDestroy
  | classDestroy
  | unregisterChrdevRegion
deriving DecidableEq, Repr

def kModuleInit : List ModuleStatement := [.createWorkqueue]

def kModuleExit : List ModuleStatement :=
  [.destroyWorkqueue, .hrtimerCancel, .testToyKobj, .i2cUnregisterDevice, .i2cDelDriver, .cdevDel,
    .deviceDestroy, .classDestroy, .unregisterChrdevRegion]

/-- The statements of `sensor_timer_callback`. -/
inductive CallbackStatement where
  | queueWork
  | hrtimerForwardNow
  | returnRestart
deriving DecidableEq, Repr

def sensorTimerCallback : List CallbackStatement := [.queueWork, .hrtimerForwardNow, .returnRestart]

inductive WorkStatement where
  | readTemperature
  | storeNotify (temperature : Int32)
  | sysfsNotify
deriving DecidableEq, Repr

/-- `granted`: whether `create_workqueue` gets a workqueue; `workPending`: the work is
queued; `worker`: what is left of its execution; `loader`: the statements of
`k_module_init` and `k_module_exit` that are left. -/
structure SensorModule where
  granted : Bool
  kWorkqueue : Resource
  bmp280I2cClient : Resource
  toyKobj : Resource
  sensorHrtimer : Hrtimer
  attrs : TempAttrs
  workPending : Bool
  loader : List ModuleStatement
  callback : List CallbackStatement
  worker : List WorkStatement

def maxTimeoutMsec : Int := 2000

/-- `destroy_workqueue` returns when the work is done, and `hrtimer_cancel` when
the callback is.  `destroy_workqueue(NULL)` faults, and the exit function goes no further. -/
def moduleExec : ModuleStatement → SensorModule → Option (SensorModule × List ModuleStatement)
  | .createWorkqueue, driver =>
      some ({ driver with kWorkqueue := if driver.granted then .live else .null }, [])
  | .destroyWorkqueue, driver =>
      if driver.kWorkqueue = .null || driver.workPending || !driver.worker.isEmpty then none
      else some ({ driver with kWorkqueue := .released }, [])
  | .hrtimerCancel, driver =>
      if driver.sensorHrtimer.running then none
      else some ({ driver with
        sensorHrtimer := (hrtimerTryToCancel driver.sensorHrtimer).1 }, [])
  | .testToyKobj, driver =>
      some (driver, if driver.toyKobj = .null then [] else [.kobjectPut, .kfree])
  | .kfree, driver => some ({ driver with toyKobj := .released }, [])
  | .i2cUnregisterDevice, driver => some ({ driver with bmp280I2cClient := .released }, [])
  | .kobjectPut, driver | .i2cDelDriver, driver | .cdevDel, driver | .deviceDestroy, driver
  | .classDestroy, driver | .unregisterChrdevRegion, driver => some (driver, [])

/-- Work that is queued already is not queued again.  On a workqueue that does
not exist nothing is promised, and the model does nothing. -/
def queueWork (driver : SensorModule) : SensorModule :=
  if driver.kWorkqueue = .live then { driver with workPending := true } else driver

def callbackExec (now : Ktime) : CallbackStatement → SensorModule →
    SensorModule × List CallbackStatement
  | .queueWork, driver => (queueWork driver, [])
  | .hrtimerForwardNow, driver => ({ driver with
      sensorHrtimer := hrtimerForwardNow now (msToKtime maxTimeoutMsec) driver.sensorHrtimer }, [])
  | .returnRestart, driver => ({ driver with
      sensorHrtimer := hrtimerLeaveCallback .restart driver.sensorHrtimer }, [])

/-- `temperature` is what `read_temperature` measures. -/
def workExec (temperature : Int32) : WorkStatement → SensorModule →
    SensorModule × List WorkStatement
  | .readTemperature, driver => (driver, [.storeNotify temperature, .sysfsNotify])
  | .storeNotify temperature, driver =>
      ({ driver with attrs := workqueueFn temperature driver.attrs }, [])
  | .sysfsNotify, driver => (driver, [])

inductive Event where
  | loader
  | expiry
  | callback (now : Ktime)
  | startWork
  | worker (temperature : Int32)
deriving DecidableEq, Repr

def step (driver : SensorModule) : Event → Option SensorModule
  | .loader =>
      (proceed moduleExec driver driver.loader).map fun (driver, loader) => { driver with loader }
  | .expiry =>
      if driver.sensorHrtimer.enqueued && !driver.sensorHrtimer.running then
        some { driver with
          sensorHrtimer := hrtimerEnterCallback driver.sensorHrtimer
          callback := sensorTimerCallback }
      else none
  | .callback now =>
      (advance (callbackExec now) driver driver.callback).map fun (driver, callback) =>
        { driver with callback }
  | .startWork =>
      if driver.workPending && driver.worker.isEmpty then
        some { driver with workPending := false, worker := [.readTemperature] }
      else none
  | .worker temperature =>
      (advance (workExec temperature) driver driver.worker).map fun (driver, worker) =>
        { driver with worker }

/-- `hrtimer_start` has just returned.  The pointers are what the statements
before it left. -/
def timerStarted (now : Ktime) (attrs : TempAttrs) (hasClient hasKobj granted : Bool) :
    SensorModule where
  granted := granted
  kWorkqueue := .null
  bmp280I2cClient := if hasClient then .live else .null
  toyKobj := if hasKobj then .live else .null
  sensorHrtimer := hrtimerStart now (msToKtime maxTimeoutMsec) (hrtimerInit .unset)
  attrs := attrs
  workPending := false
  loader := kModuleInit ++ kModuleExit
  callback := []
  worker := []

/-- The callback is at its call of `queue_work`. -/
def atQueueWork (driver : SensorModule) : Bool := driver.callback.head? = some .queueWork

/-- The calls of `queue_work` find the workqueue, and the work finds what it uses. -/
def usesLive (driver : SensorModule) : Event → Bool
  | .callback _ => !atQueueWork driver || driver.kWorkqueue = .live
  | .startWork | .worker _ => driver.bmp280I2cClient ≠ .released && driver.toyKobj ≠ .released
  | .loader | .expiry => true

/-- The callback calls `queue_work` neither before `create_workqueue`, which succeeds, nor
after `destroy_workqueue`. -/
def queuesInside (driver : SensorModule) : Event → Bool
  | .callback _ => !atQueueWork driver || driver.granted &&
      .createWorkqueue ∉ driver.loader && .destroyWorkqueue ∈ driver.loader
  | .loader | .expiry | .startWork | .worker _ => true

/-- How far the module is; without a workqueue its exit function never ends. -/
inductive Phase (driver : SensorModule) : Prop
  | starting (code : driver.loader = kModuleInit ++ kModuleExit) (null : driver.kWorkqueue = .null)
      (notPending : driver.workPending = false) (idle : driver.worker = [])
      (client : driver.bmp280I2cClient ≠ .released) (kobj : driver.toyKobj ≠ .released)
  | serving (code : driver.loader = kModuleExit) (granted : driver.granted = true)
      (live : driver.kWorkqueue = .live)
      (client : driver.bmp280I2cClient ≠ .released) (kobj : driver.toyKobj ≠ .released)
  | denied (refused : driver.granted = false) (null : driver.kWorkqueue = .null)
      (code : driver.loader = kModuleExit)
      (notPending : driver.workPending = false) (idle : driver.worker = [])
  | finished (created : .createWorkqueue ∉ driver.loader)
      (destroyed : .destroyWorkqueue ∉ driver.loader) (released : driver.kWorkqueue = .released)
      (notPending : driver.workPending = false) (idle : driver.worker = [])

theorem Phase.timerStarted (now : Ktime) (attrs : TempAttrs) (hasClient hasKobj granted : Bool) :
    Phase (timerStarted now attrs hasClient hasKobj granted) := by
  apply Phase.starting rfl rfl rfl rfl
  · cases hasClient <;> exact (nomatch ·)
  · cases hasKobj <;> exact (nomatch ·)

/-- The timer, its callback and the attributes have no part in it. -/
theorem Phase.congr {driver after : SensorModule} (phase : Phase driver)
    (loader : after.loader = driver.loader) (granted : after.granted = driver.granted)
    (workqueue : after.kWorkqueue = driver.kWorkqueue)
    (workPending : after.workPending = driver.workPending) (worker : after.worker = driver.worker)
    (client : after.bmp280I2cClient = driver.bmp280I2cClient)
    (kobj : after.toyKobj = driver.toyKobj) : Phase after := by
  cases phase with
  | starting code null notPending idle hasClient hasKobj =>
      exact .starting (loader.trans code) (workqueue.trans null) (workPending.trans notPending)
        (worker.trans idle) (client ▸ hasClient) (kobj ▸ hasKobj)
  | serving code isGranted live hasClient hasKobj =>
      exact .serving (loader.trans code) (granted.trans isGranted) (workqueue.trans live)
        (client ▸ hasClient) (kobj ▸ hasKobj)
  | denied refused null code notPending idle =>
      exact .denied (granted.trans refused) (workqueue.trans null) (loader.trans code)
        (workPending.trans notPending) (worker.trans idle)
  | finished created destroyed released notPending idle =>
      exact .finished (loader ▸ created) (loader ▸ destroyed) (workqueue.trans released)
        (workPending.trans notPending) (worker.trans idle)

/-- The workqueue is there exactly from its creation to its destruction. -/
theorem Phase.live_iff {driver : SensorModule} (phase : Phase driver) :
    driver.kWorkqueue = .live ↔ driver.granted = true ∧ .createWorkqueue ∉ driver.loader ∧
      .destroyWorkqueue ∈ driver.loader := by
  cases phase with
  | starting code null => simp [code, null, kModuleInit]
  | serving code granted live => simp [code, granted, live, kModuleExit]
  | denied refused null code => simp [refused, null]
  | finished created destroyed released => simp [destroyed, released]

/-- Work is only there while the workqueue is. -/
theorem Phase.work_finds {driver : SensorModule} (phase : Phase driver)
    (working : driver.workPending = true ∨ driver.worker ≠ []) :
    driver.bmp280I2cClient ≠ .released ∧ driver.toyKobj ≠ .released := by
  cases phase with
  | starting code null notPending idle client kobj => exact ⟨client, kobj⟩
  | serving code granted live client kobj => exact ⟨client, kobj⟩
  | denied refused null code notPending idle => simp [notPending, idle] at working
  | finished created destroyed released notPending idle => simp [notPending, idle] at working

theorem step_startWork {driver after : SensorModule}
    (stepped : step driver .startWork = some after) :
    driver.workPending = true ∧
      after = { driver with workPending := false, worker := [.readTemperature] } := by
  simp only [step] at stepped
  split at stepped
  · rename_i ready
    exact ⟨by simpa using (Bool.and_eq_true_iff.mp ready).1, (Option.some.inj stepped).symm⟩
  · contradiction

theorem step_worker {driver after : SensorModule} {temperature : Int32}
    (stepped : step driver (.worker temperature) = some after) : driver.worker ≠ [] := by
  intro idle
  rw [step, idle] at stepped
  cases stepped

theorem Phase.agree {driver after : SensorModule} {event : Event} (phase : Phase driver)
    (stepped : step driver event = some after) :
    usesLive driver event = true ↔ queuesInside driver event = true := by
  cases event with
  | loader => exact Iff.rfl
  | expiry => exact Iff.rfl
  | callback now =>
      have live := phase.live_iff
      simp only [usesLive, queuesInside, Bool.or_eq_true, Bool.and_eq_true, decide_eq_true_eq,
        live, and_assoc]
  | startWork =>
      have finds := phase.work_finds (.inl (step_startWork stepped).1)
      simp [usesLive, queuesInside, finds]
  | worker temperature =>
      have finds := phase.work_finds (.inr (step_worker stepped))
      simp [usesLive, queuesInside, finds]

theorem Phase.loader {driver after : SensorModule} (phase : Phase driver)
    (stepped : step driver .loader = some after) : Phase after := by
  obtain ⟨⟨next, code⟩, proceeded, rfl⟩ := Option.map_eq_some_iff.mp stepped
  obtain ⟨statement, others, added, shape, executed, rfl⟩ := proceed_eq_some proceeded
  cases phase with
  | starting code null notPending idle client kobj =>
      rw [shape] at code
      cases code
      cases executed
      by_cases granted : driver.granted = true
      · exact .serving rfl granted (if_pos granted) client kobj
      · exact .denied (Bool.eq_false_iff.mpr granted) (if_neg granted) rfl notPending idle
  | serving code granted live client kobj =>
      rw [shape] at code
      cases code
      simp only [moduleExec] at executed
      split at executed
      · contradiction
      · rename_i still
        simp only [Bool.or_eq_true, Bool.not_eq_true', List.isEmpty_eq_false_iff, not_or,
          Bool.not_eq_true, not_not] at still
        cases executed
        have created : .createWorkqueue ∉ kModuleExit.tail := by decide
        have destroyed : .destroyWorkqueue ∉ kModuleExit.tail := by decide
        exact .finished created destroyed rfl still.1.2 still.2
  | denied refused null code notPending idle =>
      rw [shape] at code
      cases code
      simp [moduleExec, null] at executed
  | finished created destroyed released notPending idle =>
      rw [shape, List.mem_cons, not_or] at created destroyed
      cases statement with
      | createWorkqueue => exact absurd rfl created.1
      | destroyWorkqueue => exact absurd rfl destroyed.1
      | hrtimerCancel =>
          simp only [moduleExec] at executed
          split at executed
          · contradiction
          · cases executed
            exact .finished created.2 destroyed.2 released notPending idle
      | testToyKobj =>
          cases executed
          have added : ∀ kobj : Resource,
              .createWorkqueue ∉ (if kobj = .null then [] else [.kobjectPut, .kfree]) ++ others ∧
                .destroyWorkqueue ∉ (if kobj = .null then [] else [.kobjectPut, .kfree]) ++ others := by
            intro kobj
            split <;> simp [created.2, destroyed.2]
          exact .finished (added driver.toyKobj).1 (added driver.toyKobj).2 released notPending idle
      | kobjectPut | kfree | i2cUnregisterDevice | i2cDelDriver | cdevDel | deviceDestroy
      | classDestroy | unregisterChrdevRegion =>
          cases executed
          exact .finished created.2 destroyed.2 released notPending idle

/-- Work that is queued while the workqueue is there changes nothing else. -/
theorem Phase.queueWork {driver : SensorModule} (phase : Phase driver)
    (live : driver.kWorkqueue = .live) : Phase (queueWork driver) := by
  rw [Sensor.queueWork, if_pos live]
  cases phase with
  | starting code null => simp [null] at live
  | serving code granted live client kobj => exact .serving code granted live client kobj
  | denied refused null => simp [null] at live
  | finished created destroyed released => simp [released] at live

theorem Phase.step {driver after : SensorModule} {event : Event} (phase : Phase driver)
    (stepped : Sensor.step driver event = some after) (found : usesLive driver event = true) :
    Phase after := by
  cases event with
  | loader => exact phase.loader stepped
  | expiry =>
      simp only [Sensor.step] at stepped
      split at stepped
      · cases stepped
        exact phase.congr rfl rfl rfl rfl rfl rfl rfl
      · contradiction
  | callback now =>
      obtain ⟨⟨next, code⟩, advanced, rfl⟩ := Option.map_eq_some_iff.mp stepped
      obtain ⟨statement, others, ahead, rfl, _⟩ := advance_eq_some advanced
      cases statement with
      | queueWork =>
          have live : driver.kWorkqueue = .live := by
            simpa [usesLive, atQueueWork, ahead] using found
          exact (phase.queueWork live).congr rfl rfl rfl rfl rfl rfl rfl
      | hrtimerForwardNow | returnRestart => exact phase.congr rfl rfl rfl rfl rfl rfl rfl
  | startWork =>
      obtain ⟨pending, rfl⟩ := step_startWork stepped
      cases phase with
      | starting code null notPending => simp [notPending] at pending
      | serving code granted live client kobj => exact .serving code granted live client kobj
      | denied refused null code notPending => simp [notPending] at pending
      | finished created destroyed released notPending => simp [notPending] at pending
  | worker temperature =>
      have working := step_worker stepped
      obtain ⟨⟨next, code⟩, advanced, rfl⟩ := Option.map_eq_some_iff.mp stepped
      obtain ⟨statement, others, _, rfl, _⟩ := advance_eq_some advanced
      cases phase with
      | starting code null notPending idle => exact absurd idle working
      | serving code granted live client kobj =>
          cases statement <;> exact .serving code granted live client kobj
      | denied refused null code notPending idle => exact absurd idle working
      | finished created destroyed released notPending idle => exact absurd idle working

theorem workqueue_used_live_iff (now : Ktime) (attrs : TempAttrs) (hasClient hasKobj granted : Bool)
    (events : List Event) :
    (∀ transition ∈ path step (timerStarted now attrs hasClient hasKobj granted) events,
        usesLive transition.before transition.event = true) ↔
      ∀ transition ∈ path step (timerStarted now attrs hasClient hasKobj granted) events,
        queuesInside transition.before transition.event = true :=
  path_forall_iff (Phase.timerStarted now attrs hasClient hasKobj granted)
    (fun _ _ _ phase stepped => phase.agree stepped)
    (fun _ _ _ phase stepped found => phase.step stepped found)

/-- The callback runs before the workqueue is created, or the timer expires after it was
destroyed, or `destroy_workqueue` comes between an expiry and the call of `queue_work`. -/
theorem timer_uses_dead_workqueue :
    (¬ ∀ transition ∈ path step (timerStarted 0 ⟨0, 0⟩ true true true) [.expiry, .callback 0],
        usesLive transition.before transition.event = true) ∧
      (¬ ∀ transition ∈ path step (timerStarted 0 ⟨0, 0⟩ true true true)
          [.loader, .loader, .expiry, .callback 0],
        usesLive transition.before transition.event = true) ∧
      ¬ ∀ transition ∈ path step (timerStarted 0 ⟨0, 0⟩ true true true)
          [.loader, .expiry, .loader, .callback 0],
        usesLive transition.before transition.event = true := by
  decide

end ToySystem.Drivers.Sensor
