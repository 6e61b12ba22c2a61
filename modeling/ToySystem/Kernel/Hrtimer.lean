import Mathlib.Data.Int.Basic

namespace ToySystem.Kernel

/-! The part of the kernel's high resolution timers that the drivers use.

A timer is queued, or its callback runs, or neither; `hrtimer_start` issued
while the callback runs makes it both.  Whether the callback can be caught in
the middle is up to the model that uses the timer.
-/

/-- Nanoseconds on the monotonic clock. -/
abbrev Ktime := Int

def msToKtime (milliseconds : Int) : Ktime := milliseconds * 1000000

def hrtimerResolution : Ktime := 1

inductive HrtimerRestart where
  | noRestart
  | restart
deriving DecidableEq, Repr

/-- The callback a timer runs is fixed for each timer of the drivers and not
stored.  `starts` is a history variable: how often the timer was started or
restarted so far. -/
structure Hrtimer where
  enqueued : Bool
  running : Bool
  expires : Ktime
  starts : Nat
deriving DecidableEq, Repr

namespace Hrtimer

def unset : Hrtimer := { enqueued := false, running := false, expires := 0, starts := 0 }

end Hrtimer

def hrtimerActive (timer : Hrtimer) : Bool := timer.enqueued || timer.running

def hrtimerInit (timer : Hrtimer) : Hrtimer :=
  { timer with enqueued := false, running := false, expires := 0 }

/-- Starts the timer relative to `now`, or restarts it if it is queued. -/
def hrtimerStart (now interval : Ktime) (timer : Hrtimer) : Hrtimer :=
  { timer with enqueued := true, expires := now + interval, starts := timer.starts + 1 }

/-- Removes a queued timer, unless its callback is running: then nothing
happens and the result is `-1`. -/
def hrtimerTryToCancel (timer : Hrtimer) : Hrtimer × Int :=
  if timer.running then (timer, -1)
  else if timer.enqueued then ({ timer with enqueued := false }, 1)
  else (timer, 0)

/-- Moves the expiry past `now` in steps of `interval`, which is raised to the
resolution of the clock; a queued timer is left alone. -/
def hrtimerForwardNow (now interval : Ktime) (timer : Hrtimer) : Hrtimer :=
  if now < timer.expires || timer.enqueued then timer
  else
    let interval := max interval hrtimerResolution
    { timer with expires := timer.expires + interval * ((now - timer.expires) / interval + 1) }

def hrtimerEnterCallback (timer : Hrtimer) : Hrtimer :=
  { timer with enqueued := false, running := true }

/-- The callback returned; `HRTIMER_RESTART` puts the timer back on the queue. -/
def hrtimerLeaveCallback (result : HrtimerRestart) (timer : Hrtimer) : Hrtimer :=
  { timer with running := false, enqueued := timer.enqueued || result == .restart }

section

variable (now interval : Ktime) (timer : Hrtimer)

@[simp] theorem hrtimerForwardNow_enqueued :
    (hrtimerForwardNow now interval timer).enqueued = timer.enqueued := by
  unfold hrtimerForwardNow; split <;> rfl

@[simp] theorem hrtimerForwardNow_running :
    (hrtimerForwardNow now interval timer).running = timer.running := by
  unfold hrtimerForwardNow; split <;> rfl

@[simp] theorem hrtimerTryToCancel_running :
    (hrtimerTryToCancel timer).1.running = timer.running := by
  unfold hrtimerTryToCancel; split
  · rfl
  · split <;> rfl

theorem hrtimerTryToCancel_idle (idle : timer.running = false) :
    (hrtimerTryToCancel timer).1.enqueued = false := by
  unfold hrtimerTryToCancel
  rw [idle]
  cases queued : timer.enqueued <;> simp [queued]

theorem hrtimerTryToCancel_enqueued :
    (hrtimerTryToCancel timer).1.enqueued = (timer.running && timer.enqueued) := by
  cases running : timer.running with
  | true => simp [hrtimerTryToCancel, running]
  | false => exact hrtimerTryToCancel_idle timer running

theorem hrtimerTryToCancel_unqueued (unqueued : timer.enqueued = false) :
    (hrtimerTryToCancel timer).1 = timer := by
  unfold hrtimerTryToCancel
  split
  · rfl
  · simp [unqueued]

end

end ToySystem.Kernel
