import Mathlib.Data.List.Basic

namespace ToySystem.Kernel

/-! Output lines of the GPIO chip, by pin number, and lists of writes to them. -/

abbrev Gpio := Nat → Bool

def gpioSetValue (pin : Nat) (value : Bool) (gpio : Gpio) : Gpio :=
  fun other => if other = pin then value else gpio other

@[simp] theorem gpioSetValue_same (pin : Nat) (value : Bool) (gpio : Gpio) :
    gpioSetValue pin value gpio pin = value := by
  simp [gpioSetValue]

theorem gpioSetValue_other {pin other : Nat} (different : other ≠ pin) (value : Bool)
    (gpio : Gpio) : gpioSetValue pin value gpio other = gpio other := by
  simp [gpioSetValue, different]

def gpioWrite (writes : List (Nat × Bool)) (gpio : Gpio) : Gpio :=
  writes.foldl (fun gpio write => gpioSetValue write.1 write.2 gpio) gpio

@[simp] theorem gpioWrite_nil (gpio : Gpio) : gpioWrite [] gpio = gpio := rfl

@[simp] theorem gpioWrite_cons (write : Nat × Bool) (writes : List (Nat × Bool)) (gpio : Gpio) :
    gpioWrite (write :: writes) gpio = gpioWrite writes (gpioSetValue write.1 write.2 gpio) := rfl

theorem gpioWrite_frame {pin : Nat} {writes : List (Nat × Bool)}
    (untouched : pin ∉ writes.map Prod.fst) (gpio : Gpio) :
    gpioWrite writes gpio pin = gpio pin := by
  induction writes generalizing gpio with
  | nil => rfl
  | cons write rest ih =>
      simp only [List.map_cons, List.mem_cons, not_or] at untouched
      rw [gpioWrite_cons, ih untouched.2, gpioSetValue_other untouched.1]

/-- A pin that is written one value only, at least once, ends with that value. -/
theorem gpioWrite_mem {pin : Nat} {value : Bool} {writes : List (Nat × Bool)}
    (written : (pin, value) ∈ writes) (alone : ∀ write ∈ writes, write.1 = pin → write.2 = value)
    (gpio : Gpio) : gpioWrite writes gpio pin = value := by
  induction writes generalizing gpio with
  | nil => simp at written
  | cons write rest ih =>
      rw [gpioWrite_cons]
      by_cases later : (pin, value) ∈ rest
      · exact ih later (fun other member => alone other (List.mem_cons_of_mem write member)) _
      · have here : (pin, value) = write := (List.mem_cons.mp written).resolve_right later
        subst write
        have untouched : pin ∉ rest.map Prod.fst := by
          intro member
          obtain ⟨other, inRest, samePin⟩ := List.mem_map.mp member
          have sameValue := alone other (List.mem_cons_of_mem _ inRest) samePin
          exact later (by rw [← samePin, ← sameValue]; exact inRest)
        rw [gpioWrite_frame untouched, gpioSetValue_same]

theorem gpioWrite_append (first second : List (Nat × Bool)) (gpio : Gpio) :
    gpioWrite (first ++ second) gpio = gpioWrite second (gpioWrite first gpio) :=
  List.foldl_append

theorem gpioWrite_congr (writes : List (Nat × Bool)) {first second : Gpio} {pin : Nat}
    (same : first pin = second pin) : gpioWrite writes first pin = gpioWrite writes second pin := by
  induction writes generalizing first second with
  | nil => exact same
  | cons write rest ih =>
      apply ih
      by_cases here : pin = write.1
      · simp [gpioSetValue, here]
      · simp [gpioSetValue, here, same]

section

variable {pin : Nat} {pins : List Nat} (value : Bool) (gpio : Gpio)

theorem gpioWrite_pins (member : pin ∈ pins) : gpioWrite (pins.map (·, value)) gpio pin = value := by
  have written : (pin, value) ∈ pins.map (·, value) := List.mem_map.mpr ⟨pin, member, rfl⟩
  apply gpioWrite_mem written
  intro write isWrite _
  obtain ⟨_, _, rfl⟩ := List.mem_map.mp isWrite
  rfl

theorem gpioWrite_other_pins (absent : pin ∉ pins) :
    gpioWrite (pins.map (·, value)) gpio pin = gpio pin := by
  apply gpioWrite_frame
  simpa using absent

end

end ToySystem.Kernel
