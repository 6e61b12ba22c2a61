import ToySystem.Drivers.Compensation
import ToySystem.Drivers.SensorRead
import ToySystem.Drivers.SensorStore

namespace ToySystem.Drivers.SensorTransfer

open ToySystem.Drivers.Sensor
open ToySystem.Libc (InInt int int_eq_some)
open ToySystem.Drivers.SensorRead (CopyToUser DeviceRead Stack)
open ToySystem.Drivers.SensorStore (Attr)

/-! # The transfers of the sensor driver

`read_temperature` of `drivers/sensor/sensor.c` and its callers on what the reads over
the bus return.  An error code is an `int` like any other there, so the formula runs
in the arithmetic of the kernel, where overflow wraps around.
-/

/-- A read of a register with `range` values; the code of an error is negative. -/
inductive I2cRead (range : Nat) where
  | got (word : Fin range)
  | failed (code : { code : Int32 // code < 0 })

namespace I2cRead

variable {range : Nat}

/-- What `i2c_smbus_read_byte_data` and `i2c_smbus_read_word_data` return. -/
def result : I2cRead range → Int32
  | .got word => Int32.ofNat word
  | .failed code => code.val

def Fails : I2cRead range → Prop
  | .got _ => False
  | .failed _ => True

end I2cRead

structure Calibration where
  digT1 : Int32
  digT2 : Int32
  digT3 : Int32

def readTemperature (dig : Calibration) (byte1 byte2 byte3 : I2cRead 256) : Int32 :=
  let d1 := byte1.result
  let d2 := byte2.result
  let d3 := byte3.result
  let rawTemp := ((d1 <<< 16) ||| (d2 <<< 8) ||| d3) >>> 4
  let var1 := (((rawTemp >>> 3) - (dig.digT1 <<< 1)) * dig.digT2) >>> 11
  let var2 :=
    (((((rawTemp >>> 4) - dig.digT1) * ((rawTemp >>> 4) - dig.digT1)) >>> 12) * dig.digT3) >>> 14
  ((var1 + var2) * 5 + 128) >>> 8

/-- The three words as they are assigned at load. -/
def kModuleInit (word1 word2 word3 : I2cRead 65536) : Calibration where
  digT1 := word1.result
  digT2 := word2.result
  digT3 := word3.result

/-- What the work leaves in the attributes, and the attributes it notifies of. -/
def workqueueFn (dig : Calibration) (byte1 byte2 byte3 : I2cRead 256) (attrs : TempAttrs) :
    TempAttrs × List Attr :=
  (Sensor.workqueueFn (readTemperature dig byte1 byte2 byte3) attrs, [.notify])

def kDriverRead (dig : Calibration) (byte1 byte2 byte3 : I2cRead 256) (stack : Stack) (count : Nat)
    (copy : CopyToUser count) : DeviceRead :=
  SensorRead.kDriverRead (readTemperature dig byte1 byte2 byte3) stack count copy

theorem toInt_shiftRight (a : Int32) {b : Int32} {count : Nat}
    (amount : (b.toBitVec.smod 32).toNat = count) : (a >>> b).toInt = a.toInt >>> count := by
  rw [← Int32.toInt_toBitVec, Int32.toBitVec_shiftRight, BitVec.toInt_sshiftRight', amount,
    Int32.toInt_toBitVec]

theorem toInt_add {a b : Int32} (fits : InInt (a.toInt + b.toInt)) :
    (a + b).toInt = a.toInt + b.toInt := by
  obtain ⟨low, high⟩ := fits
  rw [Int32.toInt_add, Int.bmod_eq_of_le (by omega) (by omega)]

theorem toInt_sub {a b : Int32} (fits : InInt (a.toInt - b.toInt)) :
    (a - b).toInt = a.toInt - b.toInt := by
  obtain ⟨low, high⟩ := fits
  rw [Int32.toInt_sub, Int.bmod_eq_of_le (by omega) (by omega)]

theorem toInt_mul {a b : Int32} (fits : InInt (a.toInt * b.toInt)) :
    (a * b).toInt = a.toInt * b.toInt := by
  obtain ⟨low, high⟩ := fits
  rw [Int32.toInt_mul, Int.bmod_eq_of_le (by omega) (by omega)]

theorem toInt_double {a : Int32} (fits : InInt (a.toInt * 2)) :
    (a <<< 1).toInt = a.toInt * 2 := by
  have same : a <<< 1 = a * 2 := by
    rw [← Int32.toBitVec_inj, Int32.toBitVec_shiftLeft, Int32.toBitVec_mul]
    exact BitVec.shiftLeft_eq_mul_twoPow _ _
  rw [same]
  exact toInt_mul fits

/-- The reads that give these bytes and words. -/
def byteRead (byte : UInt8) : I2cRead 256 := .got ⟨byte.toNat, byte.toNat_lt⟩

def wordRead (word : UInt16) : I2cRead 65536 := .got ⟨word.toNat, word.toNat_lt⟩

theorem toNat_byteRead (byte : UInt8) : (byteRead byte).result.toBitVec.toNat = byte.toNat := by
  have below : byte.toNat < 256 := byte.toNat_lt
  change byte.toNat % 2 ^ 32 = _
  omega

theorem rawTemp_eq (d1 d2 d3 : UInt8) :
    ((((byteRead d1).result <<< 16) ||| ((byteRead d2).result <<< 8) |||
      (byteRead d3).result) >>> 4).toInt = Compensation.rawTemp d1 d2 d3 := by
  have below1 : d1.toNat < 2 ^ 8 := d1.toNat_lt
  have below2 : d2.toNat < 2 ^ 8 := d2.toNat_lt
  have below3 : d3.toNat < 2 ^ 8 := d3.toNat_lt
  have bits : (((byteRead d1).result <<< 16) ||| ((byteRead d2).result <<< 8) |||
      (byteRead d3).result).toBitVec.toNat =
        ((d1.toNat <<< 16 ||| d2.toNat <<< 8) ||| d3.toNat) := by
    have amount16 : ((16 : Int32).toBitVec.smod 32).toNat = 16 := by decide
    have amount8 : ((8 : Int32).toBitVec.smod 32).toNat = 8 := by decide
    rw [Int32.toBitVec_or, Int32.toBitVec_or, Int32.toBitVec_shiftLeft, Int32.toBitVec_shiftLeft,
      BitVec.toNat_or, BitVec.toNat_or, BitVec.shiftLeft_eq', BitVec.shiftLeft_eq', amount16,
      amount8, BitVec.toNat_shiftLeft, BitVec.toNat_shiftLeft, toNat_byteRead, toNat_byteRead,
      toNat_byteRead, Nat.mod_eq_of_lt (by rw [Nat.shiftLeft_eq]; omega),
      Nat.mod_eq_of_lt (by rw [Nat.shiftLeft_eq]; omega)]
  have small : (d1.toNat <<< 16 ||| d2.toNat <<< 8) ||| d3.toNat < 2 ^ 24 := by
    refine Nat.or_lt_two_pow (Nat.or_lt_two_pow ?_ ?_) (by omega)
    · rw [Nat.shiftLeft_eq]
      omega
    · rw [Nat.shiftLeft_eq]
      omega
  rw [toInt_shiftRight _ (show ((4 : Int32).toBitVec.smod 32).toNat = 4 by decide),
    ← Int32.toInt_toBitVec, BitVec.toInt_eq_toNat_of_lt (by omega), bits]
  rfl

theorem toInt_wordRead (word : UInt16) : (wordRead word).result.toInt = word.toNat := by
  have below : word.toNat < 65536 := word.toNat_lt
  exact Int32.toInt_ofNat_of_lt (by omega)

section

variable {raw t1 t2 t3 : Int32}

theorem toInt_fine (doubled : InInt (t1.toInt * 2))
    (fine : InInt (raw.toInt >>> (3 : Nat) - t1.toInt * 2))
    (scaled : InInt ((raw.toInt >>> (3 : Nat) - t1.toInt * 2) * t2.toInt)) :
    ((((raw >>> 3) - (t1 <<< 1)) * t2) >>> 11).toInt =
      ((raw.toInt >>> (3 : Nat) - t1.toInt * 2) * t2.toInt) >>> (11 : Nat) := by
  have shifted := @toInt_shiftRight raw 3 3 (by decide)
  have twice := toInt_double doubled
  rw [← shifted, ← twice] at fine scaled ⊢
  rw [← toInt_sub fine] at scaled ⊢
  rw [← toInt_mul scaled]
  exact toInt_shiftRight _ (by decide)

theorem toInt_coarse (coarse : InInt (raw.toInt >>> (4 : Nat) - t1.toInt))
    (squared : InInt ((raw.toInt >>> (4 : Nat) - t1.toInt) * (raw.toInt >>> (4 : Nat) - t1.toInt)))
    (weighted : InInt (((raw.toInt >>> (4 : Nat) - t1.toInt) *
      (raw.toInt >>> (4 : Nat) - t1.toInt)) >>> (12 : Nat) * t3.toInt)) :
    ((((((raw >>> 4) - t1) * ((raw >>> 4) - t1)) >>> 12) * t3) >>> 14).toInt =
      (((raw.toInt >>> (4 : Nat) - t1.toInt) *
        (raw.toInt >>> (4 : Nat) - t1.toInt)) >>> (12 : Nat) * t3.toInt) >>> (14 : Nat) := by
  have shifted := @toInt_shiftRight raw 4 4 (by decide)
  rw [← shifted] at coarse squared weighted ⊢
  rw [← toInt_sub coarse] at squared weighted ⊢
  rw [← toInt_mul squared] at weighted ⊢
  rw [← @toInt_shiftRight _ 12 12 (by decide)] at weighted ⊢
  rw [← toInt_mul weighted]
  exact toInt_shiftRight _ (by decide)

theorem toInt_rounded {var1 var2 : Int32} (sum : InInt (var1.toInt + var2.toInt))
    (fifth : InInt ((var1.toInt + var2.toInt) * 5))
    (rounded : InInt ((var1.toInt + var2.toInt) * 5 + 128)) :
    (((var1 + var2) * 5 + 128) >>> 8).toInt =
      ((var1.toInt + var2.toInt) * 5 + 128) >>> (8 : Nat) := by
  rw [← toInt_add sum] at fifth rounded ⊢
  have times := @toInt_mul (var1 + var2) 5 fifth
  have five : (5 : Int32).toInt = 5 := by decide
  rw [five] at times
  rw [← times] at rounded ⊢
  have plus := @toInt_add ((var1 + var2) * 5) 128 rounded
  have half : (128 : Int32).toInt = 128 := by decide
  rw [half] at plus
  rw [← plus]
  exact toInt_shiftRight _ (by decide)

end

/-- Where no operation overflows, the wrapping formula is the exact one. -/
theorem readTemperature_exact {word1 word2 word3 : UInt16} {d1 d2 d3 : UInt8} {temperature : Int}
    (exact : Compensation.readTemperature (Compensation.kModuleInit word1 word2 word3) d1 d2 d3 =
      some temperature) :
    (readTemperature (kModuleInit (wordRead word1) (wordRead word2) (wordRead word3))
      (byteRead d1) (byteRead d2) (byteRead d3)).toInt = temperature := by
  simp only [Compensation.readTemperature, Compensation.kModuleInit, ← rawTemp_eq,
    ← toInt_wordRead, Option.bind_eq_bind, Option.bind_eq_some_iff, Option.pure_def,
    Option.some.injEq] at exact
  obtain ⟨_, doubledIs, _, fineIs, _, scaledIs, _, coarseIs, _, squaredIs, _, weightedIs, _, sumIs,
    _, fifthIs, _, roundedIs, rfl⟩ := exact
  obtain ⟨doubled, rfl⟩ := int_eq_some doubledIs
  obtain ⟨fine, rfl⟩ := int_eq_some fineIs
  obtain ⟨scaled, rfl⟩ := int_eq_some scaledIs
  obtain ⟨coarse, rfl⟩ := int_eq_some coarseIs
  obtain ⟨squared, rfl⟩ := int_eq_some squaredIs
  obtain ⟨weighted, rfl⟩ := int_eq_some weightedIs
  obtain ⟨sum, rfl⟩ := int_eq_some sumIs
  obtain ⟨fifth, rfl⟩ := int_eq_some fifthIs
  obtain ⟨rounded, rfl⟩ := int_eq_some roundedIs
  rw [← toInt_fine doubled fine scaled, ← toInt_coarse coarse squared weighted] at *
  exact toInt_rounded sum fifth rounded

/-- The reads at load and those of one measurement. -/
structure Transfers where
  word1 : I2cRead 65536
  word2 : I2cRead 65536
  word3 : I2cRead 65536
  byte1 : I2cRead 256
  byte2 : I2cRead 256
  byte3 : I2cRead 256

namespace Transfers

def dig (reads : Transfers) : Calibration := kModuleInit reads.word1 reads.word2 reads.word3

def WordFails (reads : Transfers) : Prop :=
  reads.word1.Fails ∨ reads.word2.Fails ∨ reads.word3.Fails

def ByteFails (reads : Transfers) : Prop :=
  reads.byte1.Fails ∨ reads.byte2.Fails ∨ reads.byte3.Fails

end Transfers

/-- Where the driver is when the measurement comes: the attributes, and the device's
read with its own stack. -/
structure Callers where
  attrs : TempAttrs
  stack : Stack
  count : Nat
  copy : CopyToUser count

structure KeepsFailures (reads : Transfers) (callers : Callers) : Prop where
  workqueue : reads.ByteFails →
    workqueueFn reads.dig reads.byte1 reads.byte2 reads.byte3 callers.attrs = (callers.attrs, [])
  device : reads.ByteFails →
    (kDriverRead reads.dig reads.byte1 reads.byte2 reads.byte3 callers.stack callers.count
      callers.copy).result < 0
  digT1 : ∀ code, reads.word1 = .failed code → reads.dig.digT1 ≠ code.val
  digT2 : ∀ code, reads.word2 = .failed code → reads.dig.digT2 ≠ code.val
  digT3 : ∀ code, reads.word3 = .failed code → reads.dig.digT3 ≠ code.val

theorem not_fails_of_unused {range : Nat} {read : I2cRead range} {constant : Int32}
    (assigned : constant = read.result)
    (unused : ∀ code, read = .failed code → constant ≠ code.val) : ¬ read.Fails := by
  cases read with
  | got word => exact id
  | failed code => exact absurd assigned (unused code rfl)

/-- No result of a read is ever looked at. -/
theorem keepsFailures_iff (reads : Transfers) (callers : Callers) :
    KeepsFailures reads callers ↔ ¬ reads.ByteFails ∧ ¬ reads.WordFails := by
  constructor
  · intro keeps
    refine ⟨?_, ?_⟩
    · intro fails
      have silent := congrArg Prod.snd (keeps.workqueue fails)
      cases silent
    · rintro (fails | fails | fails)
      · exact not_fails_of_unused rfl keeps.digT1 fails
      · exact not_fails_of_unused rfl keeps.digT2 fails
      · exact not_fails_of_unused rfl keeps.digT3 fails
  · rintro ⟨bytes, words⟩
    refine ⟨?_, ?_, ?_, ?_, ?_⟩
    · intro fails
      exact absurd fails bytes
    · intro fails
      exact absurd fails bytes
    · intro code failed
      exact absurd (.inl (by rw [failed]; trivial)) words
    · intro code failed
      exact absurd (.inr (.inl (by rw [failed]; trivial))) words
    · intro code failed
      exact absurd (.inr (.inr (by rw [failed]; trivial))) words

/-- The last byte cannot be read: all the same a temperature is published. -/
theorem not_keepsFailures_byte :
    ¬ ∀ (reads : Transfers) (callers : Callers), KeepsFailures reads callers := by
  intro all
  have keeps := all
    { word1 := .got 27504, word2 := .got 26435, word3 := .got 64536, byte1 := .got 126,
      byte2 := .got 237, byte3 := .failed ⟨-5, by decide⟩ }
    { attrs := { notify := 0, trigger := 0 }, stack := fun _ => 'a', count := 5,
      copy := ⟨0, by decide⟩ }
  have silent := congrArg Prod.snd (keeps.workqueue (.inr (.inr trivial)))
  cases silent

end ToySystem.Drivers.SensorTransfer
