import Mathlib.Algebra.Ring.Nat
import ToySystem.Libc.IntRange

namespace ToySystem.Drivers.Compensation

open ToySystem.Libc

/-! # The temperature compensation

`read_temperature` of `drivers/sensor/sensor.c` with the calibration words as
`k_module_init` reads them, beside the formula of the sensor.
-/

structure Calibration where
  digT1 : Int
  digT2 : Int
  digT3 : Int

/-- The words are assigned as `i2c_smbus_read_word_data` returns them, from 0 on. -/
def kModuleInit (word1 word2 word3 : UInt16) : Calibration where
  digT1 := word1.toNat
  digT2 := word2.toNat
  digT3 := word3.toNat

/-- The assembled value: only bits are moved, and no bit is lost. -/
def rawTemp (d1 d2 d3 : UInt8) : Nat :=
  ((d1.toNat <<< 16 ||| d2.toNat <<< 8) ||| d3.toNat) >>> 4

def readTemperature (calibration : Calibration) (d1 d2 d3 : UInt8) : Option Int := do
  let raw : Int := rawTemp d1 d2 d3
  let doubled ← int (calibration.digT1 * 2)
  let fine ← int ((raw >>> (3 : Nat)) - doubled)
  let scaled ← int (fine * calibration.digT2)
  let var1 := scaled >>> (11 : Nat)
  let coarse ← int ((raw >>> (4 : Nat)) - calibration.digT1)
  let squared ← int (coarse * coarse)
  let scaled ← int ((squared >>> (12 : Nat)) * calibration.digT3)
  let var2 := scaled >>> (14 : Nat)
  let sum ← int (var1 + var2)
  let fifth ← int (sum * 5)
  let rounded ← int (fifth + 128)
  return rounded >>> (8 : Nat)

/-- The 20 bits of the three registers. -/
def adcValue (d1 d2 d3 : UInt8) : Int := d1.toNat * 4096 + d2.toNat * 16 + d3.toNat / 16

def unsigned (word : UInt16) : Int := word.toNat

def signed (word : UInt16) : Int := if word.toNat < 2 ^ 15 then word.toNat else word.toNat - 2 ^ 16

def var1 (raw t1 t2 : Int) : Int := (((raw >>> (3 : Nat)) - t1 * 2) * t2) >>> (11 : Nat)

def var2 (raw t1 t3 : Int) : Int :=
  (((((raw >>> (4 : Nat)) - t1) * ((raw >>> (4 : Nat)) - t1)) >>> (12 : Nat)) * t3) >>> (14 : Nat)

def temperature (raw t1 t2 t3 : Int) : Int :=
  (5 * (var1 raw t1 t2 + var2 raw t1 t3) + 128) >>> (8 : Nat)

/-- Every intermediate fits in 32 bits; a shift to the right makes none larger. -/
structure Fits (raw t1 t2 t3 : Int) : Prop where
  doubled : InInt (t1 * 2)
  fine : InInt ((raw >>> (3 : Nat)) - t1 * 2)
  fineScaled : InInt (((raw >>> (3 : Nat)) - t1 * 2) * t2)
  coarse : InInt ((raw >>> (4 : Nat)) - t1)
  squared : InInt (((raw >>> (4 : Nat)) - t1) * ((raw >>> (4 : Nat)) - t1))
  coarseScaled :
    InInt (((((raw >>> (4 : Nat)) - t1) * ((raw >>> (4 : Nat)) - t1)) >>> (12 : Nat)) * t3)
  sum : InInt (var1 raw t1 t2 + var2 raw t1 t3)
  fifth : InInt (5 * (var1 raw t1 t2 + var2 raw t1 t3))
  rounded : InInt (5 * (var1 raw t1 t2 + var2 raw t1 t3) + 128)

/-- For these words every value that the formula can take is the one returned. -/
def Compensates (word1 word2 word3 : UInt16) : Prop :=
  ∀ d1 d2 d3 : UInt8,
    Fits (adcValue d1 d2 d3) (unsigned word1) (signed word2) (signed word3) →
      readTemperature (kModuleInit word1 word2 word3) d1 d2 d3 =
        some (temperature (adcValue d1 d2 d3) (unsigned word1) (signed word2) (signed word3))

theorem rawTemp_eq (d1 d2 d3 : UInt8) : (rawTemp d1 d2 d3 : Int) = adcValue d1 d2 d3 := by
  have below2 : d2.toNat < 2 ^ 8 := d2.toNat_lt
  have below3 : d3.toNat < 2 ^ 8 := d3.toNat_lt
  have low : d2.toNat <<< 8 < 2 ^ 16 := by
    rw [Nat.shiftLeft_eq]
    omega
  have high : d1.toNat <<< 16 ||| d2.toNat <<< 8 = (d1.toNat <<< 8 + d2.toNat) <<< 8 := by
    rw [← Nat.shiftLeft_add_eq_or_of_lt low]
    simp only [Nat.shiftLeft_eq]
    omega
  rw [rawTemp, high, ← Nat.shiftLeft_add_eq_or_of_lt below3, Nat.shiftRight_eq_div_pow, adcValue]
  simp only [Nat.shiftLeft_eq]
  omega

theorem readTemperature_of_fits (calibration : Calibration) {d1 d2 d3 : UInt8}
    (fits : Fits (adcValue d1 d2 d3) calibration.digT1 calibration.digT2 calibration.digT3) :
    readTemperature calibration d1 d2 d3 =
      some (temperature (adcValue d1 d2 d3) calibration.digT1 calibration.digT2
        calibration.digT3) := by
  have fifth := fits.fifth
  have rounded := fits.rounded
  have sum := fits.sum
  unfold var1 var2 at sum fifth rounded
  rw [Int.mul_comm 5] at fifth rounded
  unfold temperature var1 var2
  rw [Int.mul_comm 5]
  simp only [readTemperature, rawTemp_eq, int_of_inInt fits.doubled, int_of_inInt fits.fine,
    int_of_inInt fits.fineScaled, int_of_inInt fits.coarse, int_of_inInt fits.squared,
    int_of_inInt fits.coarseScaled, int_of_inInt sum, int_of_inInt fifth, int_of_inInt rounded,
    Option.bind_eq_bind, Option.bind_some, Option.pure_def]

/-- A reading `distance` steps of 16 away from the first constant. -/
def readingAt (t1 distance : Int) : Int := 16 * (t1 + distance)

section

variable (t1 distance t2 t3 : Int)

theorem readingAt_fine : (readingAt t1 distance >>> (3 : Nat)) - t1 * 2 = 2 * distance := by
  rw [readingAt, Int.shiftRight_eq_div_pow]
  omega

theorem readingAt_coarse : (readingAt t1 distance >>> (4 : Nat)) - t1 = distance := by
  rw [readingAt, Int.shiftRight_eq_div_pow]
  omega

theorem var1_readingAt : var1 (readingAt t1 distance) t1 t2 = 2 * distance * t2 / 2048 := by
  rw [var1, readingAt_fine, Int.shiftRight_eq_div_pow]
  rfl

theorem var2_readingAt {weight : Int} (square : (distance * distance) >>> (12 : Nat) = weight) :
    var2 (readingAt t1 distance) t1 t3 = weight * t3 / 16384 := by
  rw [var2, readingAt_coarse, square, Int.shiftRight_eq_div_pow]
  rfl

end

/-- The distances that show a wrong sign, with the weight of the third constant
there: close by only the second one matters. -/
inductive Telling : Int → Int → Prop where
  | above : Telling 1 0
  | below : Telling (-1) 0
  | farAbove : Telling 231 13
  | farBelow : Telling (-231) 13

theorem Telling.square {distance weight : Int} (telling : Telling distance weight) :
    (distance * distance) >>> (12 : Nat) = weight := by
  cases telling <;> rfl

section

variable {distance weight : Int}

theorem fits_readingAt {t1 t2 t3 : Int} (telling : Telling distance weight)
    (word1 : 0 ≤ t1 ∧ t1 < 2 ^ 16)
    (word2 : -2 ^ 16 < t2 ∧ t2 < 2 ^ 16) (word3 : -2 ^ 16 < t3 ∧ t3 < 2 ^ 16) :
    Fits (readingAt t1 distance) t1 t2 t3 := by
  have square := telling.square
  constructor <;>
    simp only [InInt, readingAt_fine, readingAt_coarse, var1_readingAt, var2_readingAt _ _ _ square,
      square] <;>
    cases telling <;> omega

theorem temperature_readingAt (telling : Telling distance weight) (t1 t2 t3 : Int) :
    temperature (readingAt t1 distance) t1 t2 t3 =
      (5 * (2 * distance * t2 / 2048 + weight * t3 / 16384) + 128) / 256 := by
  rw [temperature, var1_readingAt, var2_readingAt _ _ _ telling.square, Int.shiftRight_eq_div_pow]
  rfl

end

theorem unsigned_range (word : UInt16) : 0 ≤ unsigned word ∧ unsigned word < 2 ^ 16 := by
  have below : word.toNat < 2 ^ 16 := word.toNat_lt
  unfold unsigned
  omega

theorem signed_cases (word : UInt16) :
    word.toNat < 2 ^ 15 ∧ signed word = unsigned word ∨
      2 ^ 15 ≤ unsigned word ∧ signed word = unsigned word - 2 ^ 16 := by
  by_cases small : word.toNat < 2 ^ 15
  · exact .inl ⟨small, if_pos small⟩
  · exact .inr ⟨by unfold unsigned; omega, if_neg small⟩

theorem signed_range (word : UInt16) : -2 ^ 16 < signed word ∧ signed word < 2 ^ 16 := by
  have range := unsigned_range word
  rcases signed_cases word with ⟨_, value⟩ | ⟨large, value⟩
  · omega
  · omega

/-- Every reading that is a multiple of 16 is one of the registers. -/
theorem adcValue_exists {reading : Int} (nonneg : 0 ≤ reading) (below : reading < 2 ^ 16) :
    ∃ d1 d2 d3, adcValue d1 d2 d3 = 16 * reading := by
  obtain ⟨value, rfl⟩ := Int.eq_ofNat_of_zero_le nonneg
  refine ⟨UInt8.ofNat (value / 256), UInt8.ofNat (value % 256), 0, ?_⟩
  have high : (UInt8.ofNat (value / 256)).toNat = value / 256 % 256 := UInt8.toNat_ofNat'
  have low : (UInt8.ofNat (value % 256)).toNat = value % 256 % 256 := UInt8.toNat_ofNat'
  have last : (0 : UInt8).toNat = 0 := rfl
  rw [adcValue, high, low, last]
  omega

/-- At such a reading the driver returns what it computes on unsigned words. -/
theorem Compensates.agrees {word1 word2 word3 : UInt16}
    (compensates : Compensates word1 word2 word3) {distance weight : Int}
    (telling : Telling distance weight) (nonneg : 0 ≤ unsigned word1 + distance)
    (below : unsigned word1 + distance < 2 ^ 16) :
    (5 * (2 * distance * unsigned word2 / 2048 + weight * unsigned word3 / 16384) + 128) / 256 =
      (5 * (2 * distance * signed word2 / 2048 + weight * signed word3 / 16384) + 128) / 256 := by
  obtain ⟨d1, d2, d3, reading⟩ := adcValue_exists nonneg below
  have range1 := unsigned_range word1
  have range2 := unsigned_range word2
  have range3 := unsigned_range word3
  have fits : Fits (adcValue d1 d2 d3) (unsigned word1) (signed word2) (signed word3) := by
    rw [reading]
    exact fits_readingAt telling range1 (signed_range word2) (signed_range word3)
  have ownFits : Fits (adcValue d1 d2 d3) (unsigned word1) (unsigned word2) (unsigned word3) := by
    rw [reading]
    exact fits_readingAt telling range1 (by omega) (by omega)
  have returned := compensates d1 d2 d3 fits
  have computed := readTemperature_of_fits (kModuleInit word1 word2 word3) ownFits
  have same := Option.some.inj (computed.symm.trans returned)
  rw [reading] at same
  have own := temperature_readingAt telling (unsigned word1) (unsigned word2) (unsigned word3)
  have asked := temperature_readingAt telling (unsigned word1) (signed word2) (signed word3)
  exact own.symm.trans (same.trans asked)

/-- The formula is computed exactly for the words whose signs do not matter. -/
theorem compensates_iff (word1 word2 word3 : UInt16) :
    Compensates word1 word2 word3 ↔ word2.toNat < 2 ^ 15 ∧ word3.toNat < 2 ^ 15 := by
  have range1 := unsigned_range word1
  have range2 := unsigned_range word2
  have range3 := unsigned_range word3
  constructor
  · intro compensates
    have small2 : word2.toNat < 2 ^ 15 := by
      rcases signed_cases word2 with ⟨small, _⟩ | ⟨_, value⟩
      · exact small
      · by_cases room : unsigned word1 + 1 < 2 ^ 16
        · have same := compensates.agrees .above (by omega) room
          omega
        · have same := compensates.agrees .below (by omega) (by omega)
          omega
    refine ⟨small2, ?_⟩
    have value2 : signed word2 = unsigned word2 := if_pos small2
    rcases signed_cases word3 with ⟨small, _⟩ | ⟨_, value⟩
    · exact small
    · by_cases room : unsigned word1 + 231 < 2 ^ 16
      · have same := compensates.agrees .farAbove (by omega) room
        rw [value2] at same
        omega
      · have same := compensates.agrees .farBelow (by omega) (by omega)
        rw [value2] at same
        omega
  · rintro ⟨small2, small3⟩ d1 d2 d3 fits
    have value2 : signed word2 = unsigned word2 := if_pos small2
    have value3 : signed word3 = unsigned word3 := if_pos small3
    rw [value2, value3] at fits ⊢
    exact readTemperature_of_fits (kModuleInit word1 word2 word3) fits

/-- A second word that is negative: 1 is returned for a temperature of -1. -/
theorem not_compensates_negative :
    ¬ ∀ word1 word2 word3 : UInt16, Compensates word1 word2 word3 := by
  intro all
  have fits : Fits (adcValue 0 1 0) (unsigned 0) (signed 0x8000) (signed 0) := by
    constructor <;> decide
  have returned := all 0 0x8000 0 0 1 0 fits
  have driver : readTemperature (kModuleInit 0 0x8000 0) 0 1 0 = some 1 := by decide
  have formula : temperature (adcValue 0 1 0) (unsigned 0) (signed 0x8000) (signed 0) = -1 := by
    decide
  rw [driver, formula] at returned
  cases returned

end ToySystem.Drivers.Compensation
