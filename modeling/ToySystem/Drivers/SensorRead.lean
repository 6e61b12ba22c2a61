import Mathlib.Data.List.Basic
import ToySystem.Drivers.Sensor

namespace ToySystem.Drivers.SensorRead

open ToySystem.Libc

/-! # Reading the sensor's device

`k_driver_read` of `drivers/sensor/sensor.c` after `read_temperature` returned: the
text of the temperature, which `workqueue_fn` prints too, and its copy to user space.
-/

/-- `"%d.%d\n"` of the quotient and the remainder, both as C has them. -/
def temperatureText (temperature : Int32) : List Char :=
  decimal (temperature / 100).toInt ++ '.' :: (decimal (temperature % 100).toInt ++ ['\n'])

/-- `sizeof(out_string)` -/
def outSize : Nat := 20

/-- The hundredths in digits, a point, two digits and a newline. -/
def unsignedHundredths (text : List Char) : Option Nat :=
  match text.dropWhile Char.isDigit with
  | ['.', tenths, hundredths, '\n'] =>
      if text.takeWhile Char.isDigit ≠ [] ∧ tenths.isDigit ∧ hundredths.isDigit then
        some (100 * magnitude text + Nat.ofDigitChars 10 [tenths, hundredths] 0)
      else none
  | _ => none

def readHundredths (text : List Char) : Option Int :=
  match text with
  | '-' :: text => (unsignedHundredths text).map fun number => -(number : Int)
  | text => (unsignedHundredths text).map Int.ofNat

structure PrintsExactly (temperature : Int32) : Prop where
  fits : (temperatureText temperature).length < outSize
  denotes : readHundredths (temperatureText temperature) = some temperature.toInt

/-- As a reader gives every text at most one number, exact texts are never shared. -/
theorem PrintsExactly.injective {first second : Int32} (exact : PrintsExactly first)
    (exact' : PrintsExactly second) (same : temperatureText first = temperatureText second) :
    first = second := by
  have denoted := exact.denotes
  rw [same, exact'.denotes] at denoted
  exact Int32.toInt_inj.mp (Option.some.inj denoted).symm

/-- What the two conversions print. -/
structure Parts (temperature : Int32) (quotient remainder : Int) : Prop where
  quotientIs : (temperature / 100).toInt = quotient
  remainderIs : (temperature % 100).toInt = remainder
  whole : 100 * quotient + remainder = temperature.toInt
  below : remainder < 100
  above : -100 < remainder
  nonneg : 0 ≤ temperature.toInt → 0 ≤ quotient ∧ 0 ≤ remainder
  negative : temperature.toInt < 0 → quotient ≤ 0 ∧ remainder ≤ 0

theorem parts (temperature : Int32) :
    ∃ quotient remainder, Parts temperature quotient remainder := by
  have divided : (temperature / 100).toInt = temperature.toInt.tdiv 100 :=
    Int32.toInt_div_of_ne_right temperature 100 (by decide)
  have left : (temperature % 100).toInt = temperature.toInt.tmod 100 :=
    Int32.toInt_mod temperature 100
  have whole := Int.mul_tdiv_add_tmod temperature.toInt 100
  have below := Int.tmod_lt_of_pos temperature.toInt (show (0 : Int) < 100 by omega)
  have above := Int.lt_tmod_of_pos temperature.toInt (show (0 : Int) < 100 by omega)
  refine ⟨_, _, divided, left, whole, below, above, ?_, ?_⟩
  · intro nonneg
    have remainder := Int.tmod_nonneg 100 nonneg
    omega
  · intro negative
    have remainder := Int.tmod_nonneg 100 (show 0 ≤ -temperature.toInt by omega)
    rw [Int.neg_tmod] at remainder
    omega

theorem temperatureText_fits (temperature : Int32) :
    (temperatureText temperature).length < outSize := by
  obtain ⟨quotient, remainder, ⟨quotientIs, remainderIs, whole, below, above, _, _⟩⟩ :=
    parts temperature
  have low := Int32.le_toInt temperature
  have high := Int32.toInt_lt temperature
  have first := (@decimal_length_le_iff quotient 8 (by omega)).mpr (by omega)
  have second := (@decimal_length_le_iff remainder 2 (by omega)).mpr (by omega)
  rw [temperatureText, quotientIs, remainderIs, List.length_append, List.length_cons,
    List.length_append, List.length_singleton, outSize]
  omega

/-- A fraction has two digits, or one, or a sign of its own. -/
theorem decimal_fraction {remainder : Int} (below : remainder < 100) :
    (10 ≤ remainder ∧ ∃ tenths hundredths, decimal remainder = [tenths, hundredths] ∧
      tenths.isDigit = true ∧ hundredths.isDigit = true ∧
      Nat.ofDigitChars 10 [tenths, hundredths] 0 = remainder.toNat) ∨
    (remainder < 10 ∧ ((∃ digit, decimal remainder = [digit]) ∨
      ∃ digits, decimal remainder = '-' :: digits)) := by
  by_cases negative : remainder < 0
  · exact .inr ⟨by omega, .inr ⟨_, if_pos negative⟩⟩
  · have isDigits : decimal remainder = Nat.toDigits 10 remainder.natAbs := if_neg negative
    have atMostTwo := @Nat.length_toDigits_le_iff 10 remainder.natAbs 2 (by omega) (by omega)
    have atMostOne := @Nat.length_toDigits_le_iff 10 remainder.natAbs 1 (by omega) (by omega)
    have some := @Nat.length_toDigits_pos 10 remainder.natAbs
    rw [isDigits]
    by_cases small : remainder < 10
    · exact .inr ⟨small, .inl (List.length_eq_one_iff.mp (by omega))⟩
    · obtain ⟨tenths, hundredths, two⟩ := List.length_eq_two.mp
        (show (Nat.toDigits 10 remainder.natAbs).length = 2 by omega)
      have digits := @digits_isDigit remainder.natAbs
      have number := @Nat.ofDigitChars_ten_toDigits remainder.natAbs
      rw [two] at digits number
      refine .inl ⟨by omega, tenths, hundredths, two, digits _ (by simp), digits _ (by simp), ?_⟩
      omega

theorem unsignedHundredths_text (quotient : Nat) {remainder : Int} (below : remainder < 100) :
    unsignedHundredths (Nat.toDigits 10 quotient ++ '.' :: (decimal remainder ++ ['\n'])) =
      if 10 ≤ remainder then some (100 * quotient + remainder.toNat) else none := by
  have stops : StopsDigits ('.' :: (decimal remainder ++ ['\n'])) := by
    intro c isHead
    cases Option.mem_some_iff.mp isHead
    rfl
  have number := magnitude_digits quotient stops
  have whole := takeWhile_digits (@digits_isDigit quotient) stops
  have rest : (Nat.toDigits 10 quotient ++ '.' :: (decimal remainder ++ ['\n'])).dropWhile
      Char.isDigit = '.' :: (decimal remainder ++ ['\n']) := by
    rw [List.dropWhile_append_of_pos digits_isDigit]
    rfl
  unfold unsignedHundredths
  rw [number, whole, rest]
  rcases decimal_fraction below with ⟨large, tenths, hundredths, text, digit, digit', hundred⟩ |
    ⟨small, ⟨digit, text⟩ | ⟨digits, text⟩⟩
  · rw [text, if_pos large, ← hundred]
    exact if_pos ⟨Nat.toDigits_ne_nil, digit, digit'⟩
  · rw [text, if_neg (by omega)]
    rfl
  · rw [text, if_neg (by omega)]
    split
    · rename_i equal
      have sign := (List.cons.inj (List.cons.inj equal).2).1
      rw [← sign]
      exact if_neg (by rintro ⟨_, digit, _⟩; exact absurd digit (by decide))
    · rfl

theorem readHundredths_minus (text : List Char) :
    readHundredths ('-' :: text) =
      (unsignedHundredths text).map fun number => -(number : Int) := rfl

theorem readHundredths_digit {text : List Char} (starts : ∃ c ∈ text.head?, c.isDigit = true) :
    readHundredths text = (unsignedHundredths text).map Int.ofNat := by
  obtain ⟨c, isHead, digit⟩ := starts
  unfold readHundredths
  split
  · cases Option.mem_some_iff.mp isHead
    exact absurd digit (by decide)
  · rfl

/-- Both conversions must print digits only, and the second one two of them. -/
theorem printsExactly_iff (temperature : Int32) :
    PrintsExactly temperature ↔ 0 ≤ temperature.toInt ∧ 10 ≤ temperature.toInt % 100 := by
  have fits := temperatureText_fits temperature
  obtain ⟨quotient, remainder, ⟨quotientIs, remainderIs, whole, below, above, nonneg, negative⟩⟩ :=
    parts temperature
  have text : temperatureText temperature =
      decimal quotient ++ '.' :: (decimal remainder ++ ['\n']) := by
    rw [temperatureText, quotientIs, remainderIs]
  have unsigned := unsignedHundredths_text quotient.natAbs below
  have read : readHundredths (temperatureText temperature) =
      if 10 ≤ remainder then some temperature.toInt else none := by
    by_cases minus : quotient < 0
    · have small : ¬ 10 ≤ remainder := by omega
      rw [if_neg small] at unsigned ⊢
      rw [text, decimal, if_pos minus, List.cons_append, readHundredths_minus, unsigned]
      rfl
    · rw [text, decimal, if_neg minus, readHundredths_digit (digits_head _ _), unsigned]
      split
      · have same : ((100 * quotient.natAbs + remainder.toNat : Nat) : Int) =
            temperature.toInt := by
          omega
        exact congrArg some same
      · rfl
  constructor
  · rintro ⟨_, denotes⟩
    rw [read] at denotes
    split at denotes
    · omega
    · cases denotes
  · rintro ⟨low, large⟩
    have signs := nonneg low
    exact ⟨fits, by rw [read, if_pos (by omega)]⟩

/-- One and a half degrees and one degree and five hundredths. -/
theorem not_printsExactly_five : ¬ ∀ temperature : Int32, PrintsExactly temperature := by
  intro all
  have text : temperatureText 105 = ['1', '.', '5', '\n'] := by decide
  have denotes := (all 105).denotes
  rw [text] at denotes
  cases denotes

/-- The stack from `out_string` upwards, a character for each byte. -/
abbrev Stack := Nat → Char

def nul : Char := Char.ofNat 0

/-- What is neither text nor terminator stays as it was. -/
def snprintf (size : Nat) (text : List Char) (stack : Stack) : Stack := fun index =>
  ((text.take (size - 1) ++ [nul])[index]?).getD (stack index)

/-- How `copy_to_user` ends: `left` bytes are not copied. -/
structure CopyToUser (count : Nat) where
  left : Nat
  bound : left ≤ count

structure DeviceRead where
  delivered : List Char
  result : Int

/-- A copy that failed is only logged. -/
def kDriverRead (temperature : Int32) (stack : Stack) (count : Nat) (copy : CopyToUser count) :
    DeviceRead :=
  let outString := snprintf outSize (temperatureText temperature) stack
  { delivered := (List.range (count - copy.left)).map outString, result := count }

structure DisclosesText (temperature : Int32) (count : Nat) (copy : CopyToUser count) : Prop where
  ownBytes : ∀ stack, (kDriverRead temperature stack count copy).delivered <+:
    temperatureText temperature
  sameBytes : ∀ stack stack', (kDriverRead temperature stack count copy).delivered =
    (kDriverRead temperature stack' count copy).delivered
  counted : copy.left = 0 → ∀ stack, (kDriverRead temperature stack count copy).result =
    (kDriverRead temperature stack count copy).delivered.length
  failed : copy.left ≠ 0 → ∀ stack, (kDriverRead temperature stack count copy).result < 0

section

variable (temperature : Int32) (stack : Stack) {count : Nat} (copy : CopyToUser count)

/-- The text fits, so it is never cut. -/
theorem snprintf_text (index : Nat) :
    snprintf outSize (temperatureText temperature) stack index =
      ((temperatureText temperature ++ [nul])[index]?).getD (stack index) := by
  have fits := temperatureText_fits temperature
  rw [snprintf, List.take_of_length_le (by omega)]

theorem delivered_length :
    (kDriverRead temperature stack count copy).delivered.length = count - copy.left := by
  rw [kDriverRead, List.length_map, List.length_range]

theorem delivered_getElem {index : Nat} (inside : index < count - copy.left) :
    (kDriverRead temperature stack count copy).delivered[index]? =
      some (((temperatureText temperature ++ [nul])[index]?).getD (stack index)) := by
  rw [kDriverRead, List.getElem?_map, List.getElem?_range inside, Option.map_some, snprintf_text]

/-- Up to the text's length its own characters are delivered. -/
theorem delivered_text (short : count - copy.left ≤ (temperatureText temperature).length) :
    (kDriverRead temperature stack count copy).delivered =
      (temperatureText temperature).take (count - copy.left) := by
  refine List.ext_getElem? ?_
  intro index
  by_cases inside : index < count - copy.left
  · have own : index < (temperatureText temperature).length := by omega
    rw [delivered_getElem temperature stack copy inside, List.getElem?_append_left own,
      List.getElem?_take_of_lt inside, List.getElem?_eq_getElem own, Option.getD_some]
  · have beyond := delivered_length temperature stack copy
    rw [List.getElem?_eq_none (by omega),
      List.getElem?_eq_none (by rw [List.length_take]; omega)]

end

/-- Behind the terminator every byte is the stack's. -/
theorem delivered_same_iff (temperature : Int32) {count : Nat} (copy : CopyToUser count) :
    (∀ stack stack', (kDriverRead temperature stack count copy).delivered =
      (kDriverRead temperature stack' count copy).delivered) ↔
        count - copy.left ≤ (temperatureText temperature).length + 1 := by
  constructor
  · intro same
    by_cases inside : (temperatureText temperature).length + 1 < count - copy.left
    · have last := congrArg
        (fun bytes : List Char => bytes[(temperatureText temperature).length + 1]?)
        (same (fun _ => 'a') (fun _ => 'b'))
      have outside : (temperatureText temperature ++ [nul])[
          (temperatureText temperature).length + 1]? = none :=
        List.getElem?_eq_none (by rw [List.length_append, List.length_singleton])
      simp only [delivered_getElem temperature _ copy inside, outside, Option.getD_none] at last
      exact absurd (Option.some.inj last) (by decide)
    · omega
  · intro short stack stack'
    refine List.ext_getElem? ?_
    intro index
    by_cases inside : index < count - copy.left
    · have own : index < (temperatureText temperature ++ [nul]).length := by
        rw [List.length_append, List.length_singleton]
        omega
      rw [delivered_getElem temperature stack copy inside,
        delivered_getElem temperature stack' copy inside, List.getElem?_eq_getElem own,
        Option.getD_some, Option.getD_some]
    · have first := delivered_length temperature stack copy
      have second := delivered_length temperature stack' copy
      rw [List.getElem?_eq_none (by omega), List.getElem?_eq_none (by omega)]

/-- No more may be asked for than the text has, and everything must be copied. -/
theorem disclosesText_iff (temperature : Int32) (count : Nat) (copy : CopyToUser count) :
    DisclosesText temperature count copy ↔
      count ≤ (temperatureText temperature).length ∧ copy.left = 0 := by
  constructor
  · intro discloses
    have copied : copy.left = 0 := by
      by_cases all : copy.left = 0
      · exact all
      · have result : (count : Int) < 0 := discloses.failed all fun _ => nul
        omega
    have length := (discloses.ownBytes fun _ => nul).length_le
    rw [delivered_length] at length
    exact ⟨by omega, copied⟩
  · rintro ⟨short, copied⟩
    have text := fun stack => delivered_text temperature stack copy (by omega)
    refine ⟨?_, ?_, ?_, ?_⟩
    · intro stack
      rw [text stack]
      exact List.take_prefix _ _
    · intro stack stack'
      rw [text stack, text stack']
    · intro _ stack
      have length := delivered_length temperature stack copy
      rw [length, copied]
      rfl
    · intro failed
      exact absurd copied failed

/-- A read of 20 bytes of a text of 5 delivers 14 bytes of the stack. -/
theorem not_disclosesText_whole :
    ¬ ∀ (temperature : Int32) (count : Nat) (copy : CopyToUser count),
      DisclosesText temperature count copy := by
  intro all
  have same := (all 2500 20 ⟨0, by decide⟩).sameBytes
  have short := (delivered_same_iff 2500 ⟨0, by decide⟩).mp same
  have text : temperatureText 2500 = ['2', '5', '.', '0', '\n'] := by decide
  rw [text] at short
  exact absurd short (by decide)

end ToySystem.Drivers.SensorRead
