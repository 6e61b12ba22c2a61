import Mathlib.Data.List.Induction
import ToySystem.Data.Json
import ToySystem.Libc.Decimal

namespace ToySystem.Data.Json

open ToySystem.Libc

/-! # Whole numbers in JSON

A natural number is written with its decimal digits.  A reader with unsigned
integers takes the digits back as they are; a reader with doubles keeps 53 bits.
-/

def natural (value : Nat) : Json := .number (Nat.toDigits 10 value)

/-- The value of a literal that consists of digits. -/
def digitsValue (literal : List Char) : Option Nat :=
  if literal ≠ [] ∧ literal.all Char.isDigit then some (Nat.ofDigitChars 10 literal 0) else none

theorem digitsValue_toDigits (value : Nat) : digitsValue (Nat.toDigits 10 value) = some value := by
  have digits : (Nat.toDigits 10 value).all Char.isDigit = true :=
    List.all_eq_true.mpr digits_isDigit
  rw [digitsValue, if_pos ⟨Nat.toDigits_ne_nil, digits⟩, Nat.ofDigitChars_ten_toDigits]

theorem run_whole {digits : List Char} (all : ∀ c ∈ digits, c.isDigit = true) :
    run NumberState.next .whole digits = some .whole := by
  induction digits with
  | nil => rfl
  | cons c rest ih =>
      rw [List.forall_mem_cons] at all
      have stays : NumberState.next .whole c = some .whole := by
        simp [NumberState.next, all.1]
      rw [run_cons stays, ih all.2]

/-- Only the number zero begins with the digit zero. -/
theorem toDigits_head {value : Nat} (positive : 0 < value) :
    ∃ c rest, Nat.toDigits 10 value = c :: rest ∧ c ≠ '0' := by
  induction value using Nat.strongRecOn with
  | ind value ih =>
      by_cases small : value < 10
      · have first : ∀ digit < 10, 0 < digit → digit.digitChar ≠ '0' := by decide
        exact ⟨_, [], Nat.toDigits_of_lt_base small, first value small positive⟩
      · obtain ⟨c, rest, higher, notZero⟩ := ih (value / 10) (by omega) (by omega)
        have split : Nat.toDigits 10 value =
            Nat.toDigits 10 (value / 10) ++ [(value % 10).digitChar] := by
          rw [Nat.toDigits_of_base_le (by decide) (by omega)]
        exact ⟨c, rest ++ [(value % 10).digitChar], by rw [split, higher, List.cons_append], notZero⟩

theorem isNumber_toDigits (value : Nat) : isNumber (Nat.toDigits 10 value) = true := by
  cases value with
  | zero => rfl
  | succ value =>
      obtain ⟨c, rest, digits, notZero⟩ := toDigits_head (Nat.succ_pos value)
      have all : ∀ digit ∈ c :: rest, digit.isDigit = true := by
        rw [← digits]
        exact digits_isDigit
      rw [List.forall_mem_cons] at all
      have started : NumberState.start c = some .whole := by
        have notMinus : c ≠ '-' := (isDigit_plain all.1).2.1
        simp [NumberState.start, notMinus, notZero, all.1]
      rw [digits, isNumber, started, Option.bind_some, run_whole all.2]
      rfl

theorem natural_readable (limit level value : Nat) : Readable limit level (natural value) :=
  .number (isNumber_toDigits value)

theorem isDigit_digitChar {c : Char} (digit : c.isDigit = true) :
    c.toNat - 48 < 10 ∧ (c.toNat - 48).digitChar = c := by
  obtain ⟨low, high⟩ := isDigit_range digit
  have small : c.toNat - 48 < 10 := by omega
  refine ⟨small, ?_⟩
  apply Char.toNat_inj.mp
  have code : ∀ value < 10, value.digitChar.toNat = value + 48 := by decide
  rw [code _ small]
  omega

theorem toDigits_ofDigitChars {c : Char} {rest : List Char} (notZero : c ≠ '0')
    (all : ∀ digit ∈ c :: rest, digit.isDigit = true) :
    Nat.toDigits 10 (Nat.ofDigitChars 10 (c :: rest) 0) = c :: rest := by
  induction rest using List.reverseRecOn with
  | nil =>
      obtain ⟨small, same⟩ := isDigit_digitChar (all c (by simp))
      have value : Nat.ofDigitChars 10 [c] 0 = c.toNat - 48 := by simp [Nat.ofDigitChars]
      rw [value, Nat.toDigits_of_lt_base small, same]
  | append_singleton rest last ih =>
      have higher := ih fun digit member => all digit (by
        rw [← List.cons_append]
        exact List.mem_append_left _ member)
      obtain ⟨small, same⟩ := isDigit_digitChar (all last (by simp))
      have value : Nat.ofDigitChars 10 (c :: (rest ++ [last])) 0 =
          10 * Nat.ofDigitChars 10 (c :: rest) 0 + (last.toNat - 48) := by
        rw [← List.cons_append, Nat.ofDigitChars_append]
        simp [Nat.ofDigitChars]
      have positive : Nat.ofDigitChars 10 (c :: rest) 0 ≠ 0 := by
        intro zero
        rw [zero] at higher
        exact notZero (List.cons.inj higher).1.symm
      rw [value, ← Nat.toDigits_append_toDigits (by decide) (by omega) small, higher,
        Nat.toDigits_of_lt_base small, same, List.cons_append]

/-- A number that consists of digits is written in the one way that numbers are. -/
theorem toDigits_digitsValue {literal : List Char} {value : Nat} (valid : isNumber literal = true)
    (digits : digitsValue literal = some value) : literal = Nat.toDigits 10 value := by
  simp only [digitsValue, Option.ite_none_right_eq_some, Option.some.injEq] at digits
  obtain ⟨⟨_, all⟩, rfl⟩ := digits
  rw [List.all_eq_true] at all
  cases literal with
  | nil => cases valid
  | cons c rest =>
      by_cases zero : c = '0'
      · subst zero
        -- No digit follows a leading zero.
        cases rest with
        | nil => rfl
        | cons next rest =>
            have stops : NumberState.next .zero next = none := by
              have digit := isDigit_range (all next (by simp))
              have other : next ≠ '.' ∧ next ≠ 'e' ∧ next ≠ 'E' := by
                refine ⟨?_, ?_, ?_⟩ <;> rintro rfl <;> revert digit <;> decide
              simp [NumberState.next, other]
            have started : NumberState.start '0' = some .zero := rfl
            simp [isNumber, started, run, stops] at valid
      · exact (toDigits_ofDigitChars zero all).symm

/-- The double nearest to a natural number; of two that are equally near, the even one. -/
def double (value : Nat) : Nat :=
  let unit := 2 ^ (value.log2 - 52)
  let count := value / unit
  let rest := value % unit
  if 2 * rest < unit ∨ 2 * rest = unit ∧ count % 2 = 0 then count * unit else (count + 1) * unit

theorem double_of_lt {value : Nat} (small : value < 2 ^ 53) : double value = value := by
  have noShift : value.log2 - 52 = 0 := by
    by_cases zero : value = 0
    · subst zero
      rfl
    · have bits : value.log2 < 53 := (Nat.log2_lt zero).mpr small
      omega
  simp [double, noShift, Nat.mod_one]

theorem le_double {value : Nat} (large : 2 ^ 53 ≤ value) : 2 ^ 53 ≤ double value := by
  have nonzero : value ≠ 0 := by omega
  have bits : 53 ≤ value.log2 := (Nat.le_log2 nonzero).mpr large
  obtain ⟨shift, shifted⟩ := Nat.exists_eq_add_of_le bits
  have exponent : value.log2 - 52 = shift + 1 := by omega
  have low : 2 ^ 52 * 2 ^ (shift + 1) ≤ value := by
    rw [← Nat.pow_add]
    have top := Nat.log2_self_le nonzero
    rwa [shifted, show 53 + shift = 52 + (shift + 1) by omega] at top
  have count : 2 ^ 52 ≤ value / 2 ^ (shift + 1) :=
    (Nat.le_div_iff_mul_le (Nat.two_pow_pos _)).mpr low
  have unit : 2 ≤ 2 ^ (shift + 1) := by
    rw [Nat.pow_succ]
    have := Nat.two_pow_pos shift
    omega
  have rounded (kept : Nat) (enough : 2 ^ 52 ≤ kept) : 2 ^ 53 ≤ kept * 2 ^ (shift + 1) :=
    calc 2 ^ 53 = 2 ^ 52 * 2 := by rw [← Nat.pow_succ]
      _ ≤ kept * 2 ^ (shift + 1) := Nat.mul_le_mul enough unit
  unfold double
  rw [exponent]
  dsimp only
  split
  · exact rounded _ count
  · exact rounded _ (by omega)

/-- No two numbers are confused if one of them has at most 53 bits. -/
theorem double_eq_iff {value small : Nat} (bound : small < 2 ^ 53) :
    double value = double small ↔ value = small := by
  rw [double_of_lt bound]
  constructor
  · intro same
    by_cases large : 2 ^ 53 ≤ value
    · have := le_double large
      omega
    · rwa [double_of_lt (Nat.lt_of_not_le large)] at same
  · rintro rfl
    exact double_of_lt bound

example : double (2 ^ 53 + 1) = double (2 ^ 53) := by decide

end ToySystem.Data.Json
