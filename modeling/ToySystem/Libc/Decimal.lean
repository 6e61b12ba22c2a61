import Mathlib.Data.List.TakeWhile
import Mathlib.Algebra.Ring.Int.Defs
import Mathlib.Algebra.Ring.Nat

namespace ToySystem.Libc

/-! Decimal numbers in text: what `%d` prints and what `atoi` reads.

Texts are lists of characters without the terminating `NUL`.  `atoi` is glibc's,
`(int) strtol(nptr, NULL, 10)` with a `long` of 64 bits.
-/

def decimal (value : Int) : List Char :=
  if value < 0 then '-' :: Nat.toDigits 10 value.natAbs else Nat.toDigits 10 value.natAbs

def isSpace (c : Char) : Bool := c == ' ' || (9 ≤ c.toNat && c.toNat ≤ 13)

def longMin : Int := -2 ^ 63
def longMax : Int := 2 ^ 63 - 1

def magnitude (text : List Char) : Nat := Nat.ofDigitChars 10 (text.takeWhile Char.isDigit) 0

/-- A number out of range becomes the nearest `long`. -/
def strtol (text : List Char) : Int :=
  match text.dropWhile isSpace with
  | '-' :: digits => max longMin (-(magnitude digits : Int))
  | '+' :: digits => min longMax (magnitude digits : Int)
  | digits => min longMax (magnitude digits : Int)

def atoi (text : List Char) : Int32 := Int32.ofInt (strtol text)

def StopsDigits (rest : List Char) : Prop := ∀ c ∈ rest.head?, c.isDigit = false

theorem digits_isDigit {n : Nat} : ∀ c ∈ Nat.toDigits 10 n, c.isDigit = true :=
  fun _ member => Nat.isDigit_of_mem_toDigits (by omega) (by omega) member

theorem isDigit_range {c : Char} (digit : c.isDigit = true) : 48 ≤ c.toNat ∧ c.toNat ≤ 57 := by
  simpa [Char.isDigit, UInt32.le_iff_toNat_le] using digit

theorem isDigit_plain {c : Char} (digit : c.isDigit = true) :
    isSpace c = false ∧ c ≠ '-' ∧ c ≠ '+' := by
  obtain ⟨low, high⟩ := isDigit_range digit
  have notBlank : c ≠ ' ' := by
    rintro rfl
    exact absurd low (by decide)
  refine ⟨?_, ?_, ?_⟩
  · simp only [isSpace, Bool.or_eq_false_iff, Bool.and_eq_false_iff, beq_eq_false_iff_ne,
      decide_eq_false_iff_not]
    exact ⟨notBlank, .inr (by omega)⟩
  · rintro rfl
    exact absurd low (by decide)
  · rintro rfl
    exact absurd low (by decide)

theorem takeWhile_digits {digits rest : List Char} (all : ∀ c ∈ digits, c.isDigit = true)
    (stops : StopsDigits rest) : (digits ++ rest).takeWhile Char.isDigit = digits := by
  have none : rest.takeWhile Char.isDigit = [] := by
    cases rest with
    | nil => rfl
    | cons c rest => simp [stops c (by simp)]
  rw [List.takeWhile_append_of_pos all, none, List.append_nil]

theorem magnitude_append {digits rest : List Char} (all : ∀ c ∈ digits, c.isDigit = true)
    (stops : StopsDigits rest) : magnitude (digits ++ rest) = Nat.ofDigitChars 10 digits 0 := by
  rw [magnitude, takeWhile_digits all stops]

theorem magnitude_digits (n : Nat) {rest : List Char} (stops : StopsDigits rest) :
    magnitude (Nat.toDigits 10 n ++ rest) = n := by
  rw [magnitude_append digits_isDigit stops, Nat.ofDigitChars_ten_toDigits]

theorem ofDigitChars_lt {digits : List Char} (all : ∀ c ∈ digits, c.isDigit = true) :
    Nat.ofDigitChars 10 digits 0 < 10 ^ digits.length := by
  induction digits with
  | nil => simp
  | cons first digits ih =>
      rw [List.forall_mem_cons] at all
      obtain ⟨_, high⟩ := isDigit_range all.1
      have later := ih all.2
      have digit : first.toNat - '0'.toNat ≤ 9 := Nat.sub_le_of_le_add high
      have scaled := Nat.mul_le_mul_left (10 ^ digits.length) digit
      rw [Nat.ofDigitChars_cons, Nat.ofDigitChars_eq_ofDigitChars_zero, List.length_cons,
        Nat.pow_succ, Nat.mul_zero, Nat.zero_add]
      omega

theorem strtol_minus (text : List Char) :
    strtol ('-' :: text) = max longMin (-(magnitude text : Int)) := rfl

theorem strtol_digits (text : List Char) (starts : ∃ c ∈ text.head?, c.isDigit = true) :
    strtol text = min longMax (magnitude text : Int) := by
  obtain ⟨c, isHead, digit⟩ := starts
  cases text with
  | nil => simp at isHead
  | cons first text =>
      have same : first = c := by simpa using isHead
      subst same
      obtain ⟨notSpace, notMinus, notPlus⟩ := isDigit_plain digit
      unfold strtol
      rw [List.dropWhile_cons_of_neg (by simp [notSpace])]
      split
      · rename_i equal
        exact absurd (List.cons.inj equal).1 notMinus
      · rename_i equal
        exact absurd (List.cons.inj equal).1 notPlus
      · rfl

theorem digits_head (n : Nat) (rest : List Char) :
    ∃ c ∈ (Nat.toDigits 10 n ++ rest).head?, c.isDigit = true := by
  cases shape : Nat.toDigits 10 n with
  | nil => exact absurd shape Nat.toDigits_ne_nil
  | cons c digits =>
      have member : c ∈ Nat.toDigits 10 n := by
        rw [shape]
        exact List.mem_cons_self
      exact ⟨c, rfl, digits_isDigit c member⟩

theorem strtol_decimal (value : Int) (low : longMin ≤ value) (high : value ≤ longMax)
    {rest : List Char} (stops : StopsDigits rest) : strtol (decimal value ++ rest) = value := by
  unfold decimal
  split
  · rw [List.cons_append, strtol_minus, magnitude_digits _ stops]
    omega
  · rw [strtol_digits _ (digits_head _ _), magnitude_digits _ stops]
    omega

theorem decimal_injective {first second : Int} (firstLow : longMin ≤ first)
    (firstHigh : first ≤ longMax) (secondLow : longMin ≤ second) (secondHigh : second ≤ longMax)
    (same : decimal first = decimal second) : first = second := by
  have ends : StopsDigits [] := by simp [StopsDigits]
  have readFirst := strtol_decimal first firstLow firstHigh ends
  have readSecond := strtol_decimal second secondLow secondHigh ends
  rw [same] at readFirst
  exact readFirst.symm.trans readSecond

theorem decimal_length_le_iff (value : Int) {width : Nat} (positive : 0 < width) :
    (decimal value).length ≤ width + 1 ↔ -10 ^ width < value ∧ value < 10 ^ (width + 1) := by
  have power : (0 : Int) < 10 ^ width := Int.pow_pos (by omega)
  have higher : (0 : Int) < 10 ^ (width + 1) := Int.pow_pos (by omega)
  unfold decimal
  split
  · rw [List.length_cons, Nat.add_le_add_iff_right, Nat.length_toDigits_le_iff (by omega) positive]
    have same : value.natAbs < 10 ^ width ↔ (value.natAbs : Int) < 10 ^ width := by
      exact_mod_cast Iff.rfl
    omega
  · rw [Nat.length_toDigits_le_iff (by omega) (by omega)]
    have same : value.natAbs < 10 ^ (width + 1) ↔ (value.natAbs : Int) < 10 ^ (width + 1) := by
      exact_mod_cast Iff.rfl
    omega

/-- Behind its first character the text has digits only. -/
theorem decimal_drop_isDigit (value : Int) {count : Nat} (positive : 0 < count) :
    ∀ c ∈ (decimal value).drop count, c.isDigit = true := by
  obtain ⟨count, rfl⟩ := Nat.exists_eq_add_of_lt positive
  intro c member
  unfold decimal at member
  split at member
  · rw [Nat.zero_add, List.drop_succ_cons] at member
    exact digits_isDigit c (List.mem_of_mem_drop member)
  · exact digits_isDigit c (List.mem_of_mem_drop member)

theorem decimal_length (value : Int32) : (decimal value.toInt).length ≤ 11 := by
  have low := Int32.le_toInt value
  have high := Int32.toInt_lt value
  have digits : (Nat.toDigits 10 value.toInt.natAbs).length ≤ 10 := by
    rw [Nat.length_toDigits_le_iff (by omega) (by omega)]
    omega
  unfold decimal
  split
  · rw [List.length_cons]
    omega
  · omega

theorem atoi_decimal (value : Int32) {rest : List Char} (stops : StopsDigits rest) :
    atoi (decimal value.toInt ++ rest) = value := by
  have low := Int32.le_toInt value
  have high := Int32.toInt_lt value
  rw [atoi, strtol_decimal value.toInt _ _ stops, Int32.ofInt_toInt]
  · unfold longMin
    omega
  · unfold longMax
    omega

end ToySystem.Libc
