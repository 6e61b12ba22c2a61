import ToySystem.Drivers.Sensor

namespace ToySystem.Drivers.SensorStore

open ToySystem.Drivers.Sensor ToySystem.Libc

/-! # Writing to the sensor driver's attributes

`store` of `drivers/sensor/sensor.c` under the loop with which user space writes a
whole text to an attribute.
-/

inductive Attr where
  | notify
  | trigger
deriving DecidableEq

def value (attrs : TempAttrs) : Attr → Int32
  | .notify => attrs.notify
  | .trigger => attrs.trigger

def assign (attrs : TempAttrs) (attr : Attr) (value : Int32) : TempAttrs :=
  match attr with
  | .notify => { attrs with notify := value }
  | .trigger => { attrs with trigger := value }

@[simp] theorem value_assign (attrs : TempAttrs) (attr : Attr) (written : Int32) :
    value (assign attrs attr written) attr = written := by
  cases attr <;> rfl

/-- The kernel's `skip_spaces`: the no-break space is a space too. -/
def skipSpaces (text : List Char) : List Char :=
  text.dropWhile fun c => isSpace c || c.toNat == 160

def startsDigit (text : List Char) : Bool := text.head?.any Char.isDigit

/-- `sscanf(buf, "%d", &value)` in the kernel: only a minus is a sign, the number is
cut to an `int`, and without a digit nothing is assigned. -/
def sscanfInt (text : List Char) : Option Int32 :=
  match skipSpaces text with
  | '-' :: digits =>
      if startsDigit digits then some (Int32.ofInt (-(magnitude digits : Int))) else none
  | digits => if startsDigit digits then some (Int32.ofInt (magnitude digits : Int)) else none

def sizeofInt : Nat := 4

/-- The number of bytes that `store` reports, and what it leaves. -/
def store (attr : Attr) (buf : List Char) (attrs : TempAttrs) : Nat × TempAttrs :=
  (sizeofInt, assign attrs attr ((sscanfInt buf).getD (value attrs attr)))

/-- The loop of user space: what a write did not take is written again.  There is
no result when a write reports more than it was given. -/
def writeAll (attr : Attr) (text : List Char) (attrs : TempAttrs) : Option TempAttrs :=
  match text with
  | [] => some attrs
  | first :: rest =>
      let stored := store attr (first :: rest) attrs
      if (first :: rest).length < stored.1 then none
      else writeAll attr ((first :: rest).drop stored.1) stored.2
termination_by text.length
decreasing_by
  simp only [store, sizeofInt, List.length_drop, List.length_cons]
  omega

/-- Writing a number's text succeeds, and the attribute shows that text then. -/
def KeepsWritten (attr : Attr) (attrs : TempAttrs) (written : Int32) : Prop :=
  ∃ after, writeAll attr (showAttr written) attrs = some after ∧
    showAttr (value after attr) = showAttr written

theorem sscanfInt_digits {digits rest : List Char} (nonempty : digits ≠ [])
    (all : ∀ c ∈ digits, c.isDigit = true) (stops : StopsDigits rest) :
    sscanfInt (digits ++ rest) = some (Int32.ofInt (Nat.ofDigitChars 10 digits 0 : Int)) := by
  have magnitudeIs := magnitude_append all stops
  cases digits with
  | nil => exact absurd rfl nonempty
  | cons first digits =>
      have digit := all first List.mem_cons_self
      obtain ⟨_, high⟩ := isDigit_range digit
      obtain ⟨plain, notMinus, _⟩ := isDigit_plain digit
      have notSpace : (isSpace first || first.toNat == 160) = false := by
        rw [plain, Bool.false_or, beq_eq_false_iff_ne]
        omega
      have skipped : skipSpaces (first :: digits ++ rest) = first :: digits ++ rest := by
        rw [skipSpaces, List.cons_append, List.dropWhile_cons_of_neg (by simp [notSpace])]
      have starts : startsDigit (first :: digits ++ rest) = true := digit
      rw [sscanfInt, skipped]
      split
      · rename_i equal
        exact absurd (List.cons.inj equal).1 notMinus
      · rw [if_pos starts, magnitudeIs]

theorem sscanfInt_decimal (written : Int32) {rest : List Char} (stops : StopsDigits rest) :
    sscanfInt (decimal written.toInt ++ rest) = some written := by
  unfold decimal
  split
  · have starts : startsDigit (Nat.toDigits 10 written.toInt.natAbs ++ rest) = true := by
      obtain ⟨c, isHead, digit⟩ := digits_head written.toInt.natAbs rest
      rw [startsDigit, Option.any_eq_true]
      exact ⟨c, isHead, digit⟩
    have scanned : sscanfInt ('-' :: (Nat.toDigits 10 written.toInt.natAbs ++ rest)) =
        some (Int32.ofInt (-(written.toInt.natAbs : Int))) := by
      have read := magnitude_digits written.toInt.natAbs stops
      have skipped : sscanfInt ('-' :: (Nat.toDigits 10 written.toInt.natAbs ++ rest)) =
          if startsDigit (Nat.toDigits 10 written.toInt.natAbs ++ rest) then
            some (Int32.ofInt
              (-(magnitude (Nat.toDigits 10 written.toInt.natAbs ++ rest) : Int)))
          else none := rfl
      rw [skipped, if_pos starts, read]
    have same : -(written.toInt.natAbs : Int) = written.toInt := by omega
    rw [List.cons_append, scanned, same, Int32.ofInt_toInt]
  · rw [sscanfInt_digits Nat.toDigits_ne_nil digits_isDigit stops, Nat.ofDigitChars_ten_toDigits]
    have same : (written.toInt.natAbs : Int) = written.toInt := by omega
    rw [same, Int32.ofInt_toInt]

section

variable (attr : Attr)

theorem writeAll_short {text : List Char} (attrs : TempAttrs) (nonempty : text ≠ [])
    (short : text.length < sizeofInt) : writeAll attr text attrs = none := by
  cases text with
  | nil => exact absurd rfl nonempty
  | cons first rest =>
      have told : (store attr (first :: rest) attrs).1 = sizeofInt := rfl
      rw [writeAll, told, if_pos short]

theorem writeAll_step {text : List Char} (attrs : TempAttrs) (long : sizeofInt ≤ text.length) :
    writeAll attr text attrs = writeAll attr (text.drop sizeofInt) (store attr text attrs).2 := by
  cases text with
  | nil => exact absurd long (by decide)
  | cons first rest =>
      have told : (store attr (first :: rest) attrs).1 = sizeofInt := rfl
      rw [writeAll, told, if_neg (Nat.not_lt.mpr long)]

/-- Every write takes an `int`'s size, so the text must be made of such pieces. -/
theorem length_mod_of_writeAll {text : List Char} {attrs after : TempAttrs}
    (written : writeAll attr text attrs = some after) : text.length % sizeofInt = 0 := by
  induction text, attrs using writeAll.induct attr with
  | case1 attrs => rfl
  | case2 attrs first rest stored short =>
      rw [writeAll, if_pos short] at written
      cases written
  | case3 attrs first rest stored long ih =>
      rw [writeAll, if_neg long] at written
      have later := ih written
      simp only [stored, store, sizeofInt, List.length_drop] at long later ⊢
      omega

/-- The last piece alone is read in the last write. -/
theorem writeAll_last {count : Nat} {text : List Char} (attrs : TempAttrs)
    (length : text.length = sizeofInt * (count + 1)) :
    ∃ before, writeAll attr text attrs =
      some (store attr (text.drop (sizeofInt * count)) before).2 := by
  induction count generalizing text attrs with
  | zero =>
      have none : text.drop sizeofInt = [] := List.drop_eq_nil_of_le (by omega)
      exact ⟨attrs, by rw [writeAll_step attr attrs (by omega), none, writeAll]; rfl⟩
  | succ count ih =>
      have shorter : (text.drop sizeofInt).length = sizeofInt * (count + 1) := by
        rw [List.length_drop, length, Nat.mul_succ sizeofInt (count + 1), Nat.add_sub_cancel]
      obtain ⟨before, written⟩ := ih (store attr text attrs).2 shorter
      refine ⟨before, ?_⟩
      rw [writeAll_step attr attrs (by rw [length]; exact Nat.le_mul_of_pos_right _ (by omega)),
        written, List.drop_drop, Nat.mul_succ sizeofInt count, Nat.add_comm]

end

theorem showAttr_long {written : Int32} {count : Nat}
    (length : (showAttr written).length = sizeofInt * (count + 2)) :
    ∃ read : Nat, read < 1000 ∧
      sscanfInt ((showAttr written).drop (sizeofInt * (count + 1))) =
        some (Int32.ofInt (read : Int)) := by
  have total : (decimal written.toInt).length + 1 = sizeofInt * (count + 2) := by
    rw [← length, showAttr, List.length_append, List.length_singleton]
  have piece : ((decimal written.toInt).drop (sizeofInt * (count + 1))).length = 3 := by
    rw [List.length_drop]
    simp only [sizeofInt] at total ⊢
    omega
  have digits := decimal_drop_isDigit written.toInt
    (show 0 < sizeofInt * (count + 1) from Nat.mul_pos (by decide) (by omega))
  have inside : sizeofInt * (count + 1) ≤ (decimal written.toInt).length := by
    rw [List.length_drop] at piece
    omega
  have below := ofDigitChars_lt digits
  rw [piece] at below
  refine ⟨_, below, ?_⟩
  rw [showAttr, List.drop_append_of_le_length inside]
  refine sscanfInt_digits ?_ digits stopsDigits_newline
  intro none
  rw [none] at piece
  cases piece

/-- A number is kept exactly when its text and the newline are as long as an `int`. -/
theorem keepsWritten_iff (attr : Attr) (attrs : TempAttrs) (written : Int32) :
    KeepsWritten attr attrs written ↔
      100 ≤ written.toInt ∧ written.toInt ≤ 999 ∨ -99 ≤ written.toInt ∧ written.toInt ≤ -10 := by
  have length : (showAttr written).length = (decimal written.toInt).length + 1 := by
    rw [showAttr, List.length_append, List.length_singleton]
  have atMostThree := @decimal_length_le_iff written.toInt 2 (by omega)
  have atMostTwo := @decimal_length_le_iff written.toInt 1 (by omega)
  have bound := decimal_length written
  constructor
  · rintro ⟨after, ran, shown⟩
    have pieces := length_mod_of_writeAll attr ran
    rw [length, sizeofInt] at pieces
    have kept := showAttr_injective shown
    by_cases three : (showAttr written).length = sizeofInt * (0 + 1)
    · rw [length, sizeofInt] at three
      omega
    · obtain ⟨count, long⟩ : ∃ count, (showAttr written).length = sizeofInt * (count + 2) := by
        refine ⟨(showAttr written).length / 4 - 2, ?_⟩
        rw [length, sizeofInt] at three ⊢
        omega
      obtain ⟨before, last⟩ := writeAll_last attr attrs long
      obtain ⟨read, small, scanned⟩ := showAttr_long long
      -- what the last piece leaves is a number of three digits, the number written is not
      have left : value after attr = Int32.ofInt read := by
        rw [last] at ran
        cases ran
        rw [store, value_assign, scanned, Option.getD_some]
      have same : written.toInt = read := by
        rw [← kept, left, Int32.toInt_ofInt_of_le (by omega) (by omega)]
      rw [length, sizeofInt] at long
      omega
  · intro range
    have three : (showAttr written).length = sizeofInt * (0 + 1) := by
      rw [length, sizeofInt]
      omega
    obtain ⟨before, ran⟩ := writeAll_last attr attrs three
    refine ⟨_, ran, ?_⟩
    have read : sscanfInt (showAttr written) = some written :=
      sscanfInt_decimal written stopsDigits_newline
    rw [Nat.mul_zero, List.drop_zero, store, value_assign, read, Option.getD_some]

/-- A single digit and the newline are two bytes, and four are reported. -/
theorem not_keepsWritten_digit :
    ¬ ∀ (attr : Attr) (attrs : TempAttrs) (written : Int32), KeepsWritten attr attrs written := by
  intro all
  obtain ⟨after, ran, _⟩ := all .trigger { notify := 0, trigger := 0 } 5
  have text : showAttr 5 = ['5', '\n'] := by decide
  rw [text, writeAll_short .trigger _ (List.cons_ne_nil _ _) (by decide)] at ran
  cases ran

end ToySystem.Drivers.SensorStore
