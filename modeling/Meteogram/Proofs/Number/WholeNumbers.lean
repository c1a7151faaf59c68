import Meteogram.Ini.Value
import Meteogram.Proofs.Number.RealText
import Meteogram.Proofs.Text.Identifier

/-!
# Whole numbers as they are written

A whole number is written as a sign, which may be missing, and ASCII digits
(`Numeral`). The readers of numbers and of settings take it for the number that its
digits stand for, as long as there are no more than `maxDigits` of them; the text of
a longer one is no whole number (`readInt?_text`).
-/

set_option autoImplicit false

namespace Meteogram.Number

open Meteogram.Text

/-! ## Digits -/

theorem decimalValue?_of_isDigit {c : Char} (digit : c.isDigit = true) :
    decimalValue? c = some (c.toNat - 48) := by
  have ascii : c.toNat < 128 := by
    have := (isDigit_iff c).1 digit
    omega
  rw [decimalValue?, if_pos ascii, if_pos digit]

theorem isDigitOrBar_of_isDigit {c : Char} (digit : c.isDigit = true) : isDigitOrBar c = true := by
  rw [isDigitOrBar, decimalValue?_of_isDigit digit]
  rfl

theorem digitsOfRun?_of_digits {run : List Char} (notEmpty : run ≠ [])
    (digits : ∀ c ∈ run, c.isDigit = true) :
    digitsOfRun? run = some (run.map fun c => c.toNat - 48) := by
  have noBar : '_' ∉ run := fun member => absurd (digits _ member) (by decide)
  have values : run.filterMap decimalValue? = run.map fun c => c.toNat - 48 := by
    rw [← List.filterMap_eq_map]
    exact List.filterMap_congr fun c member => decimalValue?_of_isDigit (digits c member)
  rw [digitsOfRun?, fieldsOf_of_not_mem noBar, values]
  simp [notEmpty]

/-- The character of a digit. -/
def digitChar (digit : Fin 10) : Char :=
  Char.ofNat (48 + digit)

theorem decimalValue?_digitChar (digit : Fin 10) :
    decimalValue? (digitChar digit) = some digit.val := by
  revert digit
  decide

theorem toNat_digitChar (digit : Fin 10) : (digitChar digit).toNat = 48 + digit := by
  revert digit
  decide

/-- A row of digits, at least one. -/
structure Digits where
  digits : List (Fin 10)
  notEmpty : digits ≠ []

namespace Digits

/-- The characters of the digits. -/
def chars (number : Digits) : List Char :=
  number.digits.map digitChar

/-- The digits as they are written. -/
def text (number : Digits) : String :=
  String.ofList number.chars

/-- The number that the digits stand for. -/
def value (number : Digits) : Nat :=
  ofDigits (number.digits.map Fin.val)

/-- There are no more digits than a whole number may have. -/
def IsShort (number : Digits) : Prop :=
  number.digits.length ≤ maxDigits

theorem exists_digit {number : Digits} {c : Char} (member : c ∈ number.chars) :
    ∃ digit : Fin 10, digitChar digit = c := by
  obtain ⟨digit, _, same⟩ := List.mem_map.1 member
  exact ⟨digit, same⟩

/-- The characters of digits lie in a narrow range of ASCII characters. -/
theorem toNat_bounds {number : Digits} {c : Char} (member : c ∈ number.chars) :
    48 ≤ c.toNat ∧ c.toNat ≤ 57 := by
  obtain ⟨digit, rfl⟩ := exists_digit member
  rw [toNat_digitChar]
  omega

theorem chars_ne_nil (number : Digits) : number.chars ≠ [] := by
  intro empty
  exact number.notEmpty (List.map_eq_nil_iff.1 empty)

end Digits

theorem isDigit_of_mem_chars {number : Digits} {c : Char} (member : c ∈ number.chars) :
    c.isDigit = true := by
  rw [isDigit_iff]
  exact Digits.toNat_bounds member

theorem digitsOfRun?_chars (number : Digits) :
    digitsOfRun? number.chars = some (number.digits.map Fin.val) := by
  rw [digitsOfRun?_of_digits number.chars_ne_nil fun c => isDigit_of_mem_chars, Digits.chars,
    List.map_map]
  congr 1
  refine List.map_congr_left fun digit _ => ?_
  rw [Function.comp_apply, toNat_digitChar, Nat.add_sub_cancel_left]

theorem all_isDigitOrBar_chars (number : Digits) : number.chars.all isDigitOrBar = true :=
  List.all_eq_true.2 fun _ member => isDigitOrBar_of_isDigit (isDigit_of_mem_chars member)

/-! ## Numbers with a sign -/

/-- The sign in front of a number. -/
inductive Sign where
  | missing
  | plus
  | minus

namespace Sign

/-- The sign as it is written. -/
def chars : Sign → List Char
  | missing => []
  | plus => ['+']
  | minus => ['-']

/-- The number with this sign. -/
def apply : Sign → Nat → Int
  | minus, number => -number
  | _, number => number

end Sign

/-- A whole number as it is written. -/
structure Numeral where
  sign : Sign := .missing
  number : Digits

namespace Numeral

/-- The characters of the number. -/
def chars (numeral : Numeral) : List Char :=
  numeral.sign.chars ++ numeral.number.chars

/-- The text of the number. -/
def text (numeral : Numeral) : String :=
  String.ofList numeral.chars

/-- The number that is meant. -/
def value (numeral : Numeral) : Int :=
  numeral.sign.apply numeral.number.value

/-- There are no more digits than a whole number may have. -/
def IsShort (numeral : Numeral) : Prop :=
  numeral.number.IsShort

/-- The characters of a number lie in a narrow range of ASCII characters. -/
theorem toNat_bounds {numeral : Numeral} {c : Char} (member : c ∈ numeral.chars) :
    43 ≤ c.toNat ∧ c.toNat ≤ 57 := by
  rcases List.mem_append.1 member with inSign | inNumber
  · cases sign : numeral.sign with
    | missing => simp [sign, Sign.chars] at inSign
    | plus => simp_all [Sign.chars]
    | minus => simp_all [Sign.chars]
  · have bounds := Digits.toNat_bounds inNumber
    omega

theorem isBlank_chars {numeral : Numeral} {c : Char} (member : c ∈ numeral.chars) :
    isBlank c = false := by
  have bounds := toNat_bounds member
  simp only [isBlank, Bool.or_eq_false_iff, Bool.and_eq_false_iff, decide_eq_false_iff_not,
    beq_eq_false_iff_ne]
  omega

theorem readSign_chars (numeral : Numeral) :
    readSign numeral.chars = (numeral.sign matches .minus, numeral.number.chars) := by
  have noSign : ∀ c ∈ numeral.number.chars, c ≠ '-' ∧ c ≠ '+' := by
    intro c member
    have bounds := Digits.toNat_bounds member
    constructor
    · rintro rfl
      simp at bounds
    · rintro rfl
      simp at bounds
  rw [chars]
  cases numeral.sign with
  | missing => exact readSign_of_noSign noSign
  | plus => rfl
  | minus => rfl

end Numeral

/-- A number is read if and only if it is not too long. -/
theorem readInt?_text (numeral : Numeral) : readInt? numeral.text =
    if numeral.number.digits.length ≤ maxDigits then some numeral.value else none := by
  have trimmed : trimNumber numeral.text.toList = numeral.chars := by
    rw [Numeral.text, String.toList_ofList, trimNumber_of_noBlanks]
    exact fun c => Numeral.isBlank_chars
  simp only [readInt?, trimmed, numeral.readSign_chars, all_isDigitOrBar_chars,
    digitsOfRun?_chars, List.length_map, if_true]
  by_cases short : numeral.number.digits.length ≤ maxDigits
  · rw [if_pos short, if_neg (Nat.not_lt.2 short), Numeral.value]
    cases numeral.sign with
    | missing => rfl
    | plus => rfl
    | minus => rfl
  · rw [if_neg short, if_pos (Nat.lt_of_not_le short)]

/-- The text of a number is its own lower case form. -/
theorem lower_text (numeral : Numeral) : lower numeral.text = numeral.text := by
  have ascii : ∀ c ∈ numeral.chars, c.toNat < 128 := by
    intro c member
    have bounds := Numeral.toNat_bounds member
    omega
  have small : ∀ c ∈ numeral.chars, c.toLower = c := by
    intro c member
    refine Char.toLower_eq_of_not_isUpper fun capital => ?_
    have bounds := Numeral.toNat_bounds member
    have := (isUpper_iff c).1 capital
    omega
  rw [lower, Numeral.text, String.toList_ofList, lowerFrom_of_ascii _ ascii,
    List.map_congr_left small, List.map_id']

/-- The text of a number does not say that there is none. -/
theorem isAbsent_text (numeral : Numeral) : Ini.isAbsent numeral.text = false := by
  rw [Ini.isAbsent, lower_text]
  simp only [Bool.or_eq_false_iff, beq_eq_false_iff_ne]
  constructor
  · intro empty
    have none := congrArg String.toList empty
    rw [Numeral.text, String.toList_ofList] at none
    exact numeral.number.chars_ne_nil (List.append_eq_nil_iff.1 none).2
  · intro word
    have member : 'n' ∈ numeral.chars := by
      have same := congrArg String.toList word
      rw [Numeral.text, String.toList_ofList] at same
      rw [same]
      decide
    have bounds := Numeral.toNat_bounds member
    simp at bounds

/-- A setting with the text of a number has this number as its value. -/
theorem wholeOf_text {numeral : Numeral} (short : numeral.IsShort) :
    Ini.wholeOf numeral.text = .ok (some numeral.value) := by
  have read : readInt? numeral.text = some numeral.value := by
    rw [readInt?_text]
    exact if_pos short
  rw [Ini.wholeOf, isAbsent_text, read]
  rfl

end Meteogram.Number
