import Meteogram.Number.Numeral
import Meteogram.Proofs.Text.LowerCase

/-!
# The characters of a number

The text of a real number that has no blanks, no signs and does not begin with a
letter is made of digits, underscores, a point and the mark of a power of ten
(`isNumeralChar_of_isRealText`). So a number in an equation has no word in it.
-/

set_option autoImplicit false

namespace Meteogram.Number

open Meteogram.Text

/-- The characters that numbers without a sign are made of. -/
def isNumeralChar (c : Char) : Bool :=
  isDigitOrBar c || c == '.' || c == 'e' || c == 'E'

/-- All decimal digits are in the table of numbers. -/
theorem numbers_cover_digits : CharTable.decimalZeros.all (fun start =>
    covers CharTable.numbers start (start + 9)) = true := by
  decide

theorem isWordChar_of_isDigitOrBar {c : Char} (digit : isDigitOrBar c = true) :
    isWordChar c = true := by
  rw [isDigitOrBar, Bool.or_eq_true, beq_iff_eq] at digit
  rcases digit with digit | rfl
  · rw [decimalValue?] at digit
    by_cases ascii : c.toNat < 128
    · rw [if_pos ascii] at digit
      split at digit
      · next isDigit => rw [isWordChar, if_pos ascii, Char.isAlphanum, isDigit, Bool.or_true, Bool.true_or]
      · cases digit
    · rw [if_neg ascii, Option.isSome_map] at digit
      obtain ⟨start, found⟩ := Option.isSome_iff_exists.1 digit
      have fits := List.find?_some found
      have covered := List.all_eq_true.1 numbers_cover_digits start (List.mem_of_find?_eq_some found)
      rw [Bool.and_eq_true, decide_eq_true_eq, decide_eq_true_eq] at fits
      rw [isWordChar, if_neg ascii, inTable_of_covers covered fits.1 (by omega), Bool.or_true]
  · decide

/-- The characters of numbers are word characters and points. -/
theorem isWordChar_of_isNumeralChar {c : Char} (numeral : isNumeralChar c = true) :
    isWordChar c = true ∨ c = '.' := by
  simp only [isNumeralChar, Bool.or_eq_true, beq_iff_eq] at numeral
  rcases numeral with ((digit | point) | rfl) | rfl
  · exact .inl (isWordChar_of_isDigitOrBar digit)
  · exact .inr point
  · exact .inl (by decide)
  · exact .inl (by decide)

section

variable {cs : List Char}

theorem trimNumber_of_noBlanks (noBlanks : ∀ c ∈ cs, isBlank c = false) : trimNumber cs = cs := by
  have kept : ∀ text : List Char, (∀ c ∈ text, isBlank c = false) →
      text.dropWhile isNumberBlank = text := by
    intro text noBlanks
    cases text with
    | nil => rfl
    | cons c text =>
      refine List.dropWhile_cons_of_neg ?_
      rw [isNumberBlank, noBlanks c List.mem_cons_self, Bool.false_and]
      exact Bool.false_ne_true
  rw [trimNumber, kept cs noBlanks, kept _ fun c member => noBlanks c (List.mem_reverse.1 member),
    List.reverse_reverse]

theorem readSign_of_head? (noSign : ∀ c ∈ cs.head?, c ≠ '-' ∧ c ≠ '+') :
    readSign cs = (false, cs) := by
  cases cs with
  | nil => rfl
  | cons c cs =>
    obtain ⟨noMinus, noPlus⟩ := noSign c rfl
    rw [readSign]
    · rintro more same
      exact noMinus (List.cons.inj same).1
    · rintro more same
      exact noPlus (List.cons.inj same).1

theorem readSign_of_noSign (noSign : ∀ c ∈ cs, c ≠ '-' ∧ c ≠ '+') : readSign cs = (false, cs) :=
  readSign_of_head? fun c isHead => noSign c (List.mem_of_mem_head? isHead)

/-- What does not begin with a letter behind its sign is read as digits. -/
theorem readReal?_of_noLetter {text : List Char} (noBlanks : ∀ c ∈ text, isBlank c = false)
    {negative : Bool} (isSign : readSign text = (negative, cs))
    (noLetter : ∀ c ∈ cs.head?, isLetter c = false) :
    readReal? (String.ofList text) = readUnsigned? negative cs := by
  have noWord : ∀ (c : Char) (word : List Char), isLetter c = true →
      String.ofList (cs.map Char.toLower) ≠ String.ofList (c :: word) := by
    intro c word letter same
    have characters := String.ofList_injective same
    cases cs with
    | nil => cases characters
    | cons d ds =>
      rw [← (List.cons.inj characters).1, isLetter_toLower, noLetter d rfl] at letter
      cases letter
  rw [readReal?, String.toList_ofList, trimNumber_of_noBlanks noBlanks, isSign]
  dsimp only
  rw [if_neg, if_neg]
  · rw [beq_iff_eq]
    exact noWord 'n' ['a', 'n'] (by decide)
  · rw [Bool.or_eq_true, beq_iff_eq, beq_iff_eq, not_or]
    exact ⟨noWord 'i' ['n', 'f'] (by decide), noWord 'i' "nfinity".toList (by decide)⟩

/-- The power of ten behind a number. -/
theorem isNumeralChar_of_readExponent? (noSign : ∀ c ∈ cs, c ≠ '-' ∧ c ≠ '+')
    (read : (readExponent? cs).isSome = true) : cs.all isNumeralChar = true := by
  cases cs with
  | nil => rfl
  | cons mark cs =>
    rw [readExponent?, readSign_of_noSign fun c member => noSign c (List.mem_cons_of_mem _ member)]
      at read
    dsimp only at read
    split at read
    · next marked =>
      split at read
      · next digits =>
        have marked' : isNumeralChar mark = true := by
          rw [isNumeralChar, Bool.or_assoc, marked, Bool.or_true]
        rw [List.all_cons, marked', Bool.true_and]
        refine List.all_eq_true.2 fun c member => ?_
        rw [isNumeralChar, List.all_eq_true.1 digits c member, Bool.true_or, Bool.true_or,
          Bool.true_or]
      · cases read
    · cases read

theorem all_takeWhile_isDigitOrBar (text : List Char) :
    (text.takeWhile isDigitOrBar).all isNumeralChar = true := by
  refine List.all_eq_true.2 fun c member => ?_
  rw [isNumeralChar, List.mem_takeWhile_imp member, Bool.true_or, Bool.true_or, Bool.true_or]

/-- The digits, the point and the power of ten of a number. -/
theorem isNumeralChar_of_readUnsigned? (noSign : ∀ c ∈ cs, c ≠ '-' ∧ c ≠ '+') {negative : Bool}
    (read : (readUnsigned? negative cs).isSome = true) : cs.all isNumeralChar = true := by
  have tails : ∀ tail : List Char, (∀ c ∈ tail, c ∈ cs) → (readExponent? tail).isSome = true →
      tail.all isNumeralChar = true :=
    fun tail inside => isNumeralChar_of_readExponent? fun c member => noSign c (inside c member)
  have dropped : ∀ c ∈ cs.dropWhile isDigitOrBar, c ∈ cs :=
    fun c member => (List.dropWhile_suffix _).subset member
  have behind : ∀ (whole : List Nat) (run tail : List Char),
      (optionalDigits? run >>= fun fraction =>
        if (whole.isEmpty && fraction.isEmpty) = true then none
        else readExponent? tail >>= fun exponent => Pure.pure (RealNumeral.decimal negative
          (ofDigits (whole ++ fraction)) (exponent - fraction.length))).isSome = true →
      (readExponent? tail).isSome = true := by
    intro whole run tail read
    obtain ⟨numeral, read⟩ := Option.isSome_iff_exists.1 read
    obtain ⟨fraction, _, read⟩ := Option.bind_eq_some_iff.1 read
    split at read
    · cases read
    · obtain ⟨exponent, found, _⟩ := Option.bind_eq_some_iff.1 read
      exact Option.isSome_of_eq_some found
  rw [readUnsigned?] at read
  obtain ⟨numeral, read⟩ := Option.isSome_iff_exists.1 read
  obtain ⟨whole, _, read⟩ := Option.bind_eq_some_iff.1 read
  replace read := Option.isSome_of_eq_some read
  rw [← List.takeWhile_append_dropWhile (p := isDigitOrBar) (l := cs), List.all_append,
    all_takeWhile_isDigitOrBar, Bool.true_and]
  generalize cs.dropWhile isDigitOrBar = rest at read dropped ⊢
  dsimp only at read
  split at read
  · next after =>
    have exponent := behind whole _ _ read
    have inside : ∀ c ∈ after.dropWhile isDigitOrBar, c ∈ cs := fun c member =>
      dropped c (List.mem_cons_of_mem _ ((List.dropWhile_suffix _).subset member))
    rw [List.all_cons, ← List.takeWhile_append_dropWhile (p := isDigitOrBar) (l := after),
      List.all_append, all_takeWhile_isDigitOrBar, tails _ inside exponent]
    rfl
  · exact tails _ dropped (behind whole _ _ read)

/-- The text of a real number without blanks and signs that does not begin with a
letter is made of digits, underscores, a point and the mark of a power of ten. -/
theorem isNumeralChar_of_isRealText (noBlanks : ∀ c ∈ cs, isBlank c = false)
    (noSign : ∀ c ∈ cs, c ≠ '-' ∧ c ≠ '+') (noLetter : ∀ c ∈ cs.head?, isLetter c = false)
    (real : isRealText (String.ofList cs) = true) : cs.all isNumeralChar = true := by
  rw [isRealText, readReal?_of_noLetter noBlanks (readSign_of_noSign noSign) noLetter] at real
  exact isNumeralChar_of_readUnsigned? noSign real

end

end Meteogram.Number
