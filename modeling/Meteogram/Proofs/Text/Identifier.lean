import Meteogram.Proofs.Text.LowerCase

/-!
# Identifiers in any letter case

A word is looked for by the keys of its characters (`caselessKey`), and words are
told apart by their lower case forms. For ASCII identifiers the two comparisons
agree, although the keys are coarser: only word characters share a key with an
ASCII letter, a digit or the underscore (`isWordChar_of_key`). So what matches an
identifier lies within the words of a text.
-/

set_option autoImplicit false

namespace Meteogram.Text

open CharTable (CaseRun)

/-! ## Identifiers -/

/-- An ASCII letter, a digit or the underscore. -/
def isNameChar (c : Char) : Bool :=
  c.isAlphanum || c == '_'

/-- The text is an ASCII identifier. -/
def isIdentifier : List Char → Bool
  | [] => false
  | c :: cs => isNameChar c && !c.isDigit && cs.all isNameChar

/-- What caseless matching compares of a word. -/
def keysOf (word : List Char) : List Char :=
  word.map caselessKey

theorem isDigit_iff (c : Char) : c.isDigit = true ↔ 48 ≤ c.toNat ∧ c.toNat ≤ 57 := by
  simp only [Char.isDigit, Bool.and_eq_true, decide_eq_true_eq, ge_iff_le,
    UInt32.le_iff_toNat_le]
  rfl

theorem isLower_iff (c : Char) : c.isLower = true ↔ 97 ≤ c.toNat ∧ c.toNat ≤ 122 := by
  simp only [Char.isLower, Bool.and_eq_true, decide_eq_true_eq, ge_iff_le,
    UInt32.le_iff_toNat_le]
  rfl

theorem isNameChar_iff (c : Char) : isNameChar c = true ↔
    (48 ≤ c.toNat ∧ c.toNat ≤ 57) ∨ (65 ≤ c.toNat ∧ c.toNat ≤ 90) ∨ c.toNat = 95 ∨
      (97 ≤ c.toNat ∧ c.toNat ≤ 122) := by
  have underscore : c = '_' ↔ c.toNat = 95 := by rw [← Char.toNat_inj]; rfl
  rw [isNameChar, Char.isAlphanum, Char.isAlpha, Bool.or_eq_true, Bool.or_eq_true,
    Bool.or_eq_true, beq_iff_eq, isUpper_iff, isLower_iff, isDigit_iff, underscore]
  omega

theorem isNameChar_ascii {c : Char} (name : isNameChar c = true) : c.toNat < 128 := by
  have bounds := (isNameChar_iff c).1 name
  omega

theorem isIdentifier_all {word : List Char} (identifier : isIdentifier word = true) :
    word.all isNameChar = true := by
  cases word with
  | nil => rfl
  | cons c cs =>
    rw [isIdentifier, Bool.and_eq_true, Bool.and_eq_true] at identifier
    rw [List.all_cons, identifier.1.1, identifier.2, Bool.and_self]

theorem isIdentifier_ne_nil {word : List Char} (identifier : isIdentifier word = true) :
    word ≠ [] := by
  rintro rfl
  cases identifier

/-! ## Keys of characters -/

/-- The code point of a small ASCII letter, or of any other ASCII character. -/
theorem toNat_toLower (c : Char) : c.toLower.toNat =
    if 65 ≤ c.toNat ∧ c.toNat ≤ 90 then c.toNat + 32 else c.toNat := by
  by_cases capital : c.isUpper = true
  · have bounds := (isUpper_iff c).1 capital
    have valid : (c.toNat + 32).isValidChar := .inl (by omega)
    rw [if_pos bounds, Char.toLower_eq_of_isUpper capital, Char.toNat_ofNat, if_pos valid]
  · rw [Char.toLower_eq_of_not_isUpper capital, if_neg fun bounds => capital ((isUpper_iff c).2 bounds)]

theorem caselessKey_of_ascii {c : Char} (ascii : c.toNat < 128) : caselessKey c = c.toLower := by
  have low : lowerChar c = c.toLower := if_pos ascii
  have small : c.toLower.toNat < 128 := by
    rw [toNat_toLower]
    split <;> omega
  have undotted : c.toNat ≠ 0x130 := by omega
  rw [caselessKey, if_neg undotted, low, if_pos small]

set_option maxRecDepth 4000 in
/-- The runs whose lower case forms are ASCII characters hold letters only. -/
theorem lowerCase_ascii : CharTable.lowerCase.all (fun run =>
    Nat.ble 128 run.lower || covers CharTable.letters run.first run.last) = true := by
  decide

set_option maxRecDepth 4000 in
/-- Only letters share their key with an earlier ASCII character. -/
theorem caselessTwins_ascii : CharTable.caselessTwins.all (fun twin =>
    Nat.ble 128 twin.2 && Nat.blt twin.2 0xD800 ||
      covers CharTable.letters twin.1 twin.1) = true := by
  decide

/-- A character with an ASCII key is an ASCII character or a letter. -/
theorem isLetter_of_key {c : Char} (ascii : (caselessKey c).toNat < 128) (beyond : 128 ≤ c.toNat) :
    isLetter c = true := by
  by_cases dotted : c.toNat = 0x130
  · rw [← Char.ofNat_toNat c, dotted]
    decide
  · rw [caselessKey, if_neg dotted] at ascii
    split_ifs at ascii with small
    · rcases lowerChar_cases c with same | ⟨capital, _⟩ | ⟨run, member, above, below, _, value⟩
      · rw [same] at small
        omega
      · have bounds := (isUpper_iff c).1 capital
        omega
      · obtain ⟨_, _, _, _, shown⟩ := isProper_of_mem member above below
        have checked := List.all_eq_true.1 lowerCase_ascii run member
        rw [Bool.or_eq_true, Nat.ble_eq] at checked
        rcases checked with large | letters
        · rw [value, shown] at small
          omega
        · exact isLetter_of_inTable (inTable_of_covers letters above below)
    · split at ascii
      · next twin found =>
        have checked := List.all_eq_true.1 caselessTwins_ascii twin (List.mem_of_find?_eq_some found)
        have fits := List.find?_some found
        have same := beq_iff_eq.1 fits
        rw [Bool.or_eq_true, Bool.and_eq_true, Nat.ble_eq, Nat.blt_eq] at checked
        rcases checked with ⟨large, valid⟩ | letter
        · have isValid : twin.2.isValidChar := .inl (by omega)
          rw [Char.toNat_ofNat, if_pos isValid] at ascii
          omega
        · rw [← isLetter_lowerChar]
          exact isLetter_of_inTable (inTable_of_covers letter (by omega) (by omega))
      · exact absurd ascii small

theorem isWordChar_of_isLetter {c : Char} (letter : isLetter c = true) : isWordChar c = true := by
  by_cases ascii : c.toNat < 128
  · rw [isLetter_of_ascii ascii] at letter
    rw [isWordChar, if_pos ascii, Char.isAlphanum, letter, Bool.true_or, Bool.true_or]
  · rw [isLetter_of_not_ascii (by omega)] at letter
    rw [isWordChar, if_neg ascii, letter, Bool.true_or]

theorem isWordChar_of_isNameChar {c : Char} (name : isNameChar c = true) : isWordChar c = true := by
  rw [isWordChar, if_pos (isNameChar_ascii name)]
  exact name

/-- The key of an ASCII character belongs to an identifier exactly if the character
does. -/
theorem isNameChar_toLower (c : Char) : isNameChar c.toLower = isNameChar c := by
  rw [Bool.eq_iff_iff, isNameChar_iff, isNameChar_iff, toNat_toLower]
  split <;> omega

/-- Only word characters have the key of a character of identifiers. -/
theorem isWordChar_of_key {c : Char} (name : isNameChar (caselessKey c) = true) :
    isWordChar c = true := by
  by_cases ascii : c.toNat < 128
  · rw [caselessKey_of_ascii ascii, isNameChar_toLower] at name
    exact isWordChar_of_isNameChar name
  · exact isWordChar_of_isLetter (isLetter_of_key (isNameChar_ascii name) (by omega))

theorem not_isNameChar_key {c : Char} (other : isWordChar c = false) :
    isNameChar (caselessKey c) = false := by
  refine Bool.eq_false_iff.2 fun name => ?_
  rw [isWordChar_of_key name] at other
  cases other

/-- What has the key of the start of an identifier is a letter or the
underscore. -/
theorem isLetter_of_start {c : Char} (name : isNameChar (caselessKey c) = true)
    (noDigit : (caselessKey c).isDigit = false) : isLetter c = true ∨ c = '_' := by
  by_cases ascii : c.toNat < 128
  · rw [caselessKey_of_ascii ascii] at name noDigit
    rw [isNameChar_toLower, isNameChar, Char.isAlphanum, Bool.or_eq_true, Bool.or_eq_true,
      beq_iff_eq] at name
    rcases name with (alpha | digit) | underscore
    · rw [isLetter_of_ascii ascii]
      exact .inl alpha
    · have bounds := (isDigit_iff c).1 digit
      have kept : c.toLower.isDigit = true := by
        rw [isDigit_iff, toNat_toLower, if_neg (by omega)]
        exact bounds
      exact absurd (kept.symm.trans noDigit) Bool.noConfusion
    · exact .inr underscore
  · exact .inl (isLetter_of_key (isNameChar_ascii name) (by omega))

/-! ## Keys of words -/

theorem keysOf_of_ascii {word : List Char} (ascii : ∀ c ∈ word, c.toNat < 128) :
    keysOf word = word.map Char.toLower :=
  List.map_congr_left fun c member => caselessKey_of_ascii (ascii c member)

theorem isIdentifier_ascii {word : List Char} (identifier : isIdentifier word = true) :
    ∀ c ∈ word, c.toNat < 128 :=
  fun c member => isNameChar_ascii (List.all_eq_true.1 (isIdentifier_all identifier) c member)

/-- The keys of an identifier make up an identifier. -/
theorem isIdentifier_keysOf {word : List Char} (identifier : isIdentifier word = true) :
    isIdentifier (keysOf word) = true := by
  rw [keysOf_of_ascii (isIdentifier_ascii identifier)]
  cases word with
  | nil => cases identifier
  | cons c cs =>
    rw [isIdentifier, Bool.and_eq_true, Bool.and_eq_true, Bool.not_eq_true'] at identifier
    obtain ⟨⟨name, noDigit⟩, rest⟩ := identifier
    have noDigit' : c.toLower.isDigit = false := by
      refine Bool.eq_false_iff.2 fun digit => ?_
      rw [← Bool.not_eq_true, isDigit_iff] at noDigit
      rw [isDigit_iff, toNat_toLower] at digit
      split at digit <;> omega
    have rest' : (cs.map Char.toLower).all isNameChar = true := by
      rw [List.all_map]
      exact (congrArg (List.all cs) (funext isNameChar_toLower)).trans rest
    rw [List.map_cons, isIdentifier, isNameChar_toLower, name, noDigit', rest', Bool.not_false,
      Bool.and_self, Bool.and_self]

/-- Whatever has the keys of an identifier consists of word characters. -/
theorem all_isWordChar_of_keys {word : List Char} (identifier : isIdentifier (keysOf word) = true) :
    word.all isWordChar = true := by
  have names := isIdentifier_all identifier
  rw [keysOf, List.all_map] at names
  exact List.all_eq_true.2 fun c member => isWordChar_of_key (List.all_eq_true.1 names c member)

/-- The lower case form of an ASCII text is made of its small letters. -/
theorem lowerFrom_of_ascii (before : List Char) {word : List Char}
    (ascii : ∀ c ∈ word, c.toNat < 128) : lowerFrom before word = word.map Char.toLower := by
  induction word generalizing before with
  | nil => rfl
  | cons c cs ih =>
    obtain ⟨small, ascii⟩ := List.forall_mem_cons.1 ascii
    have undotted : c.toNat ≠ 0x130 := by omega
    have noSigma : c.toNat ≠ 0x3A3 := by omega
    rw [lowerFrom, if_neg undotted, if_neg noSigma, ih _ ascii, List.map_cons,
      show lowerChar c = c.toLower from if_pos small]
    rfl

/-- Words with the same keys agree in lower case, if both are ASCII texts. -/
theorem sameWord_of_keysOf {left right : String} (leftAscii : ∀ c ∈ left.toList, c.toNat < 128)
    (rightAscii : ∀ c ∈ right.toList, c.toNat < 128)
    (same : keysOf left.toList = keysOf right.toList) : sameWord left right = true := by
  rw [keysOf_of_ascii leftAscii, keysOf_of_ascii rightAscii] at same
  rw [sameWord_iff, lower, lower, lowerFrom_of_ascii _ leftAscii, lowerFrom_of_ascii _ rightAscii,
    same]

/-- A text whose lower case form is that of an ASCII text has the same keys. -/
theorem keysOf_eq_of_lowerFrom {left right : List Char} {before : List Char}
    (ascii : ∀ c ∈ right, c.toNat < 128) (same : lowerFrom before left = right.map Char.toLower) :
    keysOf left = right.map Char.toLower := by
  have small : ∀ c ∈ right.map Char.toLower, c.toNat < 128 := by
    intro c member
    obtain ⟨capital, inside, rfl⟩ := List.mem_map.1 member
    have bound := ascii capital inside
    rw [toNat_toLower]
    split
    · omega
    · exact bound
  have key : ∀ c low, low.toNat < 128 → lowerChar c = low → caselessKey c = low := by
    rintro c low bound rfl
    have undotted : c.toNat ≠ 0x130 := by
      intro dotted
      rw [← Char.ofNat_toNat c, dotted] at bound
      exact absurd bound (by decide)
    rw [caselessKey, if_neg undotted, if_pos bound]
  have pairs := forall₂_lowerChar small same
  clear same
  generalize right.map Char.toLower = low at pairs small
  induction pairs with
  | nil => rfl
  | cons here _ ih =>
    obtain ⟨smallHere, small⟩ := List.forall_mem_cons.1 small
    have rest := ih small
    rw [keysOf] at rest ⊢
    rw [List.map_cons, rest, key _ _ smallHere here]

/-- A word that agrees with an ASCII text in lower case has the same keys. -/
theorem keysOf_eq_of_sameWord {left right : String} (ascii : ∀ c ∈ right.toList, c.toNat < 128)
    (same : sameWord left right = true) : keysOf left.toList = keysOf right.toList := by
  have lowered := lowerFrom_eq_of_sameWord same
  rw [lowerFrom_of_ascii _ ascii] at lowered
  rw [keysOf_of_ascii ascii, keysOf_eq_of_lowerFrom ascii lowered]

end Meteogram.Text
