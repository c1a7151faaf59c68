import Mathlib
import Meteogram.Text.Case

/-!
# Lower case keeps the class of a character

Words are compared by their lower case forms. A word and a keyword that agree in
lower case should then be words of the same kind: both begin with a letter, and
neither has a blank or an operator in it. This rests on the table of lower case
forms. Its runs stay away from the blanks and from the ASCII characters that
are no letters, and a run lies in the letters together with its lower case
forms or not at all.

The checks of the table compare the ends of ranges (`covers`, `avoids`); the
statements about characters follow from them (`lowerChar_cases`,
`isLetter_lowerChar`).
-/

set_option autoImplicit false

namespace Meteogram.Text

open CharTable (Range CaseRun)

/-! ## Ranges of code points -/

/-- Some range of the table holds all code points from `first` to `last`. -/
def covers (table : List Range) (first last : Nat) : Bool :=
  table.any fun (low, high) => Nat.ble low first && Nat.ble last high

/-- No range of the table holds a code point from `first` to `last`. -/
def avoids (table : List Range) (first last : Nat) : Bool :=
  table.all fun (low, high) => Nat.blt last low || Nat.blt high first

theorem inTable_of_covers {table : List Range} {first last : Nat} {c : Char}
    (covered : covers table first last = true) (above : first ≤ c.toNat) (below : c.toNat ≤ last) :
    inTable table c = true := by
  obtain ⟨range, member, fits⟩ := List.any_eq_true.1 covered
  simp only [Bool.and_eq_true, Nat.ble_eq] at fits
  refine List.any_eq_true.2 ⟨range, member, ?_⟩
  simp only [Bool.and_eq_true, decide_eq_true_eq]
  omega

theorem inTable_of_avoids {table : List Range} {first last : Nat} {c : Char}
    (avoided : avoids table first last = true) (above : first ≤ c.toNat) (below : c.toNat ≤ last) :
    inTable table c = false := by
  refine List.any_eq_false.2 fun range member => ?_
  have fits := List.all_eq_true.1 avoided range member
  simp only [Bool.or_eq_true, Nat.blt_eq] at fits
  simp only [Bool.and_eq_true, decide_eq_true_eq]
  omega

/-- The ranges of white space. -/
def blankRanges : List Range :=
  [(9, 13), (28, 32), (0x85, 0x85), (0xA0, 0xA0), (0x1680, 0x1680), (0x2000, 0x200A),
    (0x2028, 0x2029), (0x202F, 0x202F), (0x205F, 0x205F), (0x3000, 0x3000)]

theorem isBlank_eq_inTable (c : Char) : isBlank c = inTable blankRanges c := by
  rw [Bool.eq_iff_iff]
  simp only [isBlank, inTable, blankRanges, List.any_cons, List.any_nil, Bool.or_eq_true,
    Bool.and_eq_true, decide_eq_true_eq, beq_iff_eq, Bool.false_eq_true, or_false]
  omega

/-! ## The table of lower case forms -/

/-- A run has neither blanks nor ASCII characters in it, and its lower case forms
are characters that are neither blanks nor in front of the small letters. -/
def CharTable.CaseRun.isProper : CaseRun → Bool
  | ⟨first, last, _, lower⟩ =>
    avoids blankRanges first last && avoids blankRanges lower (lower + (last - first)) &&
      Nat.ble 128 first && Nat.ble 97 lower &&
      (Nat.blt (lower + (last - first)) 0xD800 ||
        Nat.ble 0xE000 lower && Nat.blt (lower + (last - first)) 0x110000)

/-- A run lies in the letters together with its lower case forms, or outside of
them. The last case looks at the characters one by one: a run with gaps may
pass over characters that are not assigned. -/
def CharTable.CaseRun.keepsLetters : CaseRun → Bool
  | ⟨first, last, step, lower⟩ =>
    let letter low high := covers CharTable.letters low high ||
      Nat.beq low high && covers [(65, 90), (97, 122)] low high
    (letter first last && letter lower (lower + (last - first))) ||
      (avoids CharTable.letters first last &&
        avoids CharTable.letters lower (lower + (last - first)) && Nat.ble 128 lower) ||
      (List.range (last - first + 1)).all fun k =>
        !Nat.beq (k % step) 0 || letter (first + k) (first + k) && letter (lower + k) (lower + k)

theorem lowerCase_isProper : CharTable.lowerCase.all CaseRun.isProper = true := by
  decide

set_option maxRecDepth 4000 in
theorem lowerCase_keepsLetters : CharTable.lowerCase.all CaseRun.keepsLetters = true := by
  decide

/-! ## Single characters -/

theorem isUpper_iff (c : Char) : c.isUpper = true ↔ 65 ≤ c.toNat ∧ c.toNat ≤ 90 := by
  simp only [Char.isUpper, decide_eq_true_eq, ge_iff_le, UInt32.le_iff_toNat_le]
  rfl

/-- A character with a lower case form of its own is a capital ASCII letter, or
stands in a run of the table. -/
theorem lowerChar_cases (c : Char) :
    lowerChar c = c ∨ (c.isUpper = true ∧ (lowerChar c).toNat = c.toNat + 32) ∨
      ∃ run ∈ CharTable.lowerCase, run.first ≤ c.toNat ∧ c.toNat ≤ run.last ∧
        (c.toNat - run.first) % run.step = 0 ∧
        lowerChar c = Char.ofNat (run.lower + (c.toNat - run.first)) := by
  by_cases ascii : c.toNat < 128
  · have same : lowerChar c = c.toLower := if_pos ascii
    by_cases capital : c.isUpper = true
    · refine .inr (.inl ⟨capital, ?_⟩)
      have bounds := (isUpper_iff c).1 capital
      have valid : (c.toNat + 32).isValidChar := .inl (by omega)
      rw [same, Char.toLower_eq_of_isUpper capital, Char.toNat_ofNat, if_pos valid]
    · exact .inl (same.trans (Char.toLower_eq_of_not_isUpper capital))
  · simp only [lowerChar, if_neg ascii]
    split
    · next run found =>
      have fits := List.find?_some found
      simp only [Bool.and_eq_true, decide_eq_true_eq, beq_iff_eq] at fits
      exact .inr (.inr ⟨run, List.mem_of_find?_eq_some found, fits.1.1, fits.1.2, fits.2, rfl⟩)
    · exact .inl rfl

/-- What the checks of the table say about a character in a run. -/
theorem isProper_of_mem {run : CaseRun} (member : run ∈ CharTable.lowerCase) {c : Char}
    (above : run.first ≤ c.toNat) (below : c.toNat ≤ run.last) :
    isBlank c = false ∧ 128 ≤ c.toNat ∧
      isBlank (Char.ofNat (run.lower + (c.toNat - run.first))) = false ∧ 97 ≤ run.lower ∧
      (Char.ofNat (run.lower + (c.toNat - run.first))).toNat =
        run.lower + (c.toNat - run.first) := by
  have proper := List.all_eq_true.1 lowerCase_isProper run member
  obtain ⟨first, last, step, lower⟩ := run
  dsimp only at above below ⊢
  simp only [CaseRun.isProper, Bool.and_eq_true, Bool.or_eq_true, Nat.ble_eq, Nat.blt_eq] at proper
  obtain ⟨⟨⟨⟨fromBlanks, lowFromBlanks⟩, beyond⟩, least⟩, valid⟩ := proper
  have isValid : (lower + (c.toNat - first)).isValidChar := by
    rcases valid with small | large
    · exact .inl (by omega)
    · exact .inr ⟨by omega, by omega⟩
  have shown : (Char.ofNat (lower + (c.toNat - first))).toNat = lower + (c.toNat - first) := by
    rw [Char.toNat_ofNat, if_pos isValid]
  refine ⟨?_, by omega, ?_, least, shown⟩
  · rw [isBlank_eq_inTable, inTable_of_avoids fromBlanks above below]
  · rw [isBlank_eq_inTable]
    exact inTable_of_avoids lowFromBlanks (by omega) (by omega)

/-- Characters that a lower case form of their own are no blanks, nor are the
forms, and neither stands in front of the capital letters. -/
theorem lowerChar_ne_cases {c : Char} (different : lowerChar c ≠ c) :
    isBlank c = false ∧ isBlank (lowerChar c) = false ∧ 65 ≤ c.toNat ∧
      97 ≤ (lowerChar c).toNat := by
  rcases lowerChar_cases c with same | ⟨capital, value⟩ | ⟨run, member, above, below, _, value⟩
  · exact absurd same different
  · have bounds := (isUpper_iff c).1 capital
    have capitals : avoids blankRanges 65 90 = true := by decide
    have smalls : avoids blankRanges 97 122 = true := by decide
    refine ⟨?_, ?_, by omega, by omega⟩
    · rw [isBlank_eq_inTable]
      exact inTable_of_avoids capitals bounds.1 bounds.2
    · rw [isBlank_eq_inTable]
      exact inTable_of_avoids smalls (by omega) (by omega)
  · obtain ⟨blank, beyond, lowBlank, least, shown⟩ := isProper_of_mem member above below
    exact ⟨blank, value ▸ lowBlank, by omega, by rw [value, shown]; omega⟩

/-- An ASCII character is a letter if it is one of the English alphabet. -/
theorem isLetter_of_ascii {c : Char} (ascii : c.toNat < 128) : isLetter c = c.isAlpha :=
  if_pos ascii

theorem isLetter_of_not_ascii {c : Char} (beyond : 128 ≤ c.toNat) :
    isLetter c = inTable CharTable.letters c :=
  if_neg (by omega)

set_option maxRecDepth 4000 in
theorem letters_not_ascii : CharTable.letters.all (fun range => Nat.ble 128 range.1) = true := by
  decide

/-- A character of the table of letters is a letter. -/
theorem isLetter_of_inTable {c : Char} (member : inTable CharTable.letters c = true) :
    isLetter c = true := by
  obtain ⟨range, inLetters, fits⟩ := List.any_eq_true.1 member
  have beyond := List.all_eq_true.1 letters_not_ascii range inLetters
  simp only [Bool.and_eq_true, decide_eq_true_eq] at fits
  rw [Nat.ble_eq] at beyond
  rw [isLetter_of_not_ascii (by omega), member]

theorem isAlpha_of_inTable {c : Char} (member : inTable [(65, 90), (97, 122)] c = true) :
    c.isAlpha = true := by
  simp only [inTable, List.any_cons, List.any_nil, Bool.or_eq_true, Bool.and_eq_true,
    decide_eq_true_eq, Bool.false_eq_true, or_false] at member
  simp only [Char.isAlpha, Char.isUpper, Char.isLower, Bool.or_eq_true, Bool.and_eq_true,
    decide_eq_true_eq, ge_iff_le, UInt32.le_iff_toNat_le]
  exact member

/-- A range that the check of a run takes for letters consists of letters. -/
theorem isLetter_of_covers {low high : Nat} {c : Char}
    (fits : (covers CharTable.letters low high ||
      Nat.beq low high && covers [(65, 90), (97, 122)] low high) = true)
    (above : low ≤ c.toNat) (below : c.toNat ≤ high) : isLetter c = true := by
  rw [Bool.or_eq_true, Bool.and_eq_true] at fits
  rcases fits with inLetters | ⟨_, inAscii⟩
  · exact isLetter_of_inTable (inTable_of_covers inLetters above below)
  · have member := inTable_of_covers inAscii above below
    have alpha := isAlpha_of_inTable member
    simp only [inTable, List.any_cons, List.any_nil, Bool.or_eq_true, Bool.and_eq_true,
      decide_eq_true_eq, Bool.false_eq_true, or_false] at member
    rw [isLetter_of_ascii (by omega), alpha]

/-- A character in a run is a letter exactly if its lower case form is one. -/
theorem isLetter_lower_of_mem {run : CaseRun} (member : run ∈ CharTable.lowerCase) {c : Char}
    (above : run.first ≤ c.toNat) (below : c.toNat ≤ run.last)
    (onStep : (c.toNat - run.first) % run.step = 0) :
    isLetter (Char.ofNat (run.lower + (c.toNat - run.first))) = isLetter c := by
  obtain ⟨_, beyond, _, _, shown⟩ := isProper_of_mem member above below
  have keeps := List.all_eq_true.1 lowerCase_keepsLetters run member
  obtain ⟨first, last, step, lower⟩ := run
  dsimp only at above below onStep shown ⊢
  generalize Char.ofNat (lower + (c.toNat - first)) = low at shown ⊢
  rw [CaseRun.keepsLetters, Bool.or_eq_true, Bool.or_eq_true, Bool.and_eq_true, Bool.and_eq_true,
    Bool.and_eq_true] at keeps
  rcases keeps with (⟨whole, lowWhole⟩ | ⟨⟨outside, lowOutside⟩, lowBeyond⟩) | single
  · rw [isLetter_of_covers whole above below,
      isLetter_of_covers (c := low) lowWhole (by omega) (by omega)]
  · rw [Nat.ble_eq] at lowBeyond
    rw [isLetter_of_not_ascii beyond, isLetter_of_not_ascii (c := low) (by omega),
      inTable_of_avoids outside above below, inTable_of_avoids lowOutside (by omega) (by omega)]
  · have here := List.all_eq_true.1 single (c.toNat - first) (List.mem_range.2 (by omega))
    rw [Bool.or_eq_true, Bool.and_eq_true, onStep] at here
    obtain ⟨letter, lowLetter⟩ := here.resolve_left (by decide)
    rw [isLetter_of_covers (c := c) letter (by omega) (by omega),
      isLetter_of_covers (c := low) lowLetter (by omega) (by omega)]

theorem isLetter_lowerChar (c : Char) : isLetter (lowerChar c) = isLetter c := by
  rcases lowerChar_cases c with same | ⟨capital, value⟩ | ⟨run, member, above, below, step, value⟩
  · rw [same]
  · have bounds := (isUpper_iff c).1 capital
    have same : lowerChar c = c.toLower := if_pos (by omega)
    rw [isLetter_of_ascii (by omega), isLetter_of_ascii (c := c) (by omega), same,
      Char.isAlpha_toLower_eq_isAlpha]
  · rw [value, isLetter_lower_of_mem member above below step]

/-- A capital ASCII letter is a letter as much as its small form. -/
theorem isLetter_toLower (c : Char) : isLetter c.toLower = isLetter c := by
  by_cases capital : c.isUpper = true
  · have bounds := (isUpper_iff c).1 capital
    rw [← isLetter_lowerChar c, show lowerChar c = c.toLower from if_pos (by omega)]
  · rw [Char.toLower_eq_of_not_isUpper capital]

/-! ## Texts -/

/-- The lower case form of a character in its place: its own form, or that of
the dotted capital I or of the capital sigma. -/
theorem lowerFrom_cons (before cs : List Char) (c : Char) :
    ∃ low, lowerFrom before (c :: cs) = low ++ lowerFrom (c :: before) cs ∧
      (low = [lowerChar c] ∨ c.toNat = 0x130 ∧ low = ['i', Char.ofNat 0x307] ∨
        c.toNat = 0x3A3 ∧ (low = [Char.ofNat 0x3C2] ∨ low = [Char.ofNat 0x3C3])) := by
  rw [lowerFrom]
  refine ⟨_, rfl, ?_⟩
  split
  · next dotted => exact .inr (.inl ⟨dotted, rfl⟩)
  · split
    · next sigma =>
      split
      · exact .inr (.inr ⟨sigma, .inl rfl⟩)
      · exact .inr (.inr ⟨sigma, .inr rfl⟩)
    · exact .inl rfl

/-- A class of characters that lower case keeps. -/
structure KeptByCase (p : Char → Bool) : Prop where
  lowerChar : ∀ c, p (lowerChar c) = p c
  dotted : p (Char.ofNat 0x130) = true ∧ p 'i' = true ∧ p (Char.ofNat 0x307) = true
  sigma : p (Char.ofNat 0x3A3) = true ∧ p (Char.ofNat 0x3C2) = true ∧ p (Char.ofNat 0x3C3) = true

/-- A text lies in a class that lower case keeps if its lower case form does. -/
theorem KeptByCase.all_lowerFrom {p : Char → Bool} (kept : KeptByCase p)
    (before cs : List Char) : (lowerFrom before cs).all p = cs.all p := by
  induction cs generalizing before with
  | nil => rfl
  | cons c cs ih =>
    obtain ⟨low, split, form⟩ := lowerFrom_cons before cs c
    rw [split, List.all_append, ih, List.all_cons]
    congr 1
    rcases form with rfl | ⟨dotted, rfl⟩ | ⟨sigma, form⟩
    · simp only [List.all_cons, List.all_nil, Bool.and_true, kept.lowerChar]
    · rw [← Char.ofNat_toNat c, dotted]
      simp only [List.all_cons, List.all_nil, Bool.and_true, kept.dotted]
    · rw [← Char.ofNat_toNat c, sigma]
      rcases form with rfl | rfl <;>
        simp only [List.all_cons, List.all_nil, Bool.and_true, kept.sigma]

/-- Only the dotted capital I has a lower case form of two characters. -/
theorem length_lowerFrom (before : List Char) {cs : List Char}
    (undotted : ∀ c ∈ cs, c.toNat ≠ 0x130) : (lowerFrom before cs).length = cs.length := by
  induction cs generalizing before with
  | nil => rfl
  | cons c cs ih =>
    obtain ⟨here, undotted⟩ := List.forall_mem_cons.1 undotted
    obtain ⟨low, split, form⟩ := lowerFrom_cons before cs c
    rw [split, List.length_append, ih (c :: before) undotted, List.length_cons, Nat.add_comm]
    congr 1
    rcases form with rfl | ⟨dotted, _⟩ | ⟨_, rfl | rfl⟩
    · rfl
    · exact absurd dotted here
    · rfl
    · rfl

theorem lowerFrom_eq_nil_iff (before cs : List Char) : lowerFrom before cs = [] ↔ cs = [] := by
  cases cs with
  | nil => exact ⟨fun _ => rfl, fun _ => rfl⟩
  | cons c cs =>
    obtain ⟨low, split, form⟩ := lowerFrom_cons before cs c
    refine ⟨fun empty => ?_, fun empty => (List.cons_ne_nil _ _ empty).elim⟩
    rw [split, List.append_eq_nil_iff] at empty
    rcases form with rfl | ⟨_, rfl⟩ | ⟨_, rfl | rfl⟩ <;> cases empty.1

/-- The lower case form of a text begins with a letter exactly if the text
does. -/
theorem head?_lowerFrom_isLetter (before cs : List Char) :
    (lowerFrom before cs).head?.map isLetter = cs.head?.map isLetter := by
  cases cs with
  | nil => rfl
  | cons c cs =>
    obtain ⟨low, split, form⟩ := lowerFrom_cons before cs c
    rw [split]
    rcases form with rfl | ⟨dotted, rfl⟩ | ⟨sigma, form⟩
    · simp only [List.singleton_append, List.head?_cons, Option.map_some, isLetter_lowerChar]
    · have letter : isLetter c = true := by rw [← Char.ofNat_toNat c, dotted]; decide
      simp only [List.cons_append, List.head?_cons, Option.map_some, letter]
      decide
    · have letter : isLetter c = true := by rw [← Char.ofNat_toNat c, sigma]; decide
      rcases form with rfl | rfl <;>
        simp only [List.singleton_append, List.head?_cons, Option.map_some, letter] <;>
        decide

/-- A text whose lower case form is ASCII has it character by character. -/
theorem forall₂_lowerChar {before cs low : List Char} (ascii : ∀ c ∈ low, c.toNat < 128)
    (same : lowerFrom before cs = low) : List.Forall₂ (fun c small => lowerChar c = small) cs low := by
  induction cs generalizing before low with
  | nil =>
    obtain rfl : low = [] := same.symm
    exact .nil
  | cons c cs ih =>
    obtain ⟨first, split, form⟩ := lowerFrom_cons before cs c
    rw [split] at same
    subst same
    have asciiFirst : ∀ small ∈ first, small.toNat < 128 :=
      fun small member => ascii small (List.mem_append_left _ member)
    rcases form with rfl | ⟨_, rfl⟩ | ⟨_, rfl | rfl⟩
    · exact .cons rfl (ih (fun small member => ascii small (List.mem_append_right _ member)) rfl)
    · exact absurd (asciiFirst (Char.ofNat 0x307) (by decide)) (by decide)
    · exact absurd (asciiFirst _ List.mem_cons_self) (by decide)
    · exact absurd (asciiFirst _ List.mem_cons_self) (by decide)

/-! ## Words that agree in lower case -/

theorem sameWord_iff {left right : String} : sameWord left right = true ↔ lower left = lower right :=
  beq_iff_eq

theorem sameWord_refl (word : String) : sameWord word word = true :=
  sameWord_iff.2 rfl

theorem sameWord_comm (left right : String) : sameWord left right = sameWord right left :=
  Bool.eq_iff_iff.2 ((sameWord_iff.trans eq_comm).trans sameWord_iff.symm)

theorem sameWord_trans {first second third : String} (left : sameWord first second = true)
    (right : sameWord second third = true) : sameWord first third = true :=
  sameWord_iff.2 ((sameWord_iff.1 left).trans (sameWord_iff.1 right))

/-- Words that agree in lower case agree with the same words. -/
theorem sameWord_congr_right {left right : String} (same : sameWord left right = true)
    (word : String) : sameWord word left = sameWord word right := by
  simp only [sameWord, sameWord_iff.1 same]

theorem sameWord_congr_left {left right : String} (same : sameWord left right = true)
    (word : String) : sameWord left word = sameWord right word := by
  simp only [sameWord, sameWord_iff.1 same]

/-- Words that agree in lower case have the same lower case characters. -/
theorem lowerFrom_eq_of_sameWord {left right : String} (same : sameWord left right = true) :
    lowerFrom [] left.toList = lowerFrom [] right.toList :=
  String.ofList_injective (sameWord_iff.1 same)

theorem KeptByCase.all_of_sameWord {p : Char → Bool} (kept : KeptByCase p) {left right : String}
    (same : sameWord left right = true) : left.toList.all p = right.toList.all p := by
  rw [← kept.all_lowerFrom [] left.toList, lowerFrom_eq_of_sameWord same, kept.all_lowerFrom]

theorem head?_isLetter_of_sameWord {left right : String} (same : sameWord left right = true) :
    left.toList.head?.map isLetter = right.toList.head?.map isLetter := by
  rw [← head?_lowerFrom_isLetter [] left.toList, lowerFrom_eq_of_sameWord same,
    head?_lowerFrom_isLetter]

/-! ## Capital letters -/

theorem hasCapitals_iff {capitals cs : List Char} : hasCapitals capitals cs = true ↔
    List.Forall₂ (fun capital c => hasCapital capital c = true) capitals cs := by
  induction capitals generalizing cs with
  | nil =>
    cases cs with
    | nil => exact iff_of_true rfl .nil
    | cons c cs => exact iff_of_false Bool.false_ne_true fun both => by cases both
  | cons capital capitals ih =>
    cases cs with
    | nil => exact iff_of_false Bool.false_ne_true fun both => by cases both
    | cons c cs => rw [hasCapitals, Bool.and_eq_true, ih, List.forall₂_cons]

/-- The only run whose lower case forms are ASCII characters is the kelvin sign. -/
theorem lowerCase_ascii_kelvin : CharTable.lowerCase.all (fun run =>
    Nat.ble 128 run.lower || Nat.beq run.lower 107 && Nat.beq run.first run.last) = true := by
  decide

/-- The small letters other than k are the lower case forms of themselves and of their
capital letters only. -/
theorem hasCapital_of_lowerChar {capital c : Char} (letter : capital.isUpper = true)
    (notK : capital ≠ 'K') (low : lowerChar c = capital.toLower) :
    hasCapital capital c = true := by
  have bounds := (isUpper_iff capital).1 letter
  have valid : (capital.toNat + 32).isValidChar := .inl (by omega)
  have small : capital.toLower.toNat = capital.toNat + 32 := by
    rw [Char.toLower_eq_of_isUpper letter, Char.toNat_ofNat, if_pos valid]
  have numbers := congrArg Char.toNat low
  rw [small] at numbers
  rw [hasCapital, Bool.or_assoc, Bool.or_assoc, Bool.or_eq_true, Bool.or_eq_true]
  rcases lowerChar_cases c with same | ⟨_, value⟩ | ⟨run, member, above, below, _, value⟩
  · rw [same] at low
    exact .inr (.inl (beq_iff_eq.2 low))
  · rw [value] at numbers
    exact .inl (beq_iff_eq.2 (Char.toNat_inj.1 (by omega)))
  · obtain ⟨_, _, _, _, shown⟩ := isProper_of_mem member above below
    have checked := List.all_eq_true.1 lowerCase_ascii_kelvin run member
    rw [value, shown] at numbers
    rw [Bool.or_eq_true, Bool.and_eq_true, Nat.ble_eq, Nat.beq_eq, Nat.beq_eq] at checked
    rcases checked with large | ⟨kelvin, single⟩
    · omega
    · have isK : capital.toNat = 'K'.toNat := by
        change capital.toNat = 75
        omega
      exact absurd (Char.toNat_inj.1 isK) notK

/-- A word that agrees with the type of statistics has its capital letters. -/
theorem hasCapitals_of_sameWord {word : String} (same : sameWord word "SMA" = true) :
    hasCapitals ['S', 'M', 'A'] word.toList = true := by
  have small : lowerFrom [] "SMA".toList = ['s', 'm', 'a'] := by decide
  have low := (lowerFrom_eq_of_sameWord same).trans small
  have pairs := forall₂_lowerChar (by simp) low
  generalize word.toList = cs at pairs
  obtain _ | ⟨first, _ | ⟨second, _ | ⟨third, _ | _⟩⟩⟩ := pairs
  refine hasCapitals_iff.2 (.cons ?_ (.cons ?_ (.cons ?_ .nil)))
  · exact hasCapital_of_lowerChar (by decide) (by decide) first
  · exact hasCapital_of_lowerChar (by decide) (by decide) second
  · exact hasCapital_of_lowerChar (by decide) (by decide) third

end Meteogram.Text
