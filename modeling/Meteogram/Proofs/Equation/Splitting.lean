import Meteogram.Proofs.Equation.Acceptance

/-!
# An equation falls into tokens in one way

The tokens of an equation are the only words of their form that make up its text without the
blanks (`tokenize_eq_iff`). Words of this form may therefore be joined, and are found again in
what they make up. The check depends on it: it writes an equation from its pieces and takes its
own text apart in the next round, until nothing is left to expand. The words that the last round
writes are the tokens of the text that it gives (`equations_fall_into_tokens_in_one_way`).
-/

set_option autoImplicit false

namespace Meteogram.Equation

open Meteogram.Text

/-! ## Words that may be tokens -/

/-- Each of the words is an operator or a bracket, or it is not empty and has no operators, brackets
and blanks in it, and no two of the latter kind are neighbours. -/
structure AreTokens (words : List String) : Prop where
  form : ∀ word ∈ words, IsMark word.toList ∨ IsPlain word.toList
  apart : words.IsChain fun first second => ¬ (IsPlain first.toList ∧ IsPlain second.toList)

theorem IsMark.not_isPlain {token : Token} (mark : IsMark token) : ¬ IsPlain token := by
  intro plain
  obtain ⟨c, marked, rfl⟩ := mark
  simp [plain.head.1] at marked

/-- The form of tokens word by word is that of separated tokens. -/
theorem areTokens_iff {words : List String} :
    AreTokens words ↔ Separated (words.map String.toList) := by
  constructor
  · rintro ⟨form, apart⟩
    induction words with
    | nil => exact .nil
    | cons word words ih =>
      obtain ⟨here, form⟩ := List.forall_mem_cons.1 form
      obtain ⟨neighbours, apart⟩ := List.isChain_cons.1 apart
      have next := ih form apart
      rcases here with mark | plain
      · exact .mark mark next
      · refine .plain plain next ?_
        intro neighbour member
        rw [List.head?_map, Option.mem_map] at member
        obtain ⟨second, isSecond, rfl⟩ := member
        rcases form second (List.mem_of_mem_head? isSecond) with mark | plain'
        · exact mark
        · exact absurd ⟨plain, plain'⟩ (neighbours second isSecond)
  · intro separated
    constructor
    · intro word member
      exact separated.mem (List.mem_map_of_mem member)
    · induction words with
      | nil => exact .nil
      | cons word words ih =>
        refine List.isChain_cons.2 ⟨?_, ih separated.tail⟩
        rintro second isSecond ⟨plain, plain'⟩
        have mark := separated.apart (fun mark => mark.not_isPlain plain) second.toList
          (by rw [List.head?_map]; exact Option.mem_map_of_mem _ isSecond)
        exact mark.not_isPlain plain'

/-- The tokens of a text are the only words of their form that join to the text without its
blanks. -/
theorem tokenize_eq_iff {text : String} {words : List String} :
    tokenize text = words ↔
      AreTokens words ∧ (String.join words).toList = withoutBlanks text.toList := by
  rw [areTokens_iff, String.toList_join, List.flatMap_def, ← tokensOf_eq_iff, tokenize]
  constructor
  · rintro rfl
    simp [Function.comp_def]
  · intro same
    simp [same, Function.comp_def]

/-- Words of the form of tokens are found again in what they make up. -/
theorem AreTokens.tokenize_join {words : List String} (tokens : AreTokens words) :
    tokenize (String.join words) = words := by
  refine tokenize_eq_iff.2 ⟨tokens, ?_⟩
  rw [String.toList_join, List.flatMap_def, (areTokens_iff.1 tokens).withoutBlanks_flatten]

/-! ## What the check writes -/

/-- The words, one after the other, are what the check writes for some text, with nothing left to
expand. -/
def AreChecked (scope : Scope) (words : List String) : Prop :=
  ∃ text, checkText scope text = .ok (words.map fun word => .token word.toList)

section

variable {scope : Scope} {spelling? : String → Option String} {defined : Definitions}

theorem Scope.Spells.checkText_eq (spells : scope.Spells spelling? defined) (text : List Char) :
    checkText scope text = checkText (.chart spelling? defined) text := by
  cases spells with
  | definitions =>
    refine check_congr ?_ _ _ _ _
    intro word
    simp only [Scope.resolve, String.toList_ofList]
  | chart => rfl

/-- What a check has written is made up of words, if nothing is left to expand. -/
theorem exists_checked_of_flat {pieces : List Piece} {text : List Char}
    (checked : checkText scope text = .ok pieces) (flat : pieces.any Piece.isExpansion = false) :
    ∃ words, AreChecked scope words ∧ textOf pieces = (words.map String.toList).flatten := by
  obtain ⟨words, rfl⟩ : ∃ words : List String,
      pieces = words.map fun word => .token word.toList := by
    clear checked
    induction pieces with
    | nil => exact ⟨[], rfl⟩
    | cons piece pieces ih =>
      rw [List.any_cons, Bool.or_eq_false_iff] at flat
      obtain ⟨words, rfl⟩ := ih flat.2
      cases piece with
      | token word => exact ⟨String.ofList word :: words, by simp⟩
      | expansion equation => cases flat.1
  refine ⟨words, ⟨text, checked⟩, ?_⟩
  rw [textOf, List.flatMap_map, List.flatMap_def]
  rfl

/-- The check of a word keeps marks and blanks out of it, so what it writes has the form of
tokens. -/
theorem AreChecked.areTokens (spells : scope.Spells spelling? defined) {words : List String}
    (checked : AreChecked scope words) : AreTokens words := by
  obtain ⟨text, written⟩ := checked
  rw [spells.checkText_eq] at written
  obtain ⟨_, known, pieces⟩ := checkText_eq_ok_iff.1 written
  have separated := separated_round spells.isSpelling (separated_tokensOf text) known
  have flat : (Scope.chart spelling? defined).round (tokensOf text) = words.map String.toList := by
    rw [Scope.round, ← List.flatMap_map, ← pieces, List.flatMap_map, List.map_eq_flatMap]
    rfl
  rwa [areTokens_iff, ← flat]

/-- The rounds end with what a check has written. -/
theorem exists_checked_of_settle {rounds : Nat} {pieces : List Piece} {text out : List Char}
    (checked : checkText scope text = .ok pieces) (settled : settle scope rounds pieces = .ok out) :
    ∃ words, AreChecked scope words ∧ out = (words.map String.toList).flatten := by
  induction rounds generalizing text pieces with
  | zero =>
    cases flat : pieces.any Piece.isExpansion with
    | true =>
      rw [settle, if_pos flat] at settled
      cases settled
    | false =>
      rw [settle_flat flat] at settled
      exact Except.ok.inj settled ▸ exists_checked_of_flat checked flat
  | succ rounds ih =>
    cases flat : pieces.any Piece.isExpansion with
    | true =>
      rw [settle, if_pos flat] at settled
      obtain ⟨next, checked', settled'⟩ := bind_eq_ok.1 settled
      exact ih checked' settled'
    | false =>
      rw [settle_flat flat] at settled
      exact Except.ok.inj settled ▸ exists_checked_of_flat checked flat

/-- The text of an equation is what the last check of it has written. -/
theorem exists_checked_of_evaluate {equation text : String}
    (evaluated : evaluate scope equation = .ok text) :
    ∃ words, AreChecked scope words ∧ String.join words = text := by
  obtain ⟨pieces, checked, rest⟩ := bind_eq_ok.1 evaluated
  obtain ⟨out, settled, last⟩ := bind_eq_ok.1 rest
  obtain ⟨words, isChecked, rfl⟩ := exists_checked_of_settle checked settled
  refine ⟨words, isChecked, ?_⟩
  split at last
  · cases last
  · rw [← Except.ok.inj last, ← List.flatMap_def, ← String.toList_join, String.ofList_toList]

end

/-! ## One way only -/

/-- The tokens of a text are the only words of their form that make up the text without its blanks.
So words of this form are found again in what they make up, whatever they are. In particular, the
text that comes of an equation is made up of words that the last check of it has written, and these
are its tokens. -/
theorem equations_fall_into_tokens_in_one_way :
    (∀ (text : String) (words : List String), tokenize text = words ↔
      AreTokens words ∧ (String.join words).toList = withoutBlanks text.toList) ∧
    (∀ words : List String, AreTokens words → tokenize (String.join words) = words) ∧
    ∀ (scope : Scope) (spelling? : String → Option String) (defined : Definitions),
      scope.Spells spelling? defined → ∀ equation text : String,
        evaluate scope equation = .ok text →
          ∃ words, AreChecked scope words ∧ AreTokens words ∧ String.join words = text ∧
            tokenize text = words := by
  refine ⟨fun text words => tokenize_eq_iff, fun words tokens => tokens.tokenize_join, ?_⟩
  intro scope spelling? defined spells equation text evaluated
  obtain ⟨words, checked, rfl⟩ := exists_checked_of_evaluate evaluated
  have tokens := checked.areTokens spells
  exact ⟨words, checked, tokens, rfl, tokens.tokenize_join⟩

/-- Words that make up no equation, and an equation that uses another one, with blanks in the words
of both. -/
theorem spaced_words_are_found_again :
    AreTokens ["Temp", "(", "2"] ∧ tokenize "Temp(2" = ["Temp", "(", "2"] ∧
      evaluate (.chart onlyTemp [("Half", "te mp / 2")]) "1 - Ha lf" = .ok "1-(Temp/2)" ∧
        AreChecked (.chart onlyTemp [("Half", "te mp / 2")])
          ["1", "-", "(", "Temp", "/", "2", ")"] := by
  obtain ⟨only, again, checked⟩ := equations_fall_into_tokens_in_one_way
  have tokens : AreTokens ["Temp", "(", "2"] := ((only "Temp(2" _).1 (by decide)).1
  have evaluated : evaluate (.chart onlyTemp [("Half", "te mp / 2")]) "1 - Ha lf" =
      .ok "1-(Temp/2)" := by decide +kernel
  have spells : (Scope.chart onlyTemp [("Half", "te mp / 2")]).Spells onlyTemp
      [("Half", "te mp / 2")] := .chart (isSpelling_spellingIn _ _) _
  obtain ⟨words, isChecked, _, _, found⟩ := checked _ _ _ spells _ _ evaluated
  have same : tokenize "1-(Temp/2)" = ["1", "-", "(", "Temp", "/", "2", ")"] := by decide
  exact ⟨tokens, again _ tokens, evaluated, (found.symm.trans same) ▸ isChecked⟩

end Meteogram.Equation
