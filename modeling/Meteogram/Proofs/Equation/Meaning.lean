import Meteogram.Chart.Keyword
import Meteogram.Proofs.Equation.Formed

/-!
# What the tokens of an equation stand for

A token stands for itself, for a function or a keyword in its own spelling, or
for the text of an equation that was defined in front of the charts (`Meaning`).
Replacing every token by what it stands for, once, is a round. A round keeps the
tokens separated and formed, and it is what the text of the pieces of a check is
read as when it is checked again (`tokensOf_textOf`).
-/

set_option autoImplicit false

namespace Meteogram.Equation

open Meteogram.Text

/-! ## Spellings -/

/-- The own spelling of a word that is a keyword of the range. -/
def spellingIn (tables : Tables) (range : DataRange) (word : String) : Option String :=
  (tables.lookup? range word).map Keyword.name

/-- A way to spell words: the spelling of a word differs from it in letter case
at most, and is spelled as it is. -/
structure IsSpelling (spelling? : String → Option String) : Prop where
  same : ∀ {word name : String}, spelling? word = some name → sameWord name word = true
  again : ∀ {word name : String}, spelling? word = some name → spelling? name = some name

theorem lookup?_congr {left right : String} (same : sameWord left right = true) (tables : Tables)
    (range : DataRange) : tables.lookup? range left = tables.lookup? range right := by
  simp only [Tables.lookup?, Keyword.isWrittenAs, sameWord_congr_right same]

theorem sameWord_of_lookup? {tables : Tables} {range : DataRange} {word : String}
    {keyword : Keyword} (found : tables.lookup? range word = some keyword) :
    sameWord keyword.name word = true :=
  List.find?_some (p := fun keyword : Keyword => keyword.isWrittenAs word) found

theorem isSpelling_spellingIn (tables : Tables) (range : DataRange) :
    IsSpelling (spellingIn tables range) where
  same := by
    intro word name spelled
    obtain ⟨keyword, found, rfl⟩ := Option.map_eq_some_iff.1 spelled
    exact sameWord_of_lookup? found
  again := by
    intro word name spelled
    obtain ⟨keyword, found, rfl⟩ := Option.map_eq_some_iff.1 spelled
    rw [spellingIn, lookup?_congr (sameWord_of_lookup? found), found, Option.map_some]

/-- In the block of definitions every word is spelled as it is. -/
theorem isSpelling_some : IsSpelling some where
  same := fun spelled => by cases spelled; exact sameWord_refl _
  again := fun _ => rfl

theorem ofWord?_congr {left right : String} (same : sameWord left right = true) :
    Function.ofWord? left = Function.ofWord? right := by
  simp only [Function.ofWord?, sameWord_congr_right same]

theorem kindOf_eq_word_iff (token : Token) :
    kindOf token = .word ↔ token.head?.map isLetter = some true := by
  cases token with
  | nil => exact ⟨fun word => (by cases word), fun word => (by cases word)⟩
  | cons c cs =>
    rw [List.head?_cons, Option.map_some, Option.some_inj, kindOf]
    by_cases letter : isLetter c = true
    · have notOpening : (c == '(') = false := by
        refine Bool.eq_false_iff.2 fun opening => ?_
        rw [beq_iff_eq.1 opening] at letter
        exact absurd letter (by decide)
      have notOperator : isOperator c = false := by
        refine Bool.eq_false_iff.2 fun operator => ?_
        have mark : isMark c = true := by rw [isMark, operator, Bool.true_or]
        rcases isMark_cases mark with rfl | rfl | rfl | rfl | rfl | rfl | rfl <;>
          exact absurd letter (by decide)
      simp only [letter, notOpening, notOperator, Bool.false_eq_true, if_false, if_true]
    · refine ⟨fun isWord => ?_, fun isLetter => absurd isLetter letter⟩
      split_ifs at isWord

/-- A word that agrees with a name in lower case is a name as well. -/
theorem IsName.congr {word : Token} {name : String} (isName : IsName word)
    (same : sameWord name (String.ofList word) = true) : IsName name.toList := by
  refine ⟨(kindOf_eq_word_iff _).2 ?_, ?_⟩
  · rw [head?_isLetter_of_sameWord same, String.toList_ofList]
    exact (kindOf_eq_word_iff _).1 isName.1
  · rw [String.ofList_toList, ofWord?_congr same]
    exact isName.2

/-- A word that agrees with a word of an equation in lower case may stand in an
equation as well. -/
theorem IsPlain.congr {word : Token} {name : String} (plain : IsPlain word)
    (same : sameWord name (String.ofList word) = true) : IsPlain name.toList := by
  refine ⟨fun empty => plain.nonempty ?_, ?_⟩
  · have lowered := lowerFrom_eq_of_sameWord same
    rw [empty, String.toList_ofList] at lowered
    exact (lowerFrom_eq_nil_iff [] word).1 lowered.symm
  · rw [isPlain_keptByCase.all_of_sameWord same, String.toList_ofList]
    exact plain.plain

/-! ## What tokens stand for -/

section

variable (spelling? : String → Option String) (defined : Definitions)

/-- The word is no keyword, and an equation with this text is defined under
it. -/
structure Defines (word : Token) (text : String) : Prop where
  isName : IsName word
  noKeyword : spelling? (String.ofList word) = none
  found : defined.find? (String.ofList word) = some text

/-- What a token stands for: a function for its name in lower case, a keyword
for itself in its own spelling, the name of an equation for its text, and what
is no word for itself. -/
inductive Meaning : Token → Piece → Prop where
  | plain {token : Token} (notWord : kindOf token ≠ .word) : Meaning token (.token token)
  | function {word : Token} {function : Function} (isWord : kindOf word = .word)
      (named : Function.ofWord? (String.ofList word) = some function) :
      Meaning word (.token function.name.toList)
  | keyword {word : Token} {name : String} (isName : IsName word)
      (spelled : spelling? (String.ofList word) = some name) : Meaning word (.token name.toList)
  | equation {word : Token} {text : String} (defines : Defines spelling? defined word text) :
      Meaning word (.expansion text.toList)

end

section

variable {spelling? : String → Option String} {defined : Definitions}

/-! ## Tokens and their pieces -/

theorem resolve_keyword {word : Token} {name : String}
    (spelled : spelling? (String.ofList word) = some name) :
    (Scope.chart spelling? defined).resolve word = .ok (.token name.toList) := by
  simp only [Scope.resolve, spelled]

theorem Defines.resolve {word : Token} {text : String}
    (defines : Defines spelling? defined word text) :
    (Scope.chart spelling? defined).resolve word = .ok (.expansion text.toList) := by
  simp only [Scope.resolve, defines.noKeyword, defines.found]

/-- What a word can be resolved to. -/
theorem resolve_eq_ok {word : Token} {piece : Piece}
    (resolved : (Scope.chart spelling? defined).resolve word = .ok piece) :
    (∃ name, spelling? (String.ofList word) = some name ∧ piece = .token name.toList) ∨
      ∃ text, spelling? (String.ofList word) = none ∧
        defined.find? (String.ofList word) = some text ∧ piece = .expansion text.toList := by
  rw [Scope.resolve] at resolved
  split at resolved
  · next name spelled => exact .inl ⟨name, spelled, (Except.ok.inj resolved).symm⟩
  · next unspelled =>
    split at resolved
    · next text found => exact .inr ⟨text, unspelled, found, (Except.ok.inj resolved).symm⟩
    · cases resolved

/-- A token has a meaning exactly if it is known, and its piece is the
meaning. -/
theorem meaning_iff {token : Token} {piece : Piece} :
    Meaning spelling? defined token piece ↔
      (Scope.chart spelling? defined).Knows token ∧
        (Scope.chart spelling? defined).pieceOf token = piece := by
  constructor
  · intro meaning
    cases meaning with
    | plain notWord =>
      exact ⟨Scope.knows_of_not_word notWord, Scope.pieceOf_of_not_word notWord⟩
    | function isWord named =>
      exact ⟨Scope.knows_function named, Scope.pieceOf_function isWord named⟩
    | keyword isName spelled =>
      exact ⟨fun _ => ⟨_, resolve_keyword spelled⟩,
        Scope.pieceOf_name isName (resolve_keyword spelled)⟩
    | equation defines =>
      exact ⟨fun _ => ⟨_, defines.resolve⟩, Scope.pieceOf_name defines.isName defines.resolve⟩
  · rintro ⟨known, rfl⟩
    by_cases isWord : kindOf token = .word
    · cases named : Function.ofWord? (String.ofList token) with
      | some function =>
        rw [Scope.pieceOf_function isWord named]
        exact .function isWord named
      | none =>
        obtain ⟨piece, resolved⟩ := known ⟨isWord, named⟩
        rw [Scope.pieceOf_name ⟨isWord, named⟩ resolved]
        rcases resolve_eq_ok resolved with ⟨name, spelled, rfl⟩ | ⟨text, unspelled, found, rfl⟩
        · exact .keyword ⟨isWord, named⟩ spelled
        · exact .equation ⟨⟨isWord, named⟩, unspelled, found⟩
    · rw [Scope.pieceOf_of_not_word isWord]
      exact .plain isWord

/-- A token has one meaning at most. -/
theorem Meaning.unique {token : Token} {first second : Piece}
    (left : Meaning spelling? defined token first)
    (right : Meaning spelling? defined token second) : first = second :=
  (meaning_iff.1 left).2.symm.trans (meaning_iff.1 right).2

/-- Only the name of a defined equation stands for an equation. -/
theorem Meaning.defines {token : Token} {equation : List Char}
    (meaning : Meaning spelling? defined token (.expansion equation)) :
    ∃ text, Defines spelling? defined token text ∧ equation = text.toList := by
  cases meaning with
  | equation defines => exact ⟨_, defines, rfl⟩

/-- What a token stands for, if it is not an equation, stands for itself,
whatever is defined. -/
theorem Meaning.again (spelling : IsSpelling spelling?) {token word : Token}
    (meaning : Meaning spelling? defined token (.token word)) (others : Definitions) :
    Meaning spelling? others word (.token word) := by
  cases meaning with
  | plain notWord => exact .plain notWord
  | @function function isWord named =>
    have again : Function.ofWord? (String.ofList function.name.toList) = some function ∧
        kindOf function.name.toList = .word := by
      cases function <;> exact ⟨by decide, by decide⟩
    exact .function again.2 again.1
  | @keyword name isName spelled =>
    refine .keyword (isName.congr (spelling.same spelled)) ?_
    rw [String.ofList_toList, spelling.again spelled]

/-- What a token stands for may stand between the same marks. -/
theorem Meaning.separable (spelling : IsSpelling spelling?) {token word : Token}
    (meaning : Meaning spelling? defined token (.token word)) (plain : IsPlain token) :
    IsPlain word := by
  cases meaning with
  | plain _ => exact plain
  | @function function _ _ =>
    exact ⟨by cases function <;> decide, by cases function <;> decide⟩
  | keyword isName spelled => exact plain.congr (spelling.same spelled)

theorem IsMark.not_word {token : Token} (mark : IsMark token) : kindOf token ≠ .word := by
  obtain ⟨c, marked, rfl⟩ := mark
  rcases isMark_cases marked with rfl | rfl | rfl | rfl | rfl | rfl | rfl <;> decide

theorem IsMark.meaning {token : Token} (mark : IsMark token) :
    Meaning spelling? defined token (.token token) :=
  .plain mark.not_word

/-! ## One round of replacements -/

/-- The tokens that a piece is taken apart into. -/
def Piece.tokens : Piece → List Token
  | .token word => [word]
  | .expansion equation => ['('] :: tokensOf equation ++ [[')']]

/-- The tokens after every name of an equation has been replaced once. -/
def Scope.round (scope : Scope) (tokens : List Token) : List Token :=
  tokens.flatMap fun token => (scope.pieceOf token).tokens

theorem round_cons (scope : Scope) (token : Token) (rest : List Token) :
    scope.round (token :: rest) = (scope.pieceOf token).tokens ++ scope.round rest :=
  List.flatMap_cons

theorem round_append (scope : Scope) (front back : List Token) :
    scope.round (front ++ back) = scope.round front ++ scope.round back :=
  List.flatMap_append

/-- A mark stays what it is. -/
theorem IsMark.round_cons {token : Token} (mark : IsMark token) (scope : Scope)
    (rest : List Token) : scope.round (token :: rest) = token :: scope.round rest := by
  rw [Equation.round_cons, Scope.pieceOf_of_not_word mark.not_word, Piece.tokens,
    List.singleton_append]

/-- A round keeps the tokens separated. -/
theorem separated_round (spelling : IsSpelling spelling?) {tokens : List Token}
    (separated : Separated tokens)
    (known : ∀ token ∈ tokens, (Scope.chart spelling? defined).Knows token) :
    Separated ((Scope.chart spelling? defined).round tokens) := by
  induction separated with
  | nil => exact .nil
  | mark marked _ ih =>
    obtain ⟨_, known⟩ := List.forall_mem_cons.1 known
    rw [marked.round_cons]
    exact .mark marked (ih known)
  | @plain token rest solid _ apart ih =>
    obtain ⟨here, known⟩ := List.forall_mem_cons.1 known
    have apart' : ∀ neighbour ∈ ((Scope.chart spelling? defined).round rest).head?,
        IsMark neighbour := by
      cases rest with
      | nil => exact fun _ member => by cases member
      | cons neighbour more =>
        rw [(apart neighbour rfl).round_cons]
        exact apart
    have meaning := meaning_iff.2 ⟨here, rfl⟩
    rw [Equation.round_cons]
    cases piece : (Scope.chart spelling? defined).pieceOf token with
    | token word =>
      rw [piece] at meaning
      exact .plain (meaning.separable spelling solid) (ih known) apart'
    | expansion equation =>
      exact (separated_tokensOf equation).bracketed.append (ih known) apart'

/-- A round keeps the tokens of an equation in order, if the defined equations
are in order. -/
theorem Formed.round (spelling : IsSpelling spelling?)
    (inOrder : ∀ word text, Defines spelling? defined word text →
      Formed false false (tokensOf text.toList))
    {comma pending : Bool} {tokens : List Token} (formed : Formed comma pending tokens)
    (known : ∀ token ∈ tokens, (Scope.chart spelling? defined).Knows token) :
    Formed comma pending ((Scope.chart spelling? defined).round tokens) := by
  induction formed with
  | done => exact .done
  | operator kind allowed _ ih =>
    obtain ⟨_, known⟩ := List.forall_mem_cons.1 known
    rw [Equation.round_cons, Scope.pieceOf_of_not_word (by rw [kind]; decide)]
    exact .operator kind allowed (ih known)
  | group _ _ ihInside ih =>
    simp only [List.forall_mem_cons, List.forall_mem_append] at known
    obtain ⟨⟨_, knownInside⟩, _, known⟩ := known
    rw [round_append, Equation.round_cons, Equation.round_cons, Scope.pieceOf_opening,
      Scope.pieceOf_closing]
    exact .group (ihInside knownInside) (ih known)
  | @call comma pending word function inner rest kind named _ _ ihInside ih =>
    simp only [List.forall_mem_cons, List.forall_mem_append] at known
    obtain ⟨⟨_, _, knownInside⟩, _, known⟩ := known
    rw [round_append, Equation.round_cons, Equation.round_cons, Equation.round_cons,
      Scope.pieceOf_opening, Scope.pieceOf_closing, Scope.pieceOf_function kind named]
    have again : kindOf function.name.toList = .word ∧
        Function.ofWord? (String.ofList function.name.toList) = some function := by
      cases function <;> exact ⟨by decide, by decide⟩
    exact .call again.1 again.2 (ihInside knownInside) (ih known)
  | @word comma pending word rest kind unnamed _ ih =>
    obtain ⟨here, known⟩ := List.forall_mem_cons.1 known
    have meaning := meaning_iff.2 ⟨here, rfl⟩
    rw [Equation.round_cons]
    cases piece : (Scope.chart spelling? defined).pieceOf word with
    | token kept =>
      rw [piece] at meaning
      have isName : IsName kept := by
        cases meaning with
        | plain notWord => exact absurd kind notWord
        | function _ named => rw [unnamed] at named; cases named
        | keyword isName spelled => exact isName.congr (spelling.same spelled)
      exact .word isName.1 isName.2 (ih known)
    | expansion equation =>
      rw [piece] at meaning
      obtain ⟨text, defines, rfl⟩ := meaning.defines
      rw [Piece.tokens, List.append_assoc]
      exact .group (inOrder word text defines) (ih known)
  | number kind real _ ih =>
    obtain ⟨_, known⟩ := List.forall_mem_cons.1 known
    rw [Equation.round_cons, Scope.pieceOf_of_not_word (by rw [kind]; decide)]
    exact .number kind real (ih known)

/-- Taking the text of the pieces apart is one round. -/
theorem tokensOf_textOf (spelling : IsSpelling spelling?) {tokens : List Token}
    (separated : Separated tokens)
    (known : ∀ token ∈ tokens, (Scope.chart spelling? defined).Knows token) :
    tokensOf (textOf (tokens.map (Scope.chart spelling? defined).pieceOf)) =
      (Scope.chart spelling? defined).round tokens := by
  have next := separated_round spelling separated known
  refine tokensOf_eq_iff.2 ⟨next, ?_⟩
  rw [← next.withoutBlanks_flatten]
  clear next separated known
  induction tokens with
  | nil => rfl
  | cons token rest ih =>
    have here : ∀ piece : Piece,
        withoutBlanks piece.tokens.flatten = withoutBlanks piece.text := by
      intro piece
      cases piece with
      | token word => rw [Piece.tokens, List.flatten_singleton, Piece.text]
      | expansion equation =>
        simp only [Piece.tokens, Piece.text, List.flatten_cons, List.flatten_append,
          List.flatten_nil, flatten_tokensOf, withoutBlanks, List.filter_append,
          List.filter_filter, Bool.and_self, List.cons_append, List.filter_cons, List.nil_append,
          List.append_nil]
    rw [Equation.round_cons, List.map_cons, textOf, List.flatMap_cons, List.flatten_append,
      withoutBlanks, withoutBlanks, List.filter_append, List.filter_append]
    exact congr (congrArg _ (here _)) ih

end

end Meteogram.Equation
