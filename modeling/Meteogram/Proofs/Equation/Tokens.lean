import Meteogram.Equation.Check
import Meteogram.Proofs.Text.LowerCase

/-!
# The tokens of an equation determine its text

A list of tokens is separated if each of them is a mark or a word without marks
and blanks, and no two words are neighbours. The tokens of an equation are
separated, joined they are its text without blanks, and no other separated list
joins to that text (`tokensOf_eq_iff`). So a checked equation, which is written
from its pieces, is taken apart into the same pieces when it is checked again.
-/

set_option autoImplicit false

namespace Meteogram.Equation

open Meteogram.Text

/-! ## Marks and words -/

/-- A character that words are made of. -/
def isPlain (c : Char) : Bool :=
  !isMark c && !isBlank c

/-- A token that is neither an operator nor a bracket. -/
structure IsPlain (token : Token) : Prop where
  nonempty : token ≠ []
  plain : token.all isPlain = true

/-- A token that is an operator or a bracket. -/
def IsMark (token : Token) : Prop :=
  ∃ mark, isMark mark = true ∧ token = [mark]

/-- The marks are the five operators and the two brackets. -/
theorem isMark_cases {c : Char} (mark : isMark c = true) :
    c = '+' ∨ c = '-' ∨ c = '*' ∨ c = '/' ∨ c = ',' ∨ c = '(' ∨ c = ')' := by
  simpa only [isMark, isOperator, isBracket, Bool.or_eq_true, beq_iff_eq, or_assoc] using mark

theorem isBlank_of_isMark {c : Char} (mark : isMark c = true) : isBlank c = false := by
  rcases isMark_cases mark with rfl | rfl | rfl | rfl | rfl | rfl | rfl <;> decide

theorem IsPlain.head {c : Char} {cs : List Char} (plain : IsPlain (c :: cs)) :
    isMark c = false ∧ isBlank c = false := by
  have here := List.all_eq_true.1 plain.plain c List.mem_cons_self
  simpa only [isPlain, Bool.and_eq_true, Bool.not_eq_true'] using here

theorem isPlain_singleton {c : Char} (notMark : isMark c = false) (notBlank : isBlank c = false) :
    IsPlain [c] :=
  ⟨List.cons_ne_nil _ _, by simp only [List.all_cons, List.all_nil, isPlain, notMark, notBlank,
    Bool.not_false, Bool.and_true]⟩

theorem IsPlain.cons {c : Char} {token : Token} (notMark : isMark c = false)
    (notBlank : isBlank c = false) (plain : IsPlain token) : IsPlain (c :: token) :=
  ⟨List.cons_ne_nil _ _, by simp only [List.all_cons, plain.plain, isPlain, notMark, notBlank,
    Bool.not_false, Bool.and_true]⟩

/-- Lower case keeps the characters of words apart from marks and blanks. -/
theorem isPlain_keptByCase : KeptByCase isPlain where
  lowerChar c := by
    by_cases same : lowerChar c = c
    · rw [same]
    · obtain ⟨blank, lowBlank, least, lowLeast⟩ := lowerChar_ne_cases same
      have beyond : ∀ d : Char, 65 ≤ d.toNat → isMark d = false := by
        intro d large
        refine Bool.eq_false_iff.2 fun mark => ?_
        rcases isMark_cases mark with rfl | rfl | rfl | rfl | rfl | rfl | rfl <;>
          revert large <;> decide
      rw [isPlain, isPlain, blank, lowBlank, beyond c least, beyond _ (by omega)]
  dotted := by decide
  sigma := by decide

/-! ## Separated tokens -/

/-- Each token is a mark or a word, and no two words are neighbours. -/
inductive Separated : List Token → Prop where
  | nil : Separated []
  | mark {token : Token} {rest : List Token} (marked : IsMark token) (next : Separated rest) :
      Separated (token :: rest)
  | plain {token : Token} {rest : List Token} (solid : IsPlain token) (next : Separated rest)
      (apart : ∀ neighbour ∈ rest.head?, IsMark neighbour) : Separated (token :: rest)

theorem IsMark.singleton {c : Char} (mark : isMark c = true) : IsMark [c] := ⟨c, mark, rfl⟩

namespace Separated

theorem tail {token : Token} {rest : List Token} (separated : Separated (token :: rest)) :
    Separated rest := by
  cases separated with
  | mark _ next => exact next
  | plain _ next _ => exact next

theorem head {token : Token} {rest : List Token} (separated : Separated (token :: rest)) :
    IsMark token ∨ IsPlain token := by
  cases separated with
  | mark marked _ => exact .inl marked
  | plain solid _ _ => exact .inr solid

theorem apart {token : Token} {rest : List Token} (separated : Separated (token :: rest))
    (notMark : ¬ IsMark token) : ∀ neighbour ∈ rest.head?, IsMark neighbour := by
  cases separated with
  | mark marked _ => exact absurd marked notMark
  | plain _ _ apart => exact apart

theorem of_append_right {front back : List Token} (separated : Separated (front ++ back)) :
    Separated back := by
  induction front with
  | nil => exact separated
  | cons token front ih => exact ih separated.tail

theorem of_append_left {front back : List Token} (separated : Separated (front ++ back)) :
    Separated front := by
  induction front with
  | nil => exact .nil
  | cons token front ih =>
    cases separated with
    | mark marked next => exact .mark marked (ih next)
    | plain solid next apart =>
      refine .plain solid (ih next) fun neighbour member => apart neighbour ?_
      cases front with
      | nil => cases member
      | cons first more => exact member

theorem mem {tokens : List Token} (separated : Separated tokens) {token : Token}
    (member : token ∈ tokens) : IsMark token ∨ IsPlain token := by
  obtain ⟨front, back, rfl⟩ := List.append_of_mem member
  exact separated.of_append_right.head

/-- Two lists of tokens may be joined at a mark that begins the second one. -/
theorem append {front back : List Token} (first : Separated front) (second : Separated back)
    (apart : ∀ neighbour ∈ back.head?, IsMark neighbour) : Separated (front ++ back) := by
  induction first with
  | nil => exact second
  | mark marked _ ih => exact .mark marked ih
  | @plain token rest solid _ neighbours ih =>
    refine .plain solid ih fun neighbour member => ?_
    cases rest with
    | nil => exact apart neighbour member
    | cons following more => exact neighbours neighbour member

/-- Tokens in brackets are separated. -/
theorem bracketed {tokens : List Token} (separated : Separated tokens) :
    Separated (['('] :: tokens ++ [[')']]) := by
  have closing : IsMark [')'] := .singleton (by decide)
  refine .mark (.singleton (by decide)) (separated.append (.mark closing .nil) ?_)
  intro neighbour member
  obtain rfl : [')'] = neighbour := by simpa using member
  exact closing

end Separated

/-! ## Taking a text apart -/

theorem splitMarks_mark {c : Char} (mark : isMark c = true) (cs : List Char) :
    splitMarks (c :: cs) = [c] :: splitMarks cs := by
  cases cs <;> simp only [splitMarks, mark, if_true]

theorem splitMarks_last {c : Char} (notMark : isMark c = false) : splitMarks [c] = [[c]] := by
  simp only [splitMarks, notMark, Bool.false_eq_true, if_false]

theorem splitMarks_before_mark {c d : Char} (notMark : isMark c = false) (mark : isMark d = true)
    (cs : List Char) : splitMarks (c :: d :: cs) = [c] :: splitMarks (d :: cs) := by
  simp only [splitMarks, notMark, mark, Bool.false_eq_true, if_false, if_true]

theorem splitMarks_before_plain {c d : Char} (notMark : isMark c = false)
    (notMark' : isMark d = false) (cs : List Char) :
    splitMarks (c :: d :: cs) = attach c (splitMarks (d :: cs)) := by
  rw [splitMarks, if_neg (by rw [notMark]; decide), if_neg (by rw [notMark']; decide)]

/-- A word is split off as a whole. -/
theorem splitMarks_plain_append {word : Token} (solid : IsPlain word) {rest : List Char}
    (apart : ∀ next ∈ rest.head?, isMark next = true) :
    splitMarks (word ++ rest) = word :: splitMarks rest := by
  obtain ⟨nonempty, plain⟩ := solid
  induction word with
  | nil => exact absurd rfl nonempty
  | cons c word ih =>
    have notMark : isMark c = false := (IsPlain.mk nonempty plain).head.1
    cases word with
    | nil =>
      cases rest with
      | nil => exact splitMarks_last notMark
      | cons next more => exact splitMarks_before_mark notMark (apart next rfl) more
    | cons d word =>
      rw [List.all_cons, Bool.and_eq_true] at plain
      have solid : IsPlain (d :: word) := ⟨List.cons_ne_nil _ _, plain.2⟩
      have inner := ih solid.nonempty solid.plain
      rw [List.cons_append, List.cons_append, splitMarks_before_plain notMark solid.head.1,
        ← List.cons_append, inner, attach]

/-- The first token of a text begins as the text does. -/
theorem splitMarks_cons (c : Char) (cs : List Char) :
    ∃ token rest, splitMarks (c :: cs) = (c :: token) :: rest := by
  by_cases mark : isMark c = true
  · exact ⟨_, _, splitMarks_mark mark cs⟩
  · have notMark := Bool.eq_false_iff.2 mark
    cases cs with
    | nil => exact ⟨_, _, splitMarks_last notMark⟩
    | cons d cs =>
      by_cases mark' : isMark d = true
      · exact ⟨_, _, splitMarks_before_mark notMark mark' cs⟩
      · rw [splitMarks_before_plain notMark (Bool.eq_false_iff.2 mark')]
        cases splitMarks (d :: cs) with
        | nil => exact ⟨_, _, rfl⟩
        | cons token rest => exact ⟨_, _, rfl⟩

theorem flatten_attach (c : Char) (pieces : List (List Char)) :
    (attach c pieces).flatten = c :: pieces.flatten := by
  cases pieces <;> rfl

/-- Nothing is lost. -/
theorem flatten_splitMarks (cs : List Char) : (splitMarks cs).flatten = cs := by
  induction cs with
  | nil => rfl
  | cons c cs ih =>
    by_cases mark : isMark c = true
    · rw [splitMarks_mark mark, List.flatten_cons, ih, List.singleton_append]
    · have notMark := Bool.eq_false_iff.2 mark
      cases cs with
      | nil => rw [splitMarks_last notMark, List.flatten_singleton]
      | cons d cs =>
        by_cases mark' : isMark d = true
        · rw [splitMarks_before_mark notMark mark', List.flatten_cons, ih, List.singleton_append]
        · rw [splitMarks_before_plain notMark (Bool.eq_false_iff.2 mark'), flatten_attach, ih]

/-- The tokens of a text without blanks are separated. -/
theorem separated_splitMarks {cs : List Char} (noBlanks : ∀ c ∈ cs, isBlank c = false) :
    Separated (splitMarks cs) := by
  induction cs with
  | nil => exact .nil
  | cons c cs ih =>
    have notBlank := noBlanks c List.mem_cons_self
    have rest := ih fun d member => noBlanks d (List.mem_cons_of_mem c member)
    by_cases mark : isMark c = true
    · rw [splitMarks_mark mark]
      exact .mark (.singleton mark) rest
    · have notMark := Bool.eq_false_iff.2 mark
      have single := isPlain_singleton notMark notBlank
      cases cs with
      | nil =>
        rw [splitMarks_last notMark]
        exact .plain single .nil fun neighbour member => by cases member
      | cons d cs =>
        by_cases mark' : isMark d = true
        · rw [splitMarks_before_mark notMark mark']
          rw [splitMarks_mark mark'] at rest ⊢
          refine .plain single rest fun neighbour member => ?_
          obtain rfl : [d] = neighbour := by simpa using member
          exact .singleton mark'
        · have notMark' := Bool.eq_false_iff.2 mark'
          rw [splitMarks_before_plain notMark notMark']
          obtain ⟨token, more, first⟩ := splitMarks_cons d cs
          rw [first] at rest ⊢
          cases rest with
          | mark marked _ =>
            obtain ⟨e, isM, same⟩ := marked
            obtain ⟨rfl, -⟩ := List.cons.inj same
            exact absurd isM mark'
          | plain solid next apart => exact .plain (solid.cons notMark notBlank) next apart

/-- Separated tokens are found again in the text that they make up. -/
theorem Separated.splitMarks_flatten {tokens : List Token} (separated : Separated tokens) :
    splitMarks tokens.flatten = tokens := by
  induction separated with
  | nil => rfl
  | mark marked _ ih =>
    obtain ⟨c, mark, rfl⟩ := marked
    rw [List.flatten_cons, List.singleton_append, splitMarks_mark mark, ih]
  | @plain token rest solid _ apart ih =>
    rw [List.flatten_cons, splitMarks_plain_append solid, ih]
    intro next member
    cases rest with
    | nil => cases member
    | cons neighbour more =>
      obtain ⟨c, mark, rfl⟩ := apart neighbour rfl
      obtain rfl : c = next := by simpa using member
      exact mark

/-- Separated tokens have no blanks in them. -/
theorem Separated.withoutBlanks_flatten {tokens : List Token} (separated : Separated tokens) :
    withoutBlanks tokens.flatten = tokens.flatten := by
  refine List.filter_eq_self.2 fun c member => ?_
  obtain ⟨token, inTokens, inToken⟩ := List.mem_flatten.1 member
  rcases separated.mem inTokens with ⟨mark, marked, rfl⟩ | solid
  · obtain rfl := List.mem_singleton.1 inToken
    rw [isBlank_of_isMark marked, Bool.not_false]
  · have plain := List.all_eq_true.1 solid.plain c inToken
    exact (Bool.and_eq_true_iff.1 plain).2

/-! ## The tokens of an equation -/

theorem withoutBlanks_withoutBlanks (text : List Char) :
    withoutBlanks (withoutBlanks text) = withoutBlanks text :=
  List.filter_eq_self.2 fun _ member => (List.mem_filter.1 member).2

theorem separated_tokensOf (text : List Char) : Separated (tokensOf text) :=
  separated_splitMarks fun c member => by
    simpa only [Bool.not_eq_true'] using (List.mem_filter.1 member).2

theorem flatten_tokensOf (text : List Char) : (tokensOf text).flatten = withoutBlanks text :=
  flatten_splitMarks _

theorem Separated.tokensOf_flatten {tokens : List Token} (separated : Separated tokens) :
    tokensOf tokens.flatten = tokens := by
  rw [tokensOf, separated.withoutBlanks_flatten, separated.splitMarks_flatten]

/-- The tokens of a text are the only separated list that joins to the text
without its blanks. -/
theorem tokensOf_eq_iff {text : List Char} {tokens : List Token} :
    tokensOf text = tokens ↔ Separated tokens ∧ tokens.flatten = withoutBlanks text := by
  constructor
  · rintro rfl
    exact ⟨separated_tokensOf text, flatten_tokensOf text⟩
  · rintro ⟨separated, joined⟩
    rw [← separated.tokensOf_flatten, joined, tokensOf, tokensOf, withoutBlanks_withoutBlanks]

end Meteogram.Equation
