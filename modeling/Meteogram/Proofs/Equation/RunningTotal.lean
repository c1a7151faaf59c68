import Meteogram.Proofs.Equation.Formed
import Meteogram.Proofs.Equation.Translation

/-!
# The running total of an equation

A page takes the running total out of an equation by looking for `sum(` in its text
and then for the bracket that closes it. If no token in front of the first `sum`
ends in these letters, what is found is that token, and the bracket is the one that
the check of equations takes for its match (`splitSum_flatten`). In an equation that
was checked there is such a bracket for each function (`Formed.closed`).
-/

set_option autoImplicit false

namespace Meteogram.Equation

open Meteogram.Text

/-! ## The closing bracket in a text -/

theorem untilBracket?_opening (depth : Nat) (text : List Char) :
    untilBracket? depth ('(' :: text) =
      (untilBracket? (depth + 1) text).map fun (inner, rest) => ('(' :: inner, rest) := by
  rw [untilBracket?.eq_def]
  rfl

theorem untilBracket?_closing (depth : Nat) (text : List Char) :
    untilBracket? (depth + 1) (')' :: text) =
      (untilBracket? depth text).map fun (inner, rest) => (')' :: inner, rest) := by
  rw [untilBracket?.eq_def]
  rfl

theorem untilBracket?_zero (text : List Char) : untilBracket? 0 (')' :: text) = some ([], text) :=
  rfl

theorem untilBracket?_of_ne {c : Char} (opening : c ≠ '(') (closing : c ≠ ')') (depth : Nat)
    (text : List Char) :
    untilBracket? depth (c :: text) =
      (untilBracket? depth text).map fun (inner, rest) => (c :: inner, rest) := by
  rw [untilBracket?.eq_def]
  dsimp only
  rw [if_neg opening, if_neg closing]

/-- Looking for a closing bracket passes over words. -/
theorem untilBracket?_plain {word : Token} (plain : word.all isPlain = true) (depth : Nat)
    (text : List Char) :
    untilBracket? depth (word ++ text) =
      (untilBracket? depth text).map fun (inner, rest) => (word ++ inner, rest) := by
  induction word with
  | nil => simp only [List.nil_append, Prod.mk.eta, Option.map_id']
  | cons c cs ih =>
    rw [List.all_cons, Bool.and_eq_true] at plain
    have opening : c ≠ '(' := by
      rintro rfl
      exact absurd plain.1 (by decide)
    have closing : c ≠ ')' := by
      rintro rfl
      exact absurd plain.1 (by decide)
    rw [List.cons_append, untilBracket?_of_ne opening closing, ih plain.2, Option.map_map]
    rfl

/-- The closing bracket in the text of separated tokens is the one among the
tokens. -/
theorem untilBracket?_flatten {tokens : List Token} (separated : Separated tokens) (depth : Nat) :
    untilBracket? depth tokens.flatten =
      (untilClosed depth tokens).map fun (inner, rest) => (inner.flatten, rest.flatten) := by
  induction separated generalizing depth with
  | nil => rfl
  | @mark token rest marked _ ih =>
    obtain ⟨c, _, rfl⟩ := marked
    rw [List.flatten_cons, List.singleton_append]
    by_cases opening : c = '('
    · rw [opening, untilBracket?_opening, untilClosed_opening, ih, Option.map_map, Option.map_map]
      rfl
    · by_cases closing : c = ')'
      · rw [closing]
        cases depth with
        | zero =>
          rw [untilBracket?_zero, untilClosed_zero]
          rfl
        | succ depth =>
          rw [untilBracket?_closing, untilClosed_closing, ih, Option.map_map, Option.map_map]
          rfl
      · rw [untilBracket?_of_ne opening closing, untilClosed_of_ne
          (fun same => opening (List.singleton_inj.1 same))
          (fun same => closing (List.singleton_inj.1 same)), ih, Option.map_map, Option.map_map]
        rfl
  | @plain token rest solid _ _ ih =>
    have opening : token ≠ ['('] := by
      rintro rfl
      exact absurd solid.head.1 (by decide)
    have closing : token ≠ [')'] := by
      rintro rfl
      exact absurd solid.head.1 (by decide)
    rw [List.flatten_cons, untilBracket?_plain solid.plain, untilClosed_of_ne opening closing, ih,
      Option.map_map, Option.map_map]
    rfl

/-! ## The first running total in a text -/

/-- The token ends in the name of the running total. -/
def EndsInSum (token : Token) : Prop :=
  "sum".toList <:+ token

instance (token : Token) : Decidable (EndsInSum token) :=
  inferInstanceAs (Decidable ("sum".toList <:+ token))

theorem splitAtPart?_of_none {part : List Char} {c : Char} {cs : List Char}
    (missed : afterPrefix? part (c :: cs) = none) :
    splitAtPart? part (c :: cs) =
      (splitAtPart? part cs).map fun (before, rest) => (c :: before, rest) := by
  rw [splitAtPart?, missed]

/-- Looking for a running total passes over the words that do not end in its
name. -/
theorem splitAtPart?_plain {word : Token} (plain : word.all isPlain = true)
    (noSum : ¬ EndsInSum word) {text : List Char} (marks : ∀ c ∈ text.head?, isMark c = true) :
    splitAtPart? sumCall (word ++ text) =
      (splitAtPart? sumCall text).map fun (before, rest) => (word ++ before, rest) := by
  induction word with
  | nil => simp only [List.nil_append, Prod.mk.eta, Option.map_id']
  | cons c cs ih =>
    have apart : ∀ {more : List Char}, (∀ d ∈ more.head?, isMark d = true) →
        ∀ d ∈ more.head?, isPlain d = false := by
      intro more marks d member
      rw [isPlain, marks d member, Bool.not_true, Bool.false_and]
    have missed : afterPrefix? sumCall (c :: (cs ++ text)) = none := by
      refine Option.eq_none_iff_forall_not_mem.2 fun rest found => ?_
      have same := eq_append_of_afterPrefix? found
      rw [sumCall, show "sum(".toList ++ rest = "sum".toList ++ '(' :: rest from rfl,
        ← List.cons_append] at same
      have opening : ∀ d ∈ ('(' :: rest).head?, isMark d = true := by
        intro d member
        obtain rfl := Option.some.inj member
        decide
      obtain ⟨isSum, _⟩ := append_unique plain (by decide) (apart marks) (apart opening) same
      exact noSum ⟨[], isSum.symm⟩
    rw [List.all_cons, Bool.and_eq_true] at plain
    have noSum' : ¬ EndsInSum cs := fun ends => noSum (ends.trans (List.suffix_cons c cs))
    rw [List.cons_append, splitAtPart?_of_none missed, ih plain.2 noSum', Option.map_map]
    rfl

theorem splitAtPart?_mark {c : Char} (marked : isMark c = true) (text : List Char) :
    splitAtPart? sumCall (c :: text) =
      (splitAtPart? sumCall text).map fun (before, rest) => (c :: before, rest) := by
  refine splitAtPart?_of_none (Option.eq_none_iff_forall_not_mem.2 fun rest found => ?_)
  have same := eq_append_of_afterPrefix? found
  rw [sumCall, show "sum(".toList ++ rest = 's' :: ("um(".toList ++ rest) from rfl] at same
  rw [(List.cons.inj same).1] at marked
  exact absurd marked (by decide)

/-- Looking for a running total passes over the tokens that do not end in its
name. -/
theorem splitAtPart?_append {front back : List Token} (separated : Separated (front ++ back))
    (noSum : ∀ token ∈ front, ¬ EndsInSum token) :
    splitAtPart? sumCall (front ++ back).flatten =
      (splitAtPart? sumCall back.flatten).map
        fun (before, rest) => (front.flatten ++ before, rest) := by
  induction front with
  | nil => simp only [List.nil_append, List.flatten_nil, Prod.mk.eta, Option.map_id']
  | cons token front ih =>
    obtain ⟨here, others⟩ := List.forall_mem_cons.1 noSum
    rw [List.cons_append, List.flatten_cons]
    cases separated with
    | mark marked next =>
      obtain ⟨c, mark, rfl⟩ := marked
      rw [List.singleton_append, splitAtPart?_mark mark, ih next others, Option.map_map]
      rfl
    | plain solid next apart =>
      have follows := follows_tokens (front ++ back)
      rw [splitAtPart?_plain solid.plain here (follows.isMark_head apart), ih next others,
        Option.map_map, List.flatten_cons]
      simp only [Function.comp_def, List.append_assoc]

/-- A text without a token that ends in `sum` has no running total. -/
theorem splitSum_of_noSum {tokens : List Token} (separated : Separated tokens)
    (noSum : ∀ token ∈ tokens, ¬ EndsInSum token) :
    splitSum tokens.flatten = .ok (none, tokens.flatten) := by
  rw [← List.append_nil tokens] at separated
  have missed := splitAtPart?_append separated noSum
  rw [List.append_nil] at missed
  rw [splitSum, missed]
  rfl

/-- The first running total is taken out with its brackets, and its value stands in
their place. -/
theorem splitSum_flatten {before more inner after : List Token}
    (separated : Separated (before ++ Function.sum.name.toList :: ['('] :: more))
    (noSum : ∀ token ∈ before, ¬ EndsInSum token)
    (closed : untilClosed 0 more = some (inner, after)) :
    splitSum (before ++ Function.sum.name.toList :: ['('] :: more).flatten =
      .ok (some inner.flatten, (before ++ sumValue :: after).flatten) := by
  have call : splitAtPart? sumCall (Function.sum.name.toList :: ['('] :: more).flatten =
      some ([], more.flatten) := rfl
  have bracket := untilBracket?_flatten separated.of_append_right.tail.tail 0
  rw [closed, Option.map_some] at bracket
  rw [splitSum, splitAtPart?_append separated noSum, call, Option.map_some]
  dsimp only
  rw [bracket]
  dsimp only
  rw [List.append_nil, List.flatten_append, List.flatten_cons, List.append_assoc]

end Meteogram.Equation
