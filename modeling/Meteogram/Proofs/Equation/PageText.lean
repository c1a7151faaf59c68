import Meteogram.Proofs.Equation.Expansion
import Meteogram.Proofs.Equation.RunningTotal

/-!
# A checked equation on a page

The check of an equation and the page that computes it agree on what its words are.
The tokens of a checked equation are marks, functions, keywords and numbers
(`Final.isPart`), and every function stands in front of its arguments in brackets
(`Formed.closed`). So the page finds the running total where the check has found
it, and every token of the equation is rewritten by itself (`codeOf_checked`).
-/

set_option autoImplicit false

namespace Meteogram.Equation

open Meteogram.Text

/-! ## Brackets behind functions -/

/-- Behind each function stands an opening bracket, and one that closes it. -/
inductive Closed : List Token → Prop where
  | nil : Closed []
  | cons {token : Token} {rest : List Token}
      (call : ∀ function : Function, token = function.name.toList →
        ∃ more parts, rest = ['('] :: more ∧ untilClosed 0 more = some parts)
      (next : Closed rest) : Closed (token :: rest)

theorem untilClosed_append {depth : Nat} {tokens inner rest : List Token}
    (found : untilClosed depth tokens = some (inner, rest)) (more : List Token) :
    untilClosed depth (tokens ++ more) = some (inner, rest ++ more) := by
  induction tokens generalizing depth inner rest with
  | nil => cases found
  | cons token tokens ih =>
    have passed : ∀ {depth' : Nat}, (untilClosed depth' tokens).map
        (fun pair => (token :: pair.1, pair.2)) = some (inner, rest) →
        (untilClosed depth' (tokens ++ more)).map (fun pair => (token :: pair.1, pair.2)) =
          some (inner, rest ++ more) := by
      intro depth' mapped
      obtain ⟨⟨i, r⟩, step, same⟩ := Option.map_eq_some_iff.1 mapped
      obtain ⟨rfl, rfl⟩ := Prod.mk.inj same
      rw [ih step]
      rfl
    rw [List.cons_append]
    by_cases opening : token = ['(']
    · rw [opening, untilClosed_opening] at found ⊢
      rw [opening] at passed
      exact passed found
    · by_cases closing : token = [')']
      · rw [closing] at found ⊢ passed
        cases depth with
        | zero =>
          rw [untilClosed_zero] at found ⊢
          obtain ⟨rfl, rfl⟩ := Prod.mk.inj (Option.some.inj found)
          rfl
        | succ depth =>
          rw [untilClosed_closing] at found ⊢
          exact passed found
      · rw [untilClosed_of_ne opening closing] at found ⊢
        exact passed found

namespace Closed

theorem append {front back : List Token} (first : Closed front) (second : Closed back) :
    Closed (front ++ back) := by
  induction first with
  | nil => exact second
  | cons call _ ih =>
    refine .cons (fun function named => ?_) ih
    obtain ⟨more, ⟨inner, rest⟩, rfl, found⟩ := call function named
    exact ⟨_, _, rfl, untilClosed_append found back⟩

theorem tail {token : Token} {rest : List Token} (closed : Closed (token :: rest)) :
    Closed rest := by
  cases closed with
  | cons _ next => exact next

theorem of_append_right {front back : List Token} (closed : Closed (front ++ back)) :
    Closed back := by
  induction front with
  | nil => exact closed
  | cons token front ih => exact ih closed.tail

theorem cons_other {token : Token} {rest : List Token}
    (noFunction : ∀ function : Function, token ≠ function.name.toList) (next : Closed rest) :
    Closed (token :: rest) :=
  .cons (fun function named => absurd named (noFunction function)) next

end Closed

/-- The names of functions are words that name themselves. -/
theorem kindOf_functionName (function : Function) : kindOf function.name.toList = .word ∧
    Function.ofWord? (String.ofList function.name.toList) = some function := by
  cases function <;> exact ⟨by decide, by decide⟩

theorem IsName.ne_function {word : Token} (isName : IsName word) (function : Function) :
    word ≠ function.name.toList := by
  rintro rfl
  have named := isName.2
  rw [(kindOf_functionName function).2] at named
  cases named

theorem ne_function_of_not_word {token : Token} (notWord : kindOf token ≠ .word)
    (function : Function) : token ≠ function.name.toList := by
  rintro rfl
  exact notWord (kindOf_functionName function).1

/-- In an equation every function has its arguments in brackets. -/
theorem Formed.closed {comma pending : Bool} {tokens : List Token}
    (formed : Formed comma pending tokens) : Closed tokens := by
  have opening : ∀ function : Function, ['('] ≠ function.name.toList :=
    ne_function_of_not_word (by decide)
  have closing : ∀ function : Function, [')'] ≠ function.name.toList :=
    ne_function_of_not_word (by decide)
  induction formed with
  | done => exact .nil
  | operator kind _ _ ih =>
    exact .cons_other (ne_function_of_not_word (by rw [kind]; decide)) ih
  | group _ _ ihInside ih =>
    exact .cons_other opening (ihInside.append (.cons_other closing ih))
  | @call comma pending word function inner rest kind named inside _ ihInside ih =>
    refine .cons (fun _ _ => ?_) (.cons_other opening (ihInside.append (.cons_other closing ih)))
    exact ⟨_, _, rfl, inside.untilClosed_closing rest⟩
  | word kind unnamed _ ih => exact .cons_other (IsName.ne_function ⟨kind, unnamed⟩) ih
  | number kind _ _ ih =>
    exact .cons_other (ne_function_of_not_word (by rw [kind]; decide)) ih

/-! ## The tokens of a checked equation -/

/-- The tokens of a checked equation. -/
inductive IsPart (spelling? : String → Option String) : Token → Prop where
  | mark {c : Char} (marked : isMark c = true) : IsPart spelling? [c]
  | function (function : Function) : IsPart spelling? function.name.toList
  | keyword {name : String} (isName : IsName name.toList) (spelled : spelling? name = some name) :
      IsPart spelling? name.toList
  | number {c : Char} {cs : List Char} (noLetter : isLetter c = false) (noBar : c ≠ '_')
      (numeral : (c :: cs).all Number.isNumeralChar = true) : IsPart spelling? (c :: cs)

/-- The kinds of tokens in an equation. -/
theorem Formed.kind_cases {comma pending : Bool} {tokens : List Token}
    (formed : Formed comma pending tokens) : ∀ token ∈ tokens, kindOf token = .operator ∨
      token = ['('] ∨ token = [')'] ∨ kindOf token = .word ∨
        kindOf token = .number ∧ Number.isRealText (String.ofList token) = true := by
  induction formed with
  | done => exact fun _ member => absurd member List.not_mem_nil
  | operator kind _ _ ih => exact List.forall_mem_cons.2 ⟨.inl kind, ih⟩
  | group _ _ ihInside ih =>
    simp only [List.forall_mem_cons, List.forall_mem_append]
    exact ⟨⟨.inr (.inl trivial), ihInside⟩, .inr (.inr (.inl trivial)), ih⟩
  | call kind _ _ _ ihInside ih =>
    simp only [List.forall_mem_cons, List.forall_mem_append]
    exact ⟨⟨.inr (.inr (.inr (.inl kind))), .inr (.inl trivial), ihInside⟩,
      .inr (.inr (.inl trivial)), ih⟩
  | word kind _ _ ih => exact List.forall_mem_cons.2 ⟨.inr (.inr (.inr (.inl kind))), ih⟩
  | number kind real _ ih =>
    exact List.forall_mem_cons.2 ⟨.inr (.inr (.inr (.inr ⟨kind, real⟩))), ih⟩

/-- A number in an equation has no word in it. -/
theorem isPart_of_number {spelling? : String → Option String} {token : Token}
    (plain : IsPlain token) (kind : kindOf token = .number)
    (real : Number.isRealText (String.ofList token) = true) : IsPart spelling? token := by
  cases token with
  | nil => cases kind
  | cons c cs =>
    have noLetter : isLetter c = false := by
      refine Bool.eq_false_iff.2 fun letter => ?_
      have word := (kindOf_eq_word_iff (c :: cs)).2 (congrArg some letter)
      rw [kind] at word
      cases word
    have noBar : c ≠ '_' := by
      rintro rfl
      rw [kindOf] at kind
      exact absurd kind (by decide)
    have each : ∀ d ∈ c :: cs, isMark d = false ∧ isBlank d = false := fun d member => by
      simpa only [isPlain, Bool.and_eq_true, Bool.not_eq_true'] using
        List.all_eq_true.1 plain.plain d member
    refine .number noLetter noBar (Number.isNumeralChar_of_isRealText
      (fun d member => (each d member).2) (fun d member => ⟨?_, ?_⟩) ?_ real)
    · rintro rfl
      exact absurd (each _ member).1 (by decide)
    · rintro rfl
      exact absurd (each _ member).1 (by decide)
    · intro d member
      obtain rfl := Option.some.inj member
      exact noLetter

/-- A checked equation is made of marks, functions, keywords and numbers. -/
theorem Final.isPart {spelling? : String → Option String} {tokens : List Token}
    (isFinal : Final spelling? tokens) {token : Token} (member : token ∈ tokens) :
    IsPart spelling? token := by
  rcases isFinal.separated.mem member with ⟨c, marked, rfl⟩ | plain
  · exact .mark marked
  · have marked : ∀ {c : Char} {cs : List Char}, token = c :: cs → isMark c = true → False := by
      rintro c cs rfl marked
      exact absurd (marked.symm.trans plain.head.1) Bool.noConfusion
    rcases isFinal.formed.kind_cases token member with kind | opening | closing | kind | ⟨kind, real⟩
    · cases token with
      | nil => cases kind
      | cons c cs =>
        have operator : isOperator c = true := by
          rw [kindOf] at kind
          split_ifs at kind with _ operator
          exact operator
        exact (marked rfl (by rw [isMark, operator, Bool.true_or])).elim
    · exact (marked opening (by decide)).elim
    · exact (marked closing (by decide)).elim
    · have meaning := isFinal.itself token member []
      generalize piece : Piece.token token = piece? at meaning
      cases meaning with
      | plain notWord => exact absurd kind notWord
      | function _ _ =>
        rw [Piece.token.inj piece]
        exact .function _
      | keyword isName spelled =>
        obtain rfl := Piece.token.inj piece
        rw [String.ofList_toList] at spelled
        exact .keyword isName spelled
      | equation _ => cases piece
    · exact isPart_of_number plain kind real

/-! ## What the page finds -/

/-- A keyword can be found in the text of an equation. -/
structure IsFindable (name : String) : Prop where
  identifier : isIdentifier name.toList = true
  noSum : ¬ EndsInSum name.toList

section

variable {spelling? : String → Option String}
  (findable : ∀ word name, spelling? word = some name → IsFindable name)

include findable

/-- A token of a checked equation may stand in front of the next one. -/
theorem IsPart.stands {token : Token} {rest : List Token} (part : IsPart spelling? token)
    (separated : Separated (token :: rest)) (closed : Closed (token :: rest)) :
    Stands token rest.head? := by
  have apart := separated.apart
  cases part with
  | mark marked => exact .mark marked
  | function function =>
    cases closed with
    | cons call _ =>
      obtain ⟨more, _, rfl, _⟩ := call function rfl
      exact .function
  | @keyword name isName spelled =>
    refine .name (findable _ _ spelled).identifier isName.ne_function (apart fun marked => ?_)
    exact marked.not_word isName.1
  | number noLetter noBar numeral =>
    refine .number noLetter noBar numeral (apart ?_)
    rintro ⟨mark, marked, same⟩
    obtain ⟨rfl, _⟩ := List.cons.inj same
    rw [List.all_cons, Bool.and_eq_true] at numeral
    have solid := Number.isWordChar_of_isNumeralChar numeral.1
    rw [(isMark_opens marked).2.1] at solid
    rcases solid with impossible | rfl
    · cases impossible
    · exact absurd marked (by decide)

/-- Checked tokens make up a text that a page may compute. -/
theorem written_of_parts {tokens : List Token} (separated : Separated tokens)
    (closed : Closed tokens) (parts : ∀ token ∈ tokens, IsPart spelling? token) :
    Written tokens := by
  induction tokens with
  | nil => exact .nil
  | cons token rest ih =>
    obtain ⟨part, parts⟩ := List.forall_mem_cons.1 parts
    refine .cons (part.stands findable separated closed) (ih separated.tail ?_ parts)
    exact closed.tail

/-- An identifier occurs in a token of a checked equation exactly if it is the
token. -/
theorem IsPart.occursFrom {token : Token} {next : Option Token} (part : IsPart spelling? token)
    (apart : ¬ IsMark token → ∀ neighbour ∈ next, IsMark neighbour) {word text : List Char}
    (identifier : isIdentifier (keysOf word) = true) (follows : Follows next text) :
    occursFrom word none (token ++ text) =
      (decide (keysOf word = keysOf token) || Equation.occursFrom word none text) := by
  have inRun : ∀ {run : List Char}, run ≠ [] → run.all isWordChar = true → ¬ IsMark run →
      (¬ IsMark run → ∀ neighbour ∈ next, IsMark neighbour) →
      Equation.occursFrom word none (run ++ text) =
        (decide (keysOf word = keysOf run) || Equation.occursFrom word none text) := by
    intro run nonempty inWords notMark apart
    have marks := follows.isMark_head (apart notMark)
    rw [occursFrom_run identifier nonempty inWords (isWordChar_head marks),
      closesWord_of_isMark marks, Bool.and_true, occursFrom_apart identifier (isSolid_head marks)]
  cases part with
  | @mark c marked =>
    have never : keysOf word ≠ keysOf [c] := by
      intro same
      rw [same] at identifier
      have inWords := List.all_eq_true.1 (all_isWordChar_of_keys identifier) c
        (List.mem_singleton_self c)
      exact absurd (inWords.symm.trans (isMark_opens marked).2.1) Bool.noConfusion
    rw [List.singleton_append, occursFrom_opening identifier (isMark_opens marked).1,
      decide_eq_false never, Bool.false_or]
  | function function =>
    refine inRun ?_ ?_ (not_isMark_functionName function) apart <;> cases function <;> decide
  | @keyword name isName spelled =>
    have ownIdentifier := (findable _ _ spelled).identifier
    refine inRun (isIdentifier_ne_nil ownIdentifier) ?_ (fun marked => ?_) apart
    · exact List.all_eq_true.2 fun c member => isWordChar_of_isNameChar
        (List.all_eq_true.1 (isIdentifier_all ownIdentifier) c member)
    · exact marked.not_word isName.1
  | @number c cs noLetter noBar numeral =>
    have solid := isSolid_of_isNumeralChar numeral
    have never : keysOf word ≠ keysOf (c :: cs) := by
      intro same
      rw [same, keysOf, List.map_cons, isIdentifier, Bool.and_eq_true, Bool.and_eq_true,
        Bool.not_eq_true'] at identifier
      rcases isLetter_of_start identifier.1.1 identifier.1.2 with letter | bar
      · exact absurd (letter.symm.trans noLetter) Bool.noConfusion
      · exact noBar bar
    have notMark : ¬ IsMark (c :: cs) := by
      rintro ⟨mark, marked, same⟩
      obtain ⟨rfl, _⟩ := List.cons.inj same
      rw [List.all_cons, (isMark_opens marked).1] at solid
      cases solid
    rw [occursFrom_numeral identifier noLetter noBar solid,
      occursFrom_apart identifier (isSolid_head (follows.isMark_head (apart notMark))),
      decide_eq_false never, Bool.false_or]

theorem occursFrom_flatten {tokens : List Token} (separated : Separated tokens)
    (parts : ∀ token ∈ tokens, IsPart spelling? token) {word : List Char}
    (identifier : isIdentifier (keysOf word) = true) :
    Equation.occursFrom word none tokens.flatten = true ↔
      ∃ token ∈ tokens, keysOf word = keysOf token := by
  induction tokens with
  | nil =>
    rw [List.flatten_nil, Equation.occursFrom, occursHere_nil identifier]
    refine iff_of_false Bool.false_ne_true ?_
    rintro ⟨_, member, _⟩
    exact List.not_mem_nil member
  | cons token rest ih =>
    obtain ⟨part, parts⟩ := List.forall_mem_cons.1 parts
    rw [List.flatten_cons,
      part.occursFrom findable separated.apart identifier (follows_tokens rest),
      Bool.or_eq_true, decide_eq_true_eq, ih separated.tail parts]
    simp only [List.mem_cons, exists_eq_or_imp]

/-- The running total is the only token that ends in its name. -/
theorem IsPart.eq_sum {token : Token} (part : IsPart spelling? token) (ends : EndsInSum token) :
    token = Function.sum.name.toList := by
  obtain ⟨front, same⟩ := ends
  have last : ∀ {p : Char → Bool}, token.all p = true → p 'm' = true := by
    intro p all
    refine List.all_eq_true.1 all 'm' ?_
    rw [← same]
    exact List.mem_append_right front (by decide)
  cases part with
  | mark marked =>
    have length := congrArg List.length same
    rw [List.length_append, List.length_singleton] at length
    exact absurd length (by simp)
  | function function =>
    have others : ∀ function : Function, "sum".toList <:+ function.name.toList →
        function = .sum := by
      intro function
      cases function <;> decide
    rw [others function ⟨front, same⟩]
  | keyword _ spelled => exact absurd ⟨front, same⟩ (findable _ _ spelled).noSum
  | number _ _ numeral => exact absurd (last numeral) (by decide)

end

/-- What the page computes of an equation, where its running total can be taken
out. -/
theorem outcome_codeOf {equation : List Char} {inner : Option (List Char)} {rest : List Char}
    (split : splitSum equation = .ok (inner, rest)) (names : List String) :
    (codeOf equation names).outcome =
      .ok ⟨inner.map (pageText names), pageText names rest⟩ := by
  rw [codeOf, split]
  change Report.outcome (if hasPart sumCall rest = true then _ else _) = _
  split_ifs <;> rfl

/-- The tokens rewritten for a page with these variables. -/
def rewrittenText (names : List String) (tokens : List Token) : List Char :=
  (tokens.map (rewritten ((longestFirst names).map String.toList))).flatten

section

variable {spelling? : String → Option String}
  (findable : ∀ word name, spelling? word = some name → IsFindable name)
  {names : List String} (proper : ∀ name ∈ names, IsVariableName name.toList)

include findable proper

/-- A page computes a checked equation token by token. If there is a running total,
the first one is taken out with what the check takes for its arguments, and its value
stands in its place. -/
theorem codeOf_checked {tokens : List Token} (isFinal : Final spelling? tokens) :
    (Function.sum.name.toList ∉ tokens ∧
      splitSum tokens.flatten = .ok (none, tokens.flatten) ∧
      (codeOf tokens.flatten names).outcome = .ok ⟨none, rewrittenText names tokens⟩) ∨
    ∃ before more inner after,
      tokens = before ++ Function.sum.name.toList :: ['('] :: more ∧
      Function.sum.name.toList ∉ before ∧
      untilClosed 0 more = some (inner, after) ∧
      splitSum tokens.flatten = .ok (some inner.flatten, (before ++ sumValue :: after).flatten) ∧
      (codeOf tokens.flatten names).outcome =
        .ok ⟨some (rewrittenText names inner), rewrittenText names (before ++ sumValue :: after)⟩ := by
  have parts : ∀ token ∈ tokens, IsPart spelling? token := fun _ member => isFinal.isPart member
  have closed := isFinal.formed.closed
  have written := written_of_parts findable isFinal.separated closed parts
  by_cases total : Function.sum.name.toList ∈ tokens
  · obtain ⟨before, back, rfl, first⟩ := List.eq_append_cons_of_mem total
    refine .inr ?_
    have called := closed.of_append_right
    cases called with
    | cons call _ =>
      obtain ⟨more, ⟨inner, after⟩, rfl, found⟩ := call .sum rfl
      have noSum : ∀ token ∈ before, ¬ EndsInSum token := fun token member ends => by
        have part := parts token (List.mem_append_left _ member)
        rw [part.eq_sum findable ends] at member
        exact first member
      have split := splitSum_flatten isFinal.separated noSum found
      have parted := eq_append_of_untilClosed found
      have behind : Written (inner ++ [')'] :: after) := by
        rw [← parted]
        exact written.of_append_right.tail.tail
      have writtenInner := behind.of_append_left (by decide)
      have writtenRest := written.replace behind.of_append_right.tail
      refine ⟨before, more, inner, after, rfl, first, found, split, ?_⟩
      rw [outcome_codeOf split, Option.map_some, pageText_flatten writtenInner proper,
        pageText_flatten writtenRest proper]
      rfl
  · refine .inl ⟨total, ?_⟩
    have noSum : ∀ token ∈ tokens, ¬ EndsInSum token := fun token member ends => by
      rw [(parts token member).eq_sum findable ends] at member
      exact total member
    have split := splitSum_of_noSum isFinal.separated noSum
    refine ⟨split, ?_⟩
    rw [outcome_codeOf split, Option.map_none, pageText_flatten written proper]
    rfl

end

end Meteogram.Equation
