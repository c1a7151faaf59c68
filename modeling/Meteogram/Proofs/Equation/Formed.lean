import Meteogram.Proofs.Equation.Tokens
import Meteogram.Report

/-!
# What the check of an equation accepts

`Formed` is the grammar of equations as a relation on tokens, in which a bracket
stands with the one that closes it. The check of tokens succeeds exactly if they
are formed and every word among them is known, and what it gives are the pieces
of the tokens one by one (`check_eq_ok_iff`). So neither the brackets nor the
place of a token decide what becomes of it.
-/

set_option autoImplicit false

namespace Meteogram.Equation

open Meteogram.Text

/-! ## The grammar -/

/-- The tokens make up an equation. A comma may stand between them if `comma`
holds, and an operand must follow if `pending` does. -/
inductive Formed : (comma pending : Bool) → List Token → Prop where
  | done {comma : Bool} : Formed comma false []
  | operator {comma pending : Bool} {token : Token} {rest : List Token}
      (kind : kindOf token = .operator) (allowed : token = [','] → comma = true)
      (next : Formed comma true rest) : Formed comma pending (token :: rest)
  | group {comma pending : Bool} {inner rest : List Token} (inside : Formed false false inner)
      (next : Formed comma false rest) : Formed comma pending (['('] :: inner ++ [')'] :: rest)
  | call {comma pending : Bool} {word : Token} {function : Function} {inner rest : List Token}
      (kind : kindOf word = .word) (named : Function.ofWord? (String.ofList word) = some function)
      (inside : Formed function.takesComma false inner) (next : Formed comma false rest) :
      Formed comma pending (word :: ['('] :: inner ++ [')'] :: rest)
  | word {comma pending : Bool} {word : Token} {rest : List Token} (kind : kindOf word = .word)
      (unnamed : Function.ofWord? (String.ofList word) = none) (next : Formed comma false rest) :
      Formed comma pending (word :: rest)
  | number {comma pending : Bool} {token : Token} {rest : List Token}
      (kind : kindOf token = .number) (real : Number.isRealText (String.ofList token) = true)
      (next : Formed comma false rest) : Formed comma pending (token :: rest)

/-! ## Brackets -/

/-- The tokens in front of a closing bracket and those behind it make up all
tokens. -/
theorem eq_append_of_untilClosed {depth : Nat} {tokens inner rest : List Token}
    (found : untilClosed depth tokens = some (inner, rest)) :
    tokens = inner ++ [')'] :: rest := by
  induction tokens generalizing depth inner rest with
  | nil => cases found
  | cons token tokens ih =>
    have passed : ∀ {depth' : Nat}, (untilClosed depth' tokens).map
        (fun pair => (token :: pair.1, pair.2)) = some (inner, rest) →
        token :: tokens = inner ++ [')'] :: rest := by
      intro depth' mapped
      obtain ⟨⟨i, r⟩, step, same⟩ := Option.map_eq_some_iff.1 mapped
      obtain ⟨rfl, rfl⟩ := Prod.mk.inj same
      rw [ih step, List.cons_append]
    unfold untilClosed at found
    split at found
    · exact passed found
    · split at found
      · next closing =>
        cases depth with
        | zero =>
          obtain ⟨rfl, rfl⟩ := Prod.mk.inj (Option.some.inj found)
          rw [closing, List.nil_append]
        | succ depth => exact passed found
      · exact passed found

theorem untilClosed_opening (depth : Nat) (tokens : List Token) :
    untilClosed depth (['('] :: tokens) =
      (untilClosed (depth + 1) tokens).map fun (inner, rest) => (['('] :: inner, rest) := by
  cases depth <;> rw [untilClosed, if_pos rfl]

theorem untilClosed_closing (depth : Nat) (tokens : List Token) :
    untilClosed (depth + 1) ([')'] :: tokens) =
      (untilClosed depth tokens).map fun (inner, rest) => ([')'] :: inner, rest) := by
  rw [untilClosed, if_neg (by decide), if_pos rfl]

theorem untilClosed_zero (tokens : List Token) :
    untilClosed 0 ([')'] :: tokens) = some ([], tokens) := by
  rw [untilClosed, if_neg (by decide), if_pos rfl]

theorem untilClosed_of_ne {token : Token} (opening : token ≠ ['(']) (closing : token ≠ [')'])
    (depth : Nat) (tokens : List Token) :
    untilClosed depth (token :: tokens) =
      (untilClosed depth tokens).map fun (inner, rest) => (token :: inner, rest) := by
  cases depth <;> rw [untilClosed, if_neg opening, if_neg closing]

theorem untilClosed_other {token : Token} (notOpening : kindOf token ≠ .opening)
    (notOther : kindOf token ≠ .other) (depth : Nat) (tokens : List Token) :
    untilClosed depth (token :: tokens) =
      (untilClosed depth tokens).map fun (inner, rest) => (token :: inner, rest) := by
  refine untilClosed_of_ne ?_ ?_ depth tokens
  · rintro rfl
    exact notOpening rfl
  · rintro rfl
    exact notOther (by decide)

/-- Looking for a closing bracket passes over tokens that make up an
equation. -/
theorem Formed.untilClosed_append {comma pending : Bool} {tokens : List Token}
    (formed : Formed comma pending tokens) (depth : Nat) (rest : List Token) :
    untilClosed depth (tokens ++ rest) =
      (untilClosed depth rest).map fun (inner, after) => (tokens ++ inner, after) := by
  induction formed generalizing depth rest with
  | done => simp only [List.nil_append, Prod.mk.eta, Option.map_id']
  | operator kind _ _ ih =>
    rw [List.cons_append, untilClosed_other (by rw [kind]; decide) (by rw [kind]; decide), ih,
      Option.map_map]
    rfl
  | group _ _ ihInside ihNext =>
    simp only [List.cons_append, List.append_assoc, untilClosed_opening, ihInside,
      untilClosed_closing, ihNext, Option.map_map]
    rfl
  | call kind _ _ _ ihInside ihNext =>
    simp only [List.cons_append, List.append_assoc]
    rw [untilClosed_other (by rw [kind]; decide) (by rw [kind]; decide)]
    simp only [untilClosed_opening, ihInside, untilClosed_closing, ihNext, Option.map_map]
    rfl
  | word kind _ _ ih =>
    rw [List.cons_append, untilClosed_other (by rw [kind]; decide) (by rw [kind]; decide), ih,
      Option.map_map]
    rfl
  | number kind _ _ ih =>
    rw [List.cons_append, untilClosed_other (by rw [kind]; decide) (by rw [kind]; decide), ih,
      Option.map_map]
    rfl

/-- The bracket behind tokens that make up an equation closes the one in front
of them. -/
theorem Formed.untilClosed_closing {comma pending : Bool} {inner : List Token}
    (formed : Formed comma pending inner) (rest : List Token) :
    untilClosed 0 (inner ++ [')'] :: rest) = some (inner, rest) := by
  rw [formed.untilClosed_append, untilClosed_zero]
  simp only [Option.map_some, List.append_nil]

/-! ## The pieces of tokens -/

/-- The token is a word that names no function. -/
def IsName (token : Token) : Prop :=
  kindOf token = .word ∧ Function.ofWord? (String.ofList token) = none

namespace Scope

variable (scope : Scope)

/-- Every word that is no function stands for something. -/
def Knows (token : Token) : Prop :=
  IsName token → ∃ piece, scope.resolve token = .ok piece

/-- What becomes of a token. -/
def pieceOf (token : Token) : Piece :=
  match kindOf token with
  | .word =>
    match Function.ofWord? (String.ofList token) with
    | some function => .token function.name.toList
    | none =>
      match scope.resolve token with
      | .ok piece => piece
      | .error _ => .token token
  | _ => .token token

variable {scope}

theorem pieceOf_of_not_word {token : Token} (kind : kindOf token ≠ .word) :
    scope.pieceOf token = .token token := by
  rw [pieceOf]
  split
  · contradiction
  · rfl

theorem pieceOf_function {word : Token} {function : Function} (kind : kindOf word = .word)
    (named : Function.ofWord? (String.ofList word) = some function) :
    scope.pieceOf word = .token function.name.toList := by
  rw [pieceOf, kind]
  dsimp only
  rw [named]

theorem pieceOf_name {word : Token} {piece : Piece} (name : IsName word)
    (found : scope.resolve word = .ok piece) : scope.pieceOf word = piece := by
  rw [pieceOf, name.1]
  dsimp only
  rw [name.2, found]

theorem knows_of_not_name {token : Token} (notName : ¬ IsName token) :
    scope.Knows token :=
  fun name => absurd name notName

theorem knows_of_not_word {token : Token} (kind : kindOf token ≠ .word) : scope.Knows token :=
  knows_of_not_name fun name => kind name.1

theorem knows_function {word : Token} {function : Function}
    (named : Function.ofWord? (String.ofList word) = some function) : scope.Knows word :=
  knows_of_not_name fun name => by
    rw [name.2] at named
    cases named

theorem pieceOf_opening : scope.pieceOf ['('] = .token ['('] := pieceOf_of_not_word (by decide)

theorem pieceOf_closing : scope.pieceOf [')'] = .token [')'] :=
  pieceOf_of_not_word (by decide)

theorem knows_opening : scope.Knows ['('] := knows_of_not_word (by decide)

theorem knows_closing : scope.Knows [')'] := knows_of_not_word (by decide)

end Scope

/-! ## Acceptance -/

/-- Among separated tokens only the opening bracket itself begins with one. -/
theorem eq_opening_of_kindOf {token : Token} (form : IsMark token ∨ IsPlain token)
    (kind : kindOf token = .opening) : token = ['('] := by
  have begins : token.head? = some '(' := by
    cases token with
    | nil => cases kind
    | cons c cs =>
      by_cases opening : c = '('
      · rw [opening, List.head?_cons]
      · rw [kindOf, if_neg (by simpa using opening)] at kind
        split_ifs at kind
  cases token with
  | nil => cases begins
  | cons c cs =>
    obtain rfl : c = '(' := Option.some.inj begins
    rcases form with ⟨mark, _, same⟩ | plain
    · obtain ⟨-, rfl⟩ := List.cons.inj same
      rfl
    · exact absurd plain.head.1 (by decide)

/-! ### What the check does at a bracket -/

section

variable (scope : Scope) (comma : Bool) (before : List Piece) (pending : Bool)
  {token : Token} {rest inner after : List Token}

theorem check_unclosed (kind : kindOf token = .opening) (unclosed : untilClosed 0 rest = none) :
    check scope comma before pending (token :: rest) = .error .bracketMissing := by
  rw [check, kind]
  dsimp only
  split
  · rfl
  · next closed => rw [unclosed] at closed; cases closed

theorem check_group (kind : kindOf token = .opening)
    (closed : untilClosed 0 rest = some (inner, after)) :
    check scope comma before pending (token :: rest) =
      check scope false [] false inner >>= fun group =>
        check scope comma (before ++ .token ['('] :: group ++ [.token [')']]) false after := by
  rw [check, kind]
  dsimp only
  split
  · next unclosed => rw [closed] at unclosed; cases unclosed
  · next closed' =>
    rw [closed] at closed'
    obtain ⟨rfl, rfl⟩ := Prod.mk.inj (Option.some.inj closed')
    rfl

variable {function : Function} (kind : kindOf token = .word)
  (named : Function.ofWord? (String.ofList token) = some function)
  (opened : rest.head? = some ['('])

include kind named opened

theorem check_call_unclosed (unclosed : untilClosed 0 rest.tail = none) :
    check scope comma before pending (token :: rest) = .error .bracketMissing := by
  rw [check, kind]
  dsimp only
  rw [named]
  dsimp only
  rw [if_pos opened]
  split
  · rfl
  · next closed => rw [unclosed] at closed; cases closed

theorem check_call (closed : untilClosed 0 rest.tail = some (inner, after)) :
    check scope comma before pending (token :: rest) =
      check scope function.takesComma [] false inner >>= fun arguments =>
        check scope comma (before ++ .token function.name.toList :: .token ['('] :: arguments ++
          [.token [')']]) false after := by
  rw [check, kind]
  dsimp only
  rw [named]
  dsimp only
  rw [if_pos opened]
  split
  · next unclosed => rw [closed] at unclosed; cases unclosed
  · next closed' =>
    rw [closed] at closed'
    obtain ⟨rfl, rfl⟩ := Prod.mk.inj (Option.some.inj closed')
    rfl

end

section

open Scope

variable {scope : Scope}

/-- Tokens that are accepted make up an equation of known words, and what comes
of them are their pieces. -/
theorem formed_of_check {comma : Bool} {before : List Piece} {pending : Bool}
    {tokens : List Token} (separated : Separated tokens) {out : List Piece}
    (accepted : check scope comma before pending tokens = .ok out) :
    Formed comma pending tokens ∧ (∀ token ∈ tokens, scope.Knows token) ∧
      out = before ++ tokens.map scope.pieceOf := by
  fun_induction check scope comma before pending tokens generalizing out with
  | case1 | case3 | case5 | case7 | case9 | case12 | case13 => cases accepted
  | case2 comma before pending notPending =>
    obtain rfl : pending = false := Bool.eq_false_iff.2 notPending
    obtain rfl := Except.ok.inj accepted
    exact ⟨.done, fun _ member => absurd member List.not_mem_nil, (List.append_nil _).symm⟩
  | case4 comma before pending token rest kind notRefused ih =>
    obtain ⟨formed, known, rfl⟩ := ih separated.tail accepted
    have notWord : kindOf token ≠ .word := by rw [kind]; decide
    refine ⟨.operator kind ?_ formed, List.forall_mem_cons.2 ⟨knows_of_not_word notWord, known⟩, ?_⟩
    · intro isComma
      simpa [isComma] using notRefused
    · rw [List.map_cons, pieceOf_of_not_word notWord, List.append_assoc, List.singleton_append]
  | case6 comma before pending token rest kind inner after found ihGroup ih =>
    obtain rfl := eq_opening_of_kindOf separated.head kind
    obtain rfl := eq_append_of_untilClosed found
    obtain ⟨group, inside, next⟩ := bind_eq_ok.1 accepted
    obtain ⟨formedInside, knownInside, rfl⟩ := ihGroup separated.tail.of_append_left inside
    obtain ⟨formed, known, rfl⟩ := ih _ separated.tail.of_append_right.tail next
    refine ⟨.group formedInside formed, ?_, ?_⟩
    · simp only [List.forall_mem_cons, List.forall_mem_append]
      exact ⟨knows_opening, knownInside, knows_closing, known⟩
    · simp only [List.map_cons, List.map_append, pieceOf_opening, pieceOf_closing, List.nil_append,
        List.append_assoc, List.cons_append]
  | case8 comma before pending word rest kind function named opened inner after found ihGroup ih =>
    obtain ⟨rest, rfl⟩ : ∃ more, rest = ['('] :: more := List.head?_eq_some_iff.1 opened
    rw [List.tail_cons] at found
    obtain rfl := eq_append_of_untilClosed found
    obtain ⟨arguments, inside, next⟩ := bind_eq_ok.1 accepted
    obtain ⟨formedInside, knownInside, rfl⟩ := ihGroup separated.tail.tail.of_append_left inside
    obtain ⟨formed, known, rfl⟩ := ih _ separated.tail.tail.of_append_right.tail next
    refine ⟨.call kind named formedInside formed, ?_, ?_⟩
    · simp only [List.forall_mem_cons, List.forall_mem_append]
      exact ⟨knows_function named, knows_opening, knownInside, knows_closing, known⟩
    · simp only [List.map_cons, List.map_append, pieceOf_function kind named, pieceOf_opening,
        pieceOf_closing, List.nil_append, List.append_assoc, List.cons_append]
  | case10 comma before pending word rest kind unnamed ih =>
    obtain ⟨piece, resolved, next⟩ := bind_eq_ok.1 accepted
    obtain ⟨formed, known, rfl⟩ := ih piece separated.tail next
    refine ⟨.word kind unnamed formed, List.forall_mem_cons.2 ⟨fun _ => ⟨piece, resolved⟩, known⟩, ?_⟩
    rw [List.map_cons, pieceOf_name ⟨kind, unnamed⟩ resolved, List.append_assoc,
      List.singleton_append]
  | case11 comma before pending token rest kind real ih =>
    obtain ⟨formed, known, rfl⟩ := ih separated.tail accepted
    have notWord : kindOf token ≠ .word := by rw [kind]; decide
    refine ⟨.number kind real formed, List.forall_mem_cons.2 ⟨knows_of_not_word notWord, known⟩, ?_⟩
    rw [List.map_cons, pieceOf_of_not_word notWord, List.append_assoc, List.singleton_append]

/-- Tokens that make up an equation of known words are accepted. -/
theorem Formed.check_eq_ok {comma pending : Bool} {tokens : List Token}
    (formed : Formed comma pending tokens) (known : ∀ token ∈ tokens, scope.Knows token)
    (before : List Piece) :
    check scope comma before pending tokens = .ok (before ++ tokens.map scope.pieceOf) := by
  induction formed generalizing before with
  | done => rw [check, List.map_nil, List.append_nil]; rfl
  | @operator comma pending token rest kind allowed _ ih =>
    obtain ⟨_, known⟩ := List.forall_mem_cons.1 known
    have notRefused : ¬ (decide (token = [',']) && !comma) = true := by
      rw [Bool.and_eq_true, decide_eq_true_eq, Bool.not_eq_true', not_and]
      intro isComma
      rw [allowed isComma]
      decide
    rw [check, kind]
    dsimp only
    rw [if_neg notRefused, ih known, List.map_cons,
      pieceOf_of_not_word (by rw [kind]; decide), List.append_assoc, List.singleton_append]
  | @group comma pending inner rest formedInside _ ihInside ih =>
    simp only [List.forall_mem_cons, List.forall_mem_append] at known
    obtain ⟨⟨_, knownInside⟩, _, known⟩ := known
    rw [List.cons_append,
      check_group scope comma before pending rfl (formedInside.untilClosed_closing rest)]
    refine bind_eq_ok.2 ⟨_, ihInside knownInside [], ?_⟩
    rw [ih known]
    simp only [List.map_cons, List.map_append, pieceOf_opening, pieceOf_closing, List.nil_append,
      List.append_assoc, List.cons_append]
  | @call comma pending word function inner rest kind named formedInside _ ihInside ih =>
    simp only [List.forall_mem_cons, List.forall_mem_append] at known
    obtain ⟨⟨_, _, knownInside⟩, _, known⟩ := known
    have opened : (['('] :: (inner ++ [')'] :: rest)).head? = some ['('] := rfl
    rw [List.cons_append, List.cons_append, check_call scope comma before pending kind named opened
      (formedInside.untilClosed_closing rest)]
    refine bind_eq_ok.2 ⟨_, ihInside knownInside [], ?_⟩
    rw [ih known]
    simp only [List.map_cons, List.map_append, pieceOf_function kind named, pieceOf_opening,
      pieceOf_closing, List.nil_append, List.append_assoc, List.cons_append]
  | word kind unnamed _ ih =>
    obtain ⟨here, known⟩ := List.forall_mem_cons.1 known
    obtain ⟨piece, resolved⟩ := here ⟨kind, unnamed⟩
    rw [check, kind]
    dsimp only
    rw [unnamed]
    dsimp only
    rw [resolved, List.map_cons, pieceOf_name ⟨kind, unnamed⟩ resolved]
    exact (ih known _).trans (by rw [List.append_assoc, List.singleton_append])
  | number kind real _ ih =>
    obtain ⟨_, known⟩ := List.forall_mem_cons.1 known
    rw [check, kind]
    dsimp only
    rw [if_pos real, ih known, List.map_cons, pieceOf_of_not_word (by rw [kind]; decide),
      List.append_assoc, List.singleton_append]

/-- The check of separated tokens succeeds exactly if they make up an equation
of known words, and gives the pieces of the tokens. -/
theorem check_eq_ok_iff {comma : Bool} {before : List Piece} {pending : Bool}
    {tokens : List Token} (separated : Separated tokens) {out : List Piece} :
    check scope comma before pending tokens = .ok out ↔
      Formed comma pending tokens ∧ (∀ token ∈ tokens, scope.Knows token) ∧
        out = before ++ tokens.map scope.pieceOf := by
  constructor
  · exact formed_of_check separated
  · rintro ⟨formed, known, rfl⟩
    exact formed.check_eq_ok known before

/-- The check of a text succeeds exactly if its tokens make up an equation of
known words. -/
theorem checkText_eq_ok_iff {text : List Char} {pieces : List Piece} :
    checkText scope text = .ok pieces ↔
      Formed false false (tokensOf text) ∧ (∀ token ∈ tokensOf text, scope.Knows token) ∧
        pieces = (tokensOf text).map scope.pieceOf :=
  check_eq_ok_iff (separated_tokensOf text)

end

/-! ## Scopes with the same words -/

/-- The check depends on its scope only through what the words stand for. -/
theorem check_congr {scope other : Scope} (same : ∀ word, scope.resolve word = other.resolve word)
    (comma : Bool) (before : List Piece) (pending : Bool) (tokens : List Token) :
    check scope comma before pending tokens = check other comma before pending tokens := by
  fun_induction check scope comma before pending tokens with
  | case1 => rw [check, if_pos rfl]
  | case2 _ _ _ notPending => rw [check, if_neg notPending]
  | case3 _ _ _ _ _ kind refused =>
    rw [check, kind]
    exact (if_pos refused).symm
  | case4 _ _ _ _ _ kind notRefused ih =>
    rw [check, kind, ih]
    exact (if_neg notRefused).symm
  | case5 _ _ _ _ _ kind unclosed => rw [check_unclosed other _ _ _ kind unclosed]
  | case6 _ _ _ _ _ kind _ _ closed ihGroup ih =>
    rw [check_group other _ _ _ kind closed, ihGroup]
    exact congrArg _ (funext ih)
  | case7 _ _ _ _ _ kind _ named opened unclosed =>
    rw [check_call_unclosed other _ _ _ kind named opened unclosed]
  | case8 _ _ _ _ _ kind _ named opened _ _ closed ihGroup ih =>
    rw [check_call other _ _ _ kind named opened closed, ihGroup]
    exact congrArg _ (funext ih)
  | case9 comma before pending word rest kind function named notOpened =>
    rw [check, kind]
    dsimp only
    rw [named]
    exact (if_neg notOpened).symm
  | case10 comma before pending word rest kind unnamed ih =>
    rw [check, kind]
    dsimp only
    rw [unnamed]
    dsimp only
    rw [same]
    exact congrArg _ (funext ih)
  | case11 comma before pending token rest kind real ih =>
    rw [check, kind, ih]
    exact (if_pos real).symm
  | case12 comma before pending token rest kind notReal =>
    rw [check, kind]
    exact (if_neg notReal).symm
  | case13 comma before pending token rest kind => rw [check, kind]

/-- So does the expansion. -/
theorem settle_congr {scope other : Scope} (same : ∀ word, scope.resolve word = other.resolve word)
    (rounds : Nat) (pieces : List Piece) :
    settle scope rounds pieces = settle other rounds pieces := by
  induction rounds generalizing pieces with
  | zero => rw [settle, settle]
  | succ rounds ih =>
    rw [settle, settle, checkText, checkText, check_congr same]
    by_cases open' : pieces.any Piece.isExpansion = true
    · rw [if_pos open', if_pos open']
      exact congrArg _ (funext ih)
    · rw [if_neg open', if_neg open']

/-- Scopes of one size in which all words stand for the same evaluate every
equation to the same. -/
theorem evaluate_congr {scope other : Scope}
    (same : ∀ word, scope.resolve word = other.resolve word) (size : scope.size = other.size)
    (equation : String) : evaluate scope equation = evaluate other equation := by
  simp only [evaluate, checkText, check_congr same, settle_congr same, size]

end Meteogram.Equation
