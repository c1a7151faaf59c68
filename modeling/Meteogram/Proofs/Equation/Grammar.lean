import Meteogram.Proofs.Equation.Expansion
import Meteogram.Proofs.Text.Identifier

/-!
# Expressions

`Phrase` is the grammar of expressions: signed operands with operations between them, where
an operand is a number, a word, an expression in brackets or a call with its arguments, and any
number of signs may stand in front of it. Every expression is formed, so the check accepts it, but
the check accepts more. What an expression has beyond `Formed` is that operands and operators take
turns, which two neighbouring tokens decide (`fits?`): formed tokens are an expression exactly if
each token has its place after the one before it (`phrase_iff_alternates`).
-/

set_option autoImplicit false

namespace Meteogram.Equation

open Meteogram.Text

/-! ## The grammar -/

/-- The token is a number: it starts with a digit and is the text of a real number. -/
structure IsNumber (token : Token) : Prop where
  plain : IsPlain token
  digit : token.head?.map isDigitLike = some true
  real : Number.isRealText (String.ofList token) = true

/-- The token is a word: it starts with a letter and names no function. -/
structure IsWord (token : Token) : Prop where
  plain : IsPlain token
  letter : token.head?.map isLetter = some true
  noFunction : Function.ofWord? (String.ofList token) = none

/-- The token is the name of the function in some letter case. -/
def IsNameOf (function : Function) (token : Token) : Prop :=
  Function.ofWord? (String.ofList token) = some function

/-- A plus or a minus. -/
def isSign (token : Token) : Bool :=
  token == ['+'] || token == ['-']

/-- The operations between two operands. -/
def isOperation (token : Token) : Bool :=
  isSign token || token == ['*'] || token == ['/']

/-- The parts of the grammar. -/
inductive Part where
  | operand
  /-- An operand with any number of signs in front. -/
  | signed
  | expression
  /-- Expressions with commas between them. -/
  | arguments
  deriving DecidableEq, Repr

/-- What may stand between brackets: several arguments, or one expression. -/
def Part.between (comma : Bool) : Part :=
  if comma then .arguments else .expression

/-- The tokens make up this part, with words that are known. -/
inductive Phrase (known : Token → Prop) : Part → List Token → Prop where
  | number {token : Token} (isNumber : IsNumber token) : Phrase known .operand [token]
  | word {token : Token} (isWord : IsWord token) (isKnown : known token) :
      Phrase known .operand [token]
  | group {inner : List Token} (inside : Phrase known .expression inner) :
      Phrase known .operand (['('] :: inner ++ [[')']])
  | call {name : Token} {function : Function} {inner : List Token}
      (named : IsNameOf function name)
      (inside : Phrase known (.between function.takesComma) inner) :
      Phrase known .operand (name :: ['('] :: inner ++ [[')']])
  | unsigned {tokens : List Token} (operand : Phrase known .operand tokens) :
      Phrase known .signed tokens
  | sign {token : Token} {rest : List Token} (isSign : isSign token = true)
      (next : Phrase known .signed rest) : Phrase known .signed (token :: rest)
  | single {tokens : List Token} (signed : Phrase known .signed tokens) :
      Phrase known .expression tokens
  | operation {left right : List Token} {token : Token} (first : Phrase known .expression left)
      (isOperation : isOperation token = true) (second : Phrase known .signed right) :
      Phrase known .expression (left ++ token :: right)
  | argument {tokens : List Token} (expression : Phrase known .expression tokens) :
      Phrase known .arguments tokens
  | more {first others : List Token} (expression : Phrase known .expression first)
      (rest : Phrase known .arguments others) :
      Phrase known .arguments (first ++ [','] :: others)

/-! ## Kinds of tokens -/

theorem isOperation_cases {token : Token} (operation : isOperation token = true) :
    token = ['+'] ∨ token = ['-'] ∨ token = ['*'] ∨ token = ['/'] := by
  simpa only [isOperation, isSign, Bool.or_eq_true, beq_iff_eq, or_assoc] using operation

/-- An operation is an operator, and no comma. -/
theorem operator_of_isOperation {token : Token} (operation : isOperation token = true) :
    IsMark token ∧ kindOf token = .operator ∧ token ≠ [','] := by
  rcases isOperation_cases operation with rfl | rfl | rfl | rfl <;>
    exact ⟨.singleton (by decide), by decide, by decide⟩

theorem isOperation_of_isSign {token : Token} (sign : isSign token = true) :
    isOperation token = true := by
  rw [isOperation, sign, Bool.true_or, Bool.true_or]

set_option maxRecDepth 4000 in
/-- No decimal digit of any script is a letter. -/
theorem decimalZeros_apart : CharTable.decimalZeros.all (fun start =>
    CharTable.letters.all fun range =>
      Nat.ble (start + 10) range.1 || Nat.blt range.2 start) = true := by
  decide

set_option maxRecDepth 4000 in
theorem otherDigits_apart : CharTable.otherDigits.all (fun digits =>
    CharTable.letters.all fun range =>
      Nat.blt digits.2 range.1 || Nat.blt range.2 digits.1) = true := by
  decide

theorem otherDigits_not_ascii : CharTable.otherDigits.all (fun digits =>
    Nat.ble 128 digits.1) = true := by
  decide

/-- No digit is a letter. -/
theorem not_isLetter_of_isDigitLike {c : Char} (digit : isDigitLike c = true) :
    isLetter c = false := by
  refine Bool.eq_false_iff.2 fun letter => ?_
  have inOthers : ∀ {digits : CharTable.Range}, digits ∈ CharTable.otherDigits →
      (decide (digits.1 ≤ c.toNat) && decide (c.toNat ≤ digits.2)) = true → 128 ≤ c.toNat := by
    intro digits member within
    have beyond := List.all_eq_true.1 otherDigits_not_ascii digits member
    simp only [Bool.and_eq_true, decide_eq_true_eq] at within
    rw [Nat.ble_eq] at beyond
    omega
  rw [isDigitLike, Bool.or_eq_true] at digit
  by_cases ascii : c.toNat < 128
  · rcases digit with decimal | other
    · rw [decimalValue?, if_pos ascii] at decimal
      rw [isLetter_of_ascii ascii, Char.isAlpha, Bool.or_eq_true, isUpper_iff,
        isLower_iff] at letter
      split at decimal
      · next isDigit =>
        rw [isDigit_iff] at isDigit
        omega
      · cases decimal
    · obtain ⟨digits, member, within⟩ := List.any_eq_true.1 other
      exact absurd ascii (Nat.not_lt.2 (inOthers member within))
  · rw [isLetter_of_not_ascii (by omega)] at letter
    obtain ⟨range, inLetters, inRange⟩ := List.any_eq_true.1 letter
    simp only [Bool.and_eq_true, decide_eq_true_eq] at inRange
    rcases digit with decimal | other
    · rw [decimalValue?, if_neg ascii, Option.isSome_map, Option.isSome_iff_exists] at decimal
      obtain ⟨start, found⟩ := decimal
      have apart := List.all_eq_true.1 (List.all_eq_true.1 decimalZeros_apart start
        (List.mem_of_find?_eq_some found)) range inLetters
      have within := List.find?_some found
      simp only [Bool.and_eq_true, Bool.or_eq_true, decide_eq_true_eq, Nat.ble_eq, Nat.blt_eq]
        at apart within
      omega
    · obtain ⟨digits, member, within⟩ := List.any_eq_true.1 other
      have apart := List.all_eq_true.1 (List.all_eq_true.1 otherDigits_apart digits member) range
        inLetters
      simp only [Bool.and_eq_true, Bool.or_eq_true, decide_eq_true_eq, Nat.blt_eq] at apart within
      omega

/-- A token is a number by its kind exactly if it starts with a digit. -/
theorem kindOf_eq_number_iff {token : Token} (plain : IsPlain token) :
    kindOf token = .number ↔ token.head?.map isDigitLike = some true := by
  cases token with
  | nil => exact absurd rfl plain.nonempty
  | cons c cs =>
    have notMark := plain.head.1
    rw [isMark, Bool.or_eq_false_iff] at notMark
    have notOpening : (c == '(') = false := (Bool.or_eq_false_iff.1 notMark.2).1
    rw [List.head?_cons, Option.map_some, Option.some_inj, kindOf, notOpening, notMark.1]
    simp only [Bool.false_eq_true, if_false]
    by_cases digit : isDigitLike c = true
    · rw [not_isLetter_of_isDigitLike digit]
      simp only [digit, Bool.false_eq_true, if_false, if_true]
    · refine iff_of_false (fun number => ?_) digit
      split_ifs at number

theorem IsNumber.kind {token : Token} (isNumber : IsNumber token) : kindOf token = .number :=
  (kindOf_eq_number_iff isNumber.plain).2 isNumber.digit

theorem IsWord.kind {token : Token} (isWord : IsWord token) : kindOf token = .word :=
  (kindOf_eq_word_iff token).2 isWord.letter

theorem IsNameOf.sameWord {function : Function} {token : Token} (named : IsNameOf function token) :
    sameWord function.name (String.ofList token) = true :=
  List.find?_some (p := fun function : Function => Text.sameWord function.name (String.ofList token))
    named

/-- A token that names a function has neither marks nor blanks in it. -/
theorem IsNameOf.isPlain {function : Function} {token : Token} (named : IsNameOf function token) :
    IsPlain token := by
  have plain : IsPlain function.name.toList :=
    ⟨by cases function <;> decide, by cases function <;> decide⟩
  have same := (sameWord_comm _ _).trans named.sameWord
  rw [← String.ofList_toList (s := function.name)] at same
  have plain' := plain.congr same
  rwa [String.toList_ofList] at plain'

/-- A token that names a function starts with a letter. -/
theorem IsNameOf.kind {function : Function} {token : Token} (named : IsNameOf function token) :
    kindOf token = .word := by
  have letter := head?_isLetter_of_sameWord named.sameWord
  rw [String.toList_ofList] at letter
  rw [kindOf_eq_word_iff, ← letter]
  cases function <;> decide

/-- Tokens that are no marks have a kind only if they are words. -/
theorem isPlain_of_kind {token : Token} (form : IsMark token ∨ IsPlain token)
    (kind : kindOf token = .word ∨ kindOf token = .number) : IsPlain token := by
  refine form.resolve_left ?_
  rintro ⟨c, marked, rfl⟩
  rcases isMark_cases marked with rfl | rfl | rfl | rfl | rfl | rfl | rfl <;>
    rcases kind with kind | kind <;> exact absurd kind (by decide)

theorem kindOf_closing : kindOf [')'] = .other := by decide

/-! ## Expressions are accepted -/

section

variable {known : Token → Prop} {part : Part} {tokens : List Token}

/-- The tokens of a phrase are separated. -/
theorem Phrase.separated (phrase : Phrase known part tokens) : Separated tokens := by
  have single : ∀ {token : Token}, IsPlain token → Separated [token] := fun plain =>
    .plain plain .nil fun _ member => by cases member
  have head : ∀ {token : Token} {rest : List Token}, IsMark token →
      ∀ neighbour ∈ (token :: rest).head?, IsMark neighbour := by
    intro token rest marked neighbour member
    obtain rfl := Option.some.inj member
    exact marked
  induction phrase with
  | number isNumber => exact single isNumber.plain
  | word isWord _ => exact single isWord.plain
  | group _ ih => exact ih.bracketed
  | call named _ ih => exact .plain named.isPlain ih.bracketed (head (.singleton (by decide)))
  | unsigned _ ih => exact ih
  | sign sign _ ih => exact .mark (operator_of_isOperation (isOperation_of_isSign sign)).1 ih
  | single _ ih => exact ih
  | operation _ operation _ ihFirst ihSecond =>
    obtain ⟨marked, _⟩ := operator_of_isOperation operation
    exact ihFirst.append (.mark marked ihSecond) (head marked)
  | argument _ ih => exact ih
  | more _ _ ihFirst ihOthers =>
    have comma : IsMark [','] := .singleton (by decide)
    exact ihFirst.append (.mark comma ihOthers) (head comma)

/-- A phrase is formed together with whatever is formed behind it, if a comma may stand between
its arguments. -/
theorem Phrase.formed_append (phrase : Phrase known part tokens) {comma : Bool}
    (allowed : part = .arguments → comma = true) {rest : List Token}
    (next : Formed comma false rest) (pending : Bool) : Formed comma pending (tokens ++ rest) := by
  induction phrase generalizing comma rest pending with
  | number isNumber => exact .number isNumber.kind isNumber.real next
  | word isWord _ => exact .word isWord.kind isWord.noFunction next
  | @group inner _ ih =>
    have inside : Formed false false (inner ++ []) := ih (fun same => by cases same) .done false
    rw [List.append_nil] at inside
    rw [List.append_assoc]
    exact .group inside next
  | @call name function inner named _ ih =>
    have inside : Formed function.takesComma false (inner ++ []) := by
      refine ih (fun same => ?_) .done false
      cases takes : function.takesComma with
      | false =>
        rw [takes] at same
        cases same
      | true => rfl
    rw [List.append_nil] at inside
    rw [List.append_assoc]
    exact .call named.kind named inside next
  | unsigned _ ih => exact ih (fun same => by cases same) next pending
  | sign sign _ ih =>
    obtain ⟨_, kind, notComma⟩ := operator_of_isOperation (isOperation_of_isSign sign)
    exact .operator kind (fun isComma => absurd isComma notComma)
      (ih (fun same => by cases same) next true)
  | single _ ih => exact ih (fun same => by cases same) next pending
  | operation _ operation _ ihFirst ihSecond =>
    obtain ⟨_, kind, notComma⟩ := operator_of_isOperation operation
    rw [List.append_assoc]
    have second := ihSecond (fun same => by cases same) next true
    exact ihFirst (fun same => by cases same)
      (.operator kind (fun isComma => absurd isComma notComma) second) pending
  | argument _ ih => exact ih (fun same => by cases same) next pending
  | more _ _ ihFirst ihOthers =>
    rw [List.append_assoc]
    have others := ihOthers (fun _ => allowed rfl) next true
    exact ihFirst (fun same => by cases same)
      (.operator (by decide) (fun _ => allowed rfl) others) pending

theorem Phrase.formed (phrase : Phrase known .expression tokens) : Formed false false tokens := by
  have formed : Formed false false (tokens ++ []) :=
    phrase.formed_append (fun same => by cases same) .done false
  rwa [List.append_nil] at formed

/-- The words of a phrase are known. -/
theorem Phrase.known_of_mem (phrase : Phrase known part tokens) {token : Token}
    (member : token ∈ tokens) (isName : IsName token) : known token := by
  have noMark : ∀ {c : Char}, isMark c = true → ¬ IsName [c] := fun marked isName =>
    (IsMark.singleton marked).not_word isName.1
  induction phrase with
  | number isNumber =>
    obtain rfl := List.mem_singleton.1 member
    exact absurd (isName.1.symm.trans isNumber.kind) (by decide)
  | word _ isKnown =>
    obtain rfl := List.mem_singleton.1 member
    exact isKnown
  | group _ ih =>
    simp only [List.cons_append, List.mem_cons, List.mem_append, List.not_mem_nil, or_false]
      at member
    rcases member with rfl | inside | rfl
    · exact absurd isName (noMark (by decide))
    · exact ih inside
    · exact absurd isName (noMark (by decide))
  | call named _ ih =>
    simp only [List.cons_append, List.mem_cons, List.mem_append, List.not_mem_nil, or_false]
      at member
    rcases member with rfl | rfl | inside | rfl
    · exact absurd (isName.2.symm.trans named) (by simp)
    · exact absurd isName (noMark (by decide))
    · exact ih inside
    · exact absurd isName (noMark (by decide))
  | unsigned _ ih | single _ ih | argument _ ih => exact ih member
  | sign sign _ ih =>
    obtain ⟨marked, _⟩ := operator_of_isOperation (isOperation_of_isSign sign)
    rcases List.mem_cons.1 member with rfl | member
    · exact absurd isName.1 marked.not_word
    · exact ih member
  | operation _ operation _ ihFirst ihSecond =>
    obtain ⟨marked, _⟩ := operator_of_isOperation operation
    simp only [List.mem_append, List.mem_cons] at member
    rcases member with inFirst | rfl | inSecond
    · exact ihFirst inFirst
    · exact absurd isName.1 marked.not_word
    · exact ihSecond inSecond
  | more _ _ ihFirst ihOthers =>
    simp only [List.mem_append, List.mem_cons] at member
    rcases member with inFirst | rfl | inOthers
    · exact ihFirst inFirst
    · exact absurd isName (noMark (by decide))
    · exact ihOthers inOthers

end

/-! ## Operands and operators take turns -/

/-- The token names a function. -/
def isFunctionName (token : Token) : Bool :=
  (Function.ofWord? (String.ofList token)).isSome

/-- Whether an operand is expected behind the token, if the token has a place where an operand is
expected or is not. A sign has its place in front of an operand, any operator behind one. -/
def fits? (expected : Bool) (token : Token) : Option Bool :=
  match kindOf token with
  | .operator => if !expected || isSign token then some true else none
  | .opening => if expected then some true else none
  | .word => if expected then some (isFunctionName token) else none
  | .number => if expected then some false else none
  | .other => if expected then none else some false

/-- Every token has its place after the one before it: operands and operators take turns. -/
def alternates (tokens : List Token) : Bool :=
  tokens.foldlM fits? true = some false

section

theorem fits?_operator {token : Token} (kind : kindOf token = .operator) (expected : Bool) :
    fits? expected token = if !expected || isSign token then some true else none := by
  rw [fits?, kind]

theorem fits?_opening (expected : Bool) :
    fits? expected ['('] = if expected then some true else none := rfl

theorem fits?_closing (expected : Bool) :
    fits? expected [')'] = if expected then none else some false := by
  rw [fits?, kindOf_closing]

theorem fits?_word {token : Token} (kind : kindOf token = .word) (expected : Bool) :
    fits? expected token = if expected then some (isFunctionName token) else none := by
  rw [fits?, kind]

theorem fits?_name {token : Token} (isName : IsName token) (expected : Bool) :
    fits? expected token = if expected then some false else none := by
  rw [fits?_word isName.1, isFunctionName, isName.2]
  rfl

theorem fits?_function {function : Function} {token : Token} (named : IsNameOf function token)
    (expected : Bool) : fits? expected token = if expected then some true else none := by
  have found : Function.ofWord? (String.ofList token) = some function := named
  rw [fits?_word named.kind, isFunctionName, found]
  rfl

theorem fits?_number {token : Token} (kind : kindOf token = .number) (expected : Bool) :
    fits? expected token = if expected then some false else none := by
  rw [fits?, kind]

/-- In brackets operands and operators have to take turns on their own, and what stands in brackets
is an operand. -/
theorem foldlM_bracketed (expected : Bool) (inner : List Token) :
    (['('] :: inner ++ [[')']]).foldlM fits? expected =
      if expected && alternates inner then some false else none := by
  rw [List.cons_append, List.foldlM_cons, fits?_opening]
  cases expected with
  | false => rfl
  | true =>
    simp only [if_true, Option.bind_eq_bind, Option.bind_some, List.foldlM_append, Bool.true_and,
      alternates]
    cases inner.foldlM fits? true with
    | none => rfl
    | some state =>
      rw [Option.bind_some, List.foldlM_cons, fits?_closing]
      cases state <;> rfl

theorem alternates_iff {tokens : List Token} :
    alternates tokens = true ↔ tokens.foldlM fits? true = some false := by
  rw [alternates, decide_eq_true_eq]

/-- Brackets that have their place have a content that takes turns. -/
theorem alternates_of_bracketed {inner rest : List Token} {expected state : Bool}
    (follows : (['('] :: inner ++ [[')']] ++ rest).foldlM fits? expected = some state) :
    alternates inner = true := by
  rw [List.foldlM_append, foldlM_bracketed] at follows
  cases takesTurns : alternates inner with
  | true => rfl
  | false =>
    rw [takesTurns, Bool.and_false] at follows
    cases follows

/-- In a phrase operands and operators take turns. -/
theorem Phrase.alternates {known : Token → Prop} {part : Part} {tokens : List Token}
    (phrase : Phrase known part tokens) : alternates tokens = true := by
  rw [alternates_iff]
  induction phrase with
  | number isNumber =>
    rw [List.foldlM_cons, fits?_number isNumber.kind]
    rfl
  | word isWord _ =>
    rw [List.foldlM_cons, fits?_name ⟨isWord.kind, isWord.noFunction⟩]
    rfl
  | group _ ih =>
    rw [foldlM_bracketed, alternates_iff.2 ih]
    rfl
  | call named _ ih =>
    rw [List.cons_append, List.foldlM_cons, fits?_function named, if_pos rfl, Option.bind_eq_bind,
      Option.bind_some, foldlM_bracketed, alternates_iff.2 ih]
    rfl
  | unsigned _ ih | single _ ih | argument _ ih => exact ih
  | sign sign _ ih =>
    obtain ⟨_, kind, _⟩ := operator_of_isOperation (isOperation_of_isSign sign)
    rw [List.foldlM_cons, fits?_operator kind, sign]
    exact ih
  | operation _ operation _ ihFirst ihSecond =>
    obtain ⟨_, kind, _⟩ := operator_of_isOperation operation
    rw [List.foldlM_append, ihFirst, Option.bind_eq_bind, Option.bind_some, List.foldlM_cons,
      fits?_operator kind]
    exact ihSecond
  | more _ _ ihFirst ihOthers =>
    rw [List.foldlM_append, ihFirst, Option.bind_eq_bind, Option.bind_some, List.foldlM_cons,
      fits?_operator (by decide)]
    exact ihOthers

end

/-! ## Expressions among the formed tokens -/

theorem operator_cases {token : Token} (form : IsMark token ∨ IsPlain token)
    (kind : kindOf token = .operator) : token = [','] ∨ isOperation token = true := by
  rcases form with ⟨c, marked, rfl⟩ | plain
  · rcases isMark_cases marked with rfl | rfl | rfl | rfl | rfl | rfl | rfl <;>
      first
      | exact .inl rfl
      | exact .inr (by decide)
      | exact absurd kind (by decide)
  · cases token with
    | nil => cases kind
    | cons c cs =>
      have notMark := plain.head.1
      rw [isMark, Bool.or_eq_false_iff] at notMark
      rw [kindOf, notMark.1] at kind
      simp only [Bool.false_eq_true, if_false] at kind
      split_ifs at kind

section

variable (known : Token → Prop)

/-- A signed operand behind these tokens makes up an expression with them. -/
def AwaitsOperand (front : List Token) : Prop :=
  ∀ operand, Phrase known .signed operand → Phrase known .expression (front ++ operand)

variable {known}

theorem awaitsOperand_nil : AwaitsOperand known [] := fun _ signed => .single signed

theorem AwaitsOperand.sign {front : List Token} (awaits : AwaitsOperand known front) {token : Token}
    (sign : isSign token = true) : AwaitsOperand known (front ++ [token]) := by
  intro operand signed
  rw [List.append_assoc]
  exact awaits _ (.sign sign signed)

theorem Phrase.awaitsOperand {front : List Token} (phrase : Phrase known .expression front)
    {token : Token} (operation : isOperation token = true) :
    AwaitsOperand known (front ++ [token]) := by
  intro operand signed
  rw [List.append_assoc]
  exact .operation phrase operation signed

/-- One expression may stand wherever several arguments may. -/
theorem Phrase.between {tokens : List Token} (phrase : Phrase known .expression tokens)
    (comma : Bool) : Phrase known (.between comma) tokens := by
  cases comma with
  | false => exact phrase
  | true => exact .argument phrase

/-- Behind something that awaits an operand the tokens make up an expression, or arguments, if
they take turns from there. -/
def Completes (known : Token → Prop) (comma : Bool) (tokens : List Token) : Prop :=
  tokens.foldlM fits? true = some false → ∀ front, AwaitsOperand known front →
    Phrase known (.between comma) (front ++ tokens)

/-- Behind an expression the tokens make up a longer one, or arguments, if they take turns from
there. -/
def Continues (known : Token → Prop) (comma : Bool) (tokens : List Token) : Prop :=
  tokens.foldlM fits? false = some false → ∀ front, Phrase known .expression front →
    Phrase known (.between comma) (front ++ tokens)

/-- An operand ends what awaits one, and the rest continues the expression. -/
theorem Continues.completes {comma : Bool} {tokens rest : List Token}
    (continues : Continues known comma rest)
    (operand : (tokens ++ rest).foldlM fits? true = some false → Phrase known .operand tokens) :
    Completes known comma (tokens ++ rest) := by
  intro follows front awaits
  have phrase := operand follows
  rw [List.foldlM_append, alternates_iff.1 phrase.alternates, Option.bind_eq_bind,
    Option.bind_some] at follows
  rw [← List.append_assoc]
  exact continues follows _ (awaits _ (.unsigned phrase))

/-- What has no place behind an expression is never found there. -/
theorem continues_of_misfit {comma : Bool} {tokens : List Token}
    (misfit : tokens.foldlM fits? false = none) : Continues known comma tokens := by
  intro follows
  rw [misfit] at follows
  cases follows

/-- Formed tokens in which operands and operators take turns continue what stands in front of
them, be it an expression or one that awaits an operand. -/
theorem Formed.phrase_append {comma pending : Bool} {tokens : List Token}
    (formed : Formed comma pending tokens) (form : ∀ token ∈ tokens, IsMark token ∨ IsPlain token)
    (isKnown : ∀ token ∈ tokens, IsName token → known token) :
    Completes known comma tokens ∧ Continues known comma tokens := by
  induction formed with
  | done =>
    refine ⟨fun stopped => ?_, fun _ front phrase => ?_⟩
    · cases stopped
    · rw [List.append_nil]
      exact phrase.between _
  | @operator comma pending token rest kind allowed _ ih =>
    obtain ⟨formHere, form⟩ := List.forall_mem_cons.1 form
    obtain ⟨_, isKnown⟩ := List.forall_mem_cons.1 isKnown
    obtain ⟨completes, _⟩ := ih form isKnown
    simp only [Completes, Continues, List.foldlM_cons, fits?_operator kind, Bool.not_true,
      Bool.false_or, Bool.not_false, Bool.true_or, if_true, Option.bind_eq_bind]
    constructor
    · intro follows front awaits
      split at follows
      · next sign =>
        rw [List.append_cons]
        exact completes follows _ (awaits.sign sign)
      · cases follows
    · intro follows front phrase
      rcases operator_cases formHere kind with rfl | operation
      · obtain rfl := allowed rfl
        exact .more phrase (completes follows [] awaitsOperand_nil)
      · rw [List.append_cons]
        exact completes follows _ (phrase.awaitsOperand operation)
  | @group comma pending inner rest _ _ ihInside ih =>
    simp only [List.forall_mem_cons, List.forall_mem_append] at form isKnown
    obtain ⟨⟨_, formInside⟩, _, form⟩ := form
    obtain ⟨⟨_, knownInside⟩, _, isKnown⟩ := isKnown
    have split : ['('] :: inner ++ [')'] :: rest = (['('] :: inner ++ [[')']]) ++ rest := by
      rw [List.append_assoc, List.singleton_append]
    rw [split]
    refine ⟨(ih form isKnown).2.completes fun follows => .group ?_, continues_of_misfit ?_⟩
    · have inside := alternates_of_bracketed follows
      exact (ihInside formInside knownInside).1 (alternates_iff.1 inside) [] awaitsOperand_nil
    · rw [List.foldlM_append, foldlM_bracketed]
      rfl
  | @call comma pending word function inner rest kind named _ _ ihInside ih =>
    simp only [List.forall_mem_cons, List.forall_mem_append] at form isKnown
    obtain ⟨⟨_, _, formInside⟩, _, form⟩ := form
    obtain ⟨⟨_, _, knownInside⟩, _, isKnown⟩ := isKnown
    have split : word :: ['('] :: inner ++ [')'] :: rest =
        (word :: ['('] :: inner ++ [[')']]) ++ rest := by
      rw [List.append_assoc, List.singleton_append]
    have starts : ∀ expected, (word :: ['('] :: inner ++ [[')']] ++ rest).foldlM fits? expected =
        (if expected then some true else none).bind fun state =>
          (['('] :: inner ++ [[')']] ++ rest).foldlM fits? state := by
      intro expected
      rw [List.cons_append, List.cons_append, List.foldlM_cons, fits?_function named]
      rfl
    rw [split]
    refine ⟨(ih form isKnown).2.completes fun follows => .call named ?_, continues_of_misfit ?_⟩
    · rw [starts, if_pos rfl, Option.bind_some] at follows
      have inside := alternates_of_bracketed follows
      exact (ihInside formInside knownInside).1 (alternates_iff.1 inside) [] awaitsOperand_nil
    · rw [starts]
      rfl
  | @word comma pending word rest kind unnamed _ ih =>
    obtain ⟨formHere, form⟩ := List.forall_mem_cons.1 form
    obtain ⟨knownHere, isKnown⟩ := List.forall_mem_cons.1 isKnown
    have isWord : IsWord word :=
      ⟨isPlain_of_kind formHere (.inl kind), (kindOf_eq_word_iff word).1 kind, unnamed⟩
    refine ⟨(ih form isKnown).2.completes fun _ => .word isWord (knownHere ⟨kind, unnamed⟩),
      continues_of_misfit ?_⟩
    rw [List.foldlM_cons, fits?_name ⟨kind, unnamed⟩]
    rfl
  | @number comma pending token rest kind real _ ih =>
    obtain ⟨formHere, form⟩ := List.forall_mem_cons.1 form
    obtain ⟨_, isKnown⟩ := List.forall_mem_cons.1 isKnown
    have plain := isPlain_of_kind formHere (.inr kind)
    have isNumber : IsNumber token := ⟨plain, (kindOf_eq_number_iff plain).1 kind, real⟩
    refine ⟨(ih form isKnown).2.completes fun _ => .number isNumber, continues_of_misfit ?_⟩
    rw [List.foldlM_cons, fits?_number kind]
    rfl

/-- Formed tokens are an expression exactly if operands and operators take turns in them. -/
theorem phrase_iff_alternates {tokens : List Token} (separated : Separated tokens)
    (formed : Formed false false tokens) (isKnown : ∀ token ∈ tokens, IsName token → known token) :
    Phrase known .expression tokens ↔ alternates tokens = true := by
  refine ⟨Phrase.alternates, fun takesTurns => ?_⟩
  exact (formed.phrase_append (fun _ member => separated.mem member) isKnown).1
    (alternates_iff.1 takesTurns) [] awaitsOperand_nil

end

end Meteogram.Equation
