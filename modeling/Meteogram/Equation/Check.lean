import Meteogram.Equation.Function
import Meteogram.Number.Numeral

/-!
# Checking equations

An equation may use the functions, numbers, keywords and the equations that
were defined in front of the charts. `check` reads the tokens of an equation
from the left, brackets by recursion, and either finds the first mistake or
gives the equation in pieces: keywords in their own spelling, and defined
equations marked for their expansion. `evaluate` expands until nothing is left
to expand.

In the block of definitions the keywords are not known yet, and a word is
taken as it is.
-/

set_option autoImplicit false

namespace Meteogram.Equation

open Meteogram.Text

/-! ## Mistakes -/

/-- What can be wrong with an equation. -/
inductive Mistake where
  | commaMisplaced
  /-- The equation ends right after an operator. -/
  | operandMissing (before : List Char)
  | unexpected (token : Token)
  | bracketMissing
  | argumentsMissing (word : Token)
  | notANumber (word : Token)
  | unknownWord (word : Token)
  /-- A defined equation is expanded again and again. -/
  | circular
  /-- There is no token at all. -/
  | empty
  deriving DecidableEq, Repr

namespace Mistake

/-- What is wrong, without the equation. -/
def text : Mistake → String
  | commaMisplaced => "Comma is not permitted at this position"
  | operandMissing before => "Operand expected after '" ++ String.ofList before ++ "'"
  | unexpected token => "Unexpected '" ++ String.ofList token ++ "' in expression"
  | bracketMissing => "Most likely forgot a matching bracket '(' or ')' or an operator"
  | argumentsMissing word => "Function " ++ String.ofList word ++ " without arguments"
  | notANumber word => "Not a number: " ++ String.ofList word
  | unknownWord word =>
    String.ofList word ++ " is neither an existing Plotvariable nor a predefined equation"
  | circular => "Recursive equation, it keeps referring to itself"
  | empty => "Empty expression"

/-- The message about a mistake in an equation. -/
def message (equation : String) : Mistake → String
  | empty => "Empty expression '" ++ equation ++ "'"
  | mistake => "Error in expression '" ++ equation ++ "': " ++ mistake.text

end Mistake

/-! ## The words of an equation -/

/-- The equations defined so far, in the order of their first definition. -/
abbrev Definitions := List (String × String)

/-- The equation of this name. -/
def Definitions.find? (definitions : Definitions) (name : String) : Option String :=
  definitions.lookup name

/-- Defines an equation; a name that is defined already keeps its place. -/
def Definitions.define (definitions : Definitions) (name equation : String) : Definitions :=
  if definitions.any fun entry => entry.1 == name then
    definitions.map fun entry => if entry.1 == name then (name, equation) else entry
  else definitions ++ [(name, equation)]

/-- What the words of an equation may stand for. -/
inductive Scope where
  /-- In the block of definitions every word stands for itself. -/
  | definitions
  /-- In a chart a word is a keyword, whose spelling `spelling?` gives, or the
  name of a defined equation. -/
  | chart (spelling? : String → Option String) (defined : Definitions)

/-- A piece of a checked equation. -/
inductive Piece where
  | token (token : Token)
  /-- The text of a defined equation, which stands in brackets. -/
  | expansion (equation : List Char)
  deriving DecidableEq, Repr

namespace Piece

/-- The text of a piece. -/
def text : Piece → List Char
  | .token word => word
  | .expansion equation => '(' :: equation ++ [')']

/-- The piece is a defined equation. -/
def isExpansion : Piece → Bool
  | .token _ => false
  | .expansion _ => true

end Piece

/-- The text of the pieces. -/
def textOf (pieces : List Piece) : List Char :=
  pieces.flatMap Piece.text

/-- What a word that names no function stands for. -/
def Scope.resolve (scope : Scope) (word : Token) : Except Mistake Piece :=
  match scope with
  | .definitions => .ok (.token word)
  | .chart spelling? defined =>
    match spelling? (String.ofList word) with
    | some keyword => .ok (.token keyword.toList)
    | none =>
      match defined.find? (String.ofList word) with
      | some equation => .ok (.expansion equation.toList)
      | none => .error (.unknownWord word)

/-! ## Reading the tokens -/

/-- The kinds of tokens. -/
inductive Kind where
  | operator
  | opening
  /-- It starts with a letter. -/
  | word
  /-- It starts with a digit. -/
  | number
  | other
  deriving DecidableEq, Repr

/-- The kind of a token. -/
def kindOf : Token → Kind
  | [] => .other
  | c :: _ =>
    if c == '(' then .opening
    else if isOperator c then .operator
    else if isLetter c then .word
    else if isDigitLike c then .number
    else .other

/-- The tokens up to the bracket that closes `depth` further ones, and the
tokens after it. -/
def untilClosed (depth : Nat) : List Token → Option (List Token × List Token)
  | [] => none
  | token :: tokens =>
    if token = ['('] then
      (untilClosed (depth + 1) tokens).map fun (inner, rest) => (token :: inner, rest)
    else if token = [')'] then
      match depth with
      | 0 => some ([], tokens)
      | depth + 1 =>
        (untilClosed depth tokens).map fun (inner, rest) => (token :: inner, rest)
    else (untilClosed depth tokens).map fun (inner, rest) => (token :: inner, rest)

/-- The two parts leave out the closing bracket and nothing else. -/
theorem length_untilClosed {depth : Nat} {tokens inner rest : List Token}
    (found : untilClosed depth tokens = some (inner, rest)) :
    inner.length + rest.length + 1 = tokens.length := by
  induction tokens generalizing depth inner rest with
  | nil => simp [untilClosed] at found
  | cons token tokens ih =>
    unfold untilClosed at found
    split at found
    · obtain ⟨⟨i, r⟩, step, same⟩ := Option.map_eq_some_iff.1 found
      have := ih step
      simp only [Prod.mk.injEq] at same
      obtain ⟨rfl, rfl⟩ := same
      simp only [List.length_cons]
      omega
    · split at found
      · split at found
        · simp only [Option.some.injEq, Prod.mk.injEq] at found
          obtain ⟨rfl, rfl⟩ := found
          simp
        · obtain ⟨⟨i, r⟩, step, same⟩ := Option.map_eq_some_iff.1 found
          have := ih step
          simp only [Prod.mk.injEq] at same
          obtain ⟨rfl, rfl⟩ := same
          simp only [List.length_cons]
          omega
      · obtain ⟨⟨i, r⟩, step, same⟩ := Option.map_eq_some_iff.1 found
        have := ih step
        simp only [Prod.mk.injEq] at same
        obtain ⟨rfl, rfl⟩ := same
        simp only [List.length_cons]
        omega

/-- Checks the tokens that follow the pieces `before`. A comma may stand
between them if `comma` holds, and `pending` holds right after an operator. -/
def check (scope : Scope) (comma : Bool) (before : List Piece) (pending : Bool)
    (tokens : List Token) : Except Mistake (List Piece) :=
  match tokens with
  | [] => if pending then .error (.operandMissing (textOf before)) else .ok before
  | token :: rest =>
    match kindOf token with
    | .operator =>
      if token = [','] && !comma then .error .commaMisplaced
      else check scope comma (before ++ [.token token]) true rest
    | .opening =>
      match found : untilClosed 0 rest with
      | none => .error .bracketMissing
      | some (inner, after) => do
        let group ← check scope false [] false inner
        check scope comma (before ++ .token ['('] :: group ++ [.token [')']]) false after
    | .word =>
      match Function.ofWord? (String.ofList token) with
      | some function =>
        if rest.head? = some ['('] then
          match found : untilClosed 0 rest.tail with
          | none => .error .bracketMissing
          | some (inner, after) => do
            let arguments ← check scope function.takesComma [] false inner
            check scope comma
              (before ++ .token function.name.toList :: .token ['('] :: arguments ++
                [.token [')']]) false after
        else .error (.argumentsMissing token)
      | none => do
        let piece ← scope.resolve token
        check scope comma (before ++ [piece]) false rest
    | .number =>
      if Number.isRealText (String.ofList token) then
        check scope comma (before ++ [.token token]) false rest
      else .error (.notANumber token)
    | .other => .error (.unexpected token)
termination_by tokens.length
decreasing_by
  all_goals
    have shorter := List.length_tail (l := rest)
    simp only [List.length_cons]
    first
    | omega
    | (have parts := length_untilClosed found
       omega)

/-- Checks the tokens of a text. -/
def checkText (scope : Scope) (text : List Char) : Except Mistake (List Piece) :=
  check scope false [] false (tokensOf text)

/-! ## Expansion -/

/-- The number of equations that are defined. -/
def Scope.size : Scope → Nat
  | .definitions => 0
  | .chart _ defined => defined.length

/-- Puts the texts of defined equations in and checks again, until nothing is
left to expand or the rounds are used up. -/
def settle (scope : Scope) (rounds : Nat) (pieces : List Piece) : Except Mistake (List Char) :=
  if pieces.any Piece.isExpansion then
    match rounds with
    | 0 => .error .circular
    | rounds + 1 => do settle scope rounds (← checkText scope (textOf pieces))
  else .ok (textOf pieces)

/-- The checked text of an equation, with all defined equations expanded. A
chain of equations is no longer than there are equations, so further rounds mean
a circle. -/
def evaluate (scope : Scope) (equation : String) : Except Mistake String := do
  let pieces ← checkText scope equation.toList
  let text ← settle scope scope.size pieces
  if text.isEmpty then .error .empty else .ok (String.ofList text)

end Meteogram.Equation
