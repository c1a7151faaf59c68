import Meteogram.Text.Words

/-!
# Tokens of an equation

An equation is a sequence of operators, brackets and words. Blanks mean nothing
in it, not even between the letters of a word. `tokensOf` takes an equation
apart into its tokens.
-/

set_option autoImplicit false

namespace Meteogram.Equation

open Meteogram.Text

/-- A token of an equation. -/
abbrev Token := List Char

/-- The operators, the comma between arguments being one of them. -/
def isOperator (c : Char) : Bool :=
  c == '+' || c == '-' || c == '*' || c == '/' || c == ','

/-- The brackets. -/
def isBracket (c : Char) : Bool :=
  c == '(' || c == ')'

/-- The characters that are tokens of their own. -/
def isMark (c : Char) : Bool :=
  isOperator c || isBracket c

/-- The tokens of a text without blanks: each mark, and each maximal run of
other characters. -/
def splitMarks : List Char → List Token
  | [] => []
  | c :: cs =>
    if isMark c then [c] :: splitMarks cs
    else
      match cs with
      | [] => [[c]]
      | next :: _ => if isMark next then [c] :: splitMarks cs else attach c (splitMarks cs)

/-- The text without its blanks. -/
def withoutBlanks (text : List Char) : List Char :=
  text.filter fun c => !isBlank c

/-- The tokens of an equation. -/
def tokensOf (text : List Char) : List Token :=
  splitMarks (withoutBlanks text)

/-- The tokens of an equation as strings. -/
def tokenize (text : String) : List String :=
  (tokensOf text.toList).map String.ofList

end Meteogram.Equation
