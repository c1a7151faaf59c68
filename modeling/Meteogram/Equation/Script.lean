import Meteogram.Equation.Function
import Meteogram.Equation.Occurrence
import Meteogram.Fault

/-!
# Equations as script

A page computes an equation in a loop over the first variable that the equation
uses. In the loop, every variable becomes its value at the current index and
every function takes the name that it has on the page. The first running total
is computed by a loop of its own.
-/

set_option autoImplicit false

namespace Meteogram.Equation

open Meteogram.Text

/-! ## Functions and variables -/

/-- A function call at the start of a text that follows the character
`before`: the name of the function on the page, and the length of the call up to
and including the opening bracket. -/
def callHere? (before : Option Char) (text : List Char) : Option (List Char × Nat) :=
  if opensWord before then
    Function.all.findSome? fun function => do
      let scriptName ← function.scriptName?
      let call := function.name.toList ++ ['(']
      let _ ← afterPrefix? call text
      return (scriptName.toList ++ ['('], call.length)
  else none

/-- Renames the function calls from the left; `skip` characters of the last one
are still to be passed over. -/
def renameFrom (before : Option Char) (skip : Nat) : List Char → List Char
  | [] => []
  | c :: cs =>
    match skip with
    | skip + 1 => renameFrom (some c) skip cs
    | 0 =>
      match callHere? before (c :: cs) with
      | some (new, length) => new ++ renameFrom (some c) (length - 1) cs
      | none => c :: renameFrom (some c) 0 cs

/-- The text with every function called as on the page. -/
def renameFunctions (text : List Char) : List Char :=
  renameFrom none 0 text

/-- The value of a variable at the current index. -/
def indexed (name : List Char) : List Char :=
  name ++ "[i][1]".toList

/-- The names with the longer ones first; names of one length keep their
order. -/
def longestFirst (names : List String) : List String :=
  names.mergeSort fun first second => second.length ≤ first.length

/-- The text with every variable replaced by its value at the current index. A
name is replaced before the names that are shorter. -/
def indexNames (names : List String) (text : List Char) : List Char :=
  (longestFirst names).foldl
    (fun text name => replaceWord name.toList (indexed name.toList) text) text

/-! ## Running totals -/

/-- The start of the call of a running total. -/
def sumCall : List Char := "sum(".toList

/-- The value of the running total at the current index. -/
def sumValue : List Char := "sumResult[i][1]".toList

/-- The text in front of the first occurrence of a part, and the text after
it. -/
def splitAtPart? (part : List Char) : List Char → Option (List Char × List Char)
  | [] => none
  | c :: cs =>
    match afterPrefix? part (c :: cs) with
    | some rest => some ([], rest)
    | none => (splitAtPart? part cs).map fun (before, rest) => (c :: before, rest)

/-- The text up to the bracket that closes `depth` further ones, and the text
after it. -/
def untilBracket? (depth : Nat) : List Char → Option (List Char × List Char)
  | [] => none
  | c :: cs =>
    if c = '(' then
      (untilBracket? (depth + 1) cs).map fun (inner, rest) => (c :: inner, rest)
    else if c = ')' then
      match depth with
      | 0 => some ([], cs)
      | depth + 1 => (untilBracket? depth cs).map fun (inner, rest) => (c :: inner, rest)
    else (untilBracket? depth cs).map fun (inner, rest) => (c :: inner, rest)

/-- What the first running total in an equation adds up, if there is one, and
the equation with the value of the total in its place. -/
def splitSum (equation : List Char) : Except Fault (Option (List Char) × List Char) :=
  match splitAtPart? sumCall equation with
  | none => .ok (none, equation)
  | some (before, after) =>
    match untilBracket? 0 after with
    | none => .error (.unclosedSum (String.ofList equation))
    | some (inner, rest) => .ok (some inner, before ++ sumValue ++ rest)

/-! ## The whole equation -/

/-- An equation as the page computes it at one index. -/
structure Code where
  /-- What the running total adds up. -/
  sum? : Option (List Char)
  /-- The value of the equation. -/
  expression : List Char
  deriving DecidableEq, Repr

/-- The text of an equation as the page computes it. -/
def pageText (names : List String) (text : List Char) : List Char :=
  indexNames names (renameFunctions text)

/-- An equation as the page computes it; a second running total is not taken
care of. -/
def codeOf (equation : List Char) (names : List String) : Run Code := do
  let (inner, rest) ← Report.ofExcept (splitSum equation)
  if hasPart sumCall rest then
    Report.warn ("Only the first sum() in '" ++ String.ofList equation ++ "' is accumulated")
  return ⟨inner.map (pageText names), pageText names rest⟩

/-- The lines that compute the running total. -/
def sumLines (first sum : String) : List String := [
  "sumResult.length = 0;",
  "for(var i=0; i<" ++ first ++ ".length; i++) \x7b",
  "  sum( " ++ sum ++ ", sumResult, i, " ++ first ++ "[i][0]);",
  "\x7d"]

/-- The lines that fill the array of an equation. -/
def arrayLines (keyword first expression : String) : List String := [
  keyword ++ ".length=0;",
  "for(var i=0; i<" ++ first ++ ".length; i++) \x7b",
  "  " ++ keyword ++ ".push([ " ++ first ++ "[i][0], " ++ expression ++ " ]);",
  "\x7d"]

/-- The lines that compute an equation and fill the array named by its
keyword. There are none if the equation uses no variable, or if its running
total is never closed, which is reported. -/
def scriptLines (keyword equation : String) (names : List String) : Run (Option (List String)) :=
  match names with
  | [] => pure none
  | first :: _ =>
    let report := codeOf equation.toList names
    match report.outcome with
    | .error fault =>
      ⟨.ok none, report.log ++ [⟨.error,
        "Error in equation of " ++ keyword ++ ": " ++ fault.message.getD ""⟩]⟩
    | .ok code =>
      let sum := match code.sum? with
        | none => []
        | some inner => sumLines first (String.ofList inner)
      ⟨.ok (some (sum ++ arrayLines keyword first (String.ofList code.expression))), report.log⟩

/-- The page's own function for running totals, which start anew on the first of
January and at the start of the data. -/
def sumFunctionLines : List String := [
  "function sum( curVal, valArray, curIndex, thisEpochDate)",
  "\x7b",
  "  thisDate = new Date( thisEpochDate );",
  "  if (( thisDate.getMonth() == 0 && thisDate.getDate() == 1) || curIndex == 0 ) \x7b",
  "    valArray.push( [ thisEpochDate, curVal ] );",
  "  \x7d",
  "  else \x7b",
  "    tmp = valArray[ curIndex - 1 ][ 1 ] + curVal;",
  "    valArray.push( [ thisEpochDate, tmp ] );",
  "  \x7d",
  "\x7d"]

end Meteogram.Equation
