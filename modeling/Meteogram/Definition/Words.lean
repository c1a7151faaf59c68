import Meteogram.Text.Words

/-!
# Words of chart definitions

A definition is a sequence of words, however they are laid out in lines. Lines
that start with a semicolon are comments. Square brackets and quotation marks
are words of their own.
-/

set_option autoImplicit false

namespace Meteogram.Definition

open Meteogram.Text

/-- The characters that are words of their own. -/
def isMark (c : Char) : Bool :=
  c == '[' || c == ']' || c == '"'

/-- The text with blanks around each mark. -/
def spaced (text : List Char) : List Char :=
  text.flatMap fun c => if isMark c then [' ', c, ' '] else [c]

/-- The line is a comment. -/
def isComment (line : List Char) : Bool :=
  (trimStart line).head? == some ';'

/-- The words of a line. -/
def lineWords (line : List Char) : List (List Char) :=
  if isComment line then [] else wordsOf (spaced line)

/-- The words of definitions as lists of characters. -/
def wordsOfText (text : List Char) : List (List Char) :=
  (linesOf text).flatMap lineWords

/-- The words of definitions. -/
def words (text : String) : List String :=
  (wordsOfText text.toList).map String.ofList

end Meteogram.Definition
