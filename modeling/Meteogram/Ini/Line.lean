import Meteogram.Text.Words

/-!
# Lines of a configuration file

The head of a section stands in square brackets, as many as the section lies
deep. A setting is a key and a text around an equals sign. Names and keys may be
quoted, and a comment may follow after a number sign.

Where a line can be read in several ways, the first reading that fits is taken:
brackets and indentation as long as possible, names and keys as short as
possible.
-/

set_option autoImplicit false

namespace Meteogram.Ini

open Meteogram.Text

/-- A quotation mark. -/
def isQuote (c : Char) : Bool :=
  c == '"' || c.toNat == 39

/-- A comment, or nothing. -/
def isComment : List Char → Bool
  | [] => true
  | c :: _ => c == '#'

/-- The comment that a text holds behind blanks, when it holds nothing else. -/
def onlyComment? (text : List Char) : Option (List Char) :=
  let rest := trimStart text
  if isComment rest then some rest else none

/-- The text in front of the first closing marks that `read?` can go on from, and
what it reads behind them. -/
def untilMarks? {α : Type} (marks : List Char) (read? : List Char → Option α) :
    List Char → Option (List Char × α) :=
  firstSplit? fun rest => (afterPrefix? marks rest).bind read?

/-! ## Heads of sections -/

/-- The head of a section. -/
structure Head where
  indent : List Char
  /-- The number of opening brackets. -/
  opened : Nat
  name : List Char
  /-- The number of closing brackets. -/
  closed : Nat
  comment : List Char

/-- Closing brackets up to the end of the line or a comment: their number, added
to the number of those before, and the comment. -/
def closingBrackets? (count : Nat) : List Char → Option (Nat × List Char)
  | [] => if 0 < count then some (count, []) else none
  | c :: cs =>
    if c = ']' then closingBrackets? (count + 1) cs
    else if isBlank c then closingBrackets? count cs
    else if 0 < count && c == '#' then some (count, c :: cs)
    else none

/-- The end of a head: at least one closing bracket, and the comment. -/
def headEnd? (text : List Char) : Option (Nat × List Char) :=
  closingBrackets? 0 text

/-- The quoted or unquoted name that a text starts with, and the end of the
head. Within the quotation marks there has to be something else than blanks. -/
def headName? (text : List Char) : Option (List Char × Nat × List Char) :=
  match text with
  | [] => none
  | c :: cs =>
    if isQuote c then
      match cs.dropWhile isBlank with
      | [] => none
      | d :: more => do
        let (inner, count, comment) ← untilMarks? [c] headEnd? more
        return (cs.takeWhile isBlank ++ d :: inner, count, comment)
    else if isBlank c then none
    else do
      let (more, count, comment) ← firstSplit? headEnd? cs
      return (c :: more, count, comment)

/-- What is left after each of the opening brackets at the start of a text and
the blanks behind it. -/
def afterBrackets : List Char → List (List Char)
  | [] => []
  | c :: cs =>
    if c = '[' then trimStart cs :: afterBrackets cs
    else if isBlank c then afterBrackets cs
    else []

/-- Reads the head of a section. -/
def head? (line : List Char) : Option Head :=
  let text := trimStart line
  if text.head? = some '[' then
    (afterBrackets text).zipIdx.reverse.findSome? fun (rest, i) => do
      let (name, closed, comment) ← headName? rest
      return ⟨line.takeWhile isBlank, i + 1, name, closed, comment⟩
  else none

/-! ## Settings -/

/-- A setting on one line: the text may still be quoted and have a comment
behind it. -/
structure Assignment where
  indent : List Char
  key : List Char
  text : List Char

/-- Reads a key without quotation marks that starts with `c`. -/
def plainKey? (indent : List Char) (c : Char) (cs : List Char) : Option Assignment :=
  (untilMarks? ['='] some cs).map fun (more, text) => ⟨indent, c :: trimEnd more, trimStart text⟩

/-- The text behind the equals sign that comes first but for blanks. -/
def afterEquals? (text : List Char) : Option (List Char) :=
  (afterPrefix? ['='] (trimStart text)).map trimStart

/-- Reads a key in quotation marks, of which the first is read already. -/
def quotedKey? (indent : List Char) (mark : Char) (cs : List Char) : Option Assignment :=
  (untilMarks? [mark] afterEquals? cs).map fun (key, text) => ⟨indent, key, text⟩

/-- Reads a setting. If there is no key right after the indentation, the last
blank of the indentation starts the key. -/
def assignment? (line : List Char) : Option Assignment :=
  let indent := line.takeWhile isBlank
  let text := line.dropWhile isBlank
  let key := match text with
    | [] => none
    | c :: cs =>
      if isQuote c then quotedKey? indent c cs
      else if c = '=' then none
      else plainKey? indent c cs
  key <|> indent.getLast?.bind fun blank => plainKey? indent.dropLast blank text

/-- The text of a setting and the comment behind it. A quoted text keeps its
quotation marks. -/
def textAndComment? (text : List Char) : Option (List Char × List Char) :=
  match text with
  | [] => some ([], [])
  | c :: cs =>
    if isQuote c then
      (untilMarks? [c] onlyComment? cs).map fun (inner, comment) => (c :: inner ++ [c], comment)
    else if c = '#' then some ([], text)
    else
      let isText (d : Char) : Bool := d != '#'
      some (c :: trimEnd (cs.takeWhile isText), cs.dropWhile isText)

/-! ## Texts over several lines -/

/-- The three quotation marks that open a text over several lines. -/
def tripleQuote? (text : List Char) : Option (List Char) :=
  match text with
  | a :: b :: c :: _ => if isQuote a && a == b && b == c then some [a, b, c] else none
  | _ => none

/-- The text in front of closing quotation marks that only a comment follows,
and the comment. -/
def untilQuotes? (marks text : List Char) : Option (List Char × List Char) :=
  untilMarks? marks onlyComment? text

end Meteogram.Ini
