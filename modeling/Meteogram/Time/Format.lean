import Meteogram.Time.Calendar
import Meteogram.Text.Words

/-!
# Written times

A form of writing times is a list of parts. `read?` takes a text apart by the
parts of a form and `write` puts a time together by them. A text may leave out
the leading zero of a number; years of two digits lie between 1969 and 2068.
-/

set_option autoImplicit false

namespace Meteogram.Time

open Meteogram.Text

/-- A part of the written form of a time. -/
inductive Part where
  | day
  | month
  /-- The last two digits of the year. -/
  | shortYear
  /-- All digits of the year, of which a text must have four. -/
  | fullYear
  | hour
  | minute
  | second
  /-- A character that stands for itself. -/
  | mark (c : Char)
  /-- A space, for which a text may have any blanks. -/
  | gap
  deriving DecidableEq, Repr

/-- Day, month and year, as in log files. -/
def slashDate : List Part :=
  [.day, .mark '/', .month, .mark '/', .shortYear]

/-- Day, month, year, hour and minute: the form of the last upload time. -/
def slashMinute : List Part :=
  slashDate ++ [.gap, .hour, .mark ':', .minute]

/-- Year, month, day, hour, minute and second: the form of the marker of the
last daily run. -/
def dashSecond : List Part :=
  [.fullYear, .mark '-', .month, .mark '-', .day, .mark 'T', .hour, .mark ':', .minute, .mark ':',
    .second]

/-! ## Reading -/

/-- How a number of one or two digits may be written. -/
structure NumberForm where
  /-- First digits after which any digit may follow. -/
  free : List Nat
  /-- First digits after which only the digits of a range may follow. -/
  closed : List (Nat × Nat × Nat)
  /-- The number may be a single zero, and a single digit of any script. -/
  anySingle : Bool
  /-- A space may stand for the leading zero. -/
  spaced : Bool := false

/-- A day of the month, from 1 to 31. -/
def dayForm : NumberForm := ⟨[1, 2], [(3, 0, 1), (0, 1, 9)], false, true⟩

/-- A month, from 1 to 12. -/
def monthForm : NumberForm := ⟨[], [(1, 0, 2), (0, 1, 9)], false, false⟩

/-- An hour, from 0 to 23. -/
def hourForm : NumberForm := ⟨[0, 1], [(2, 0, 3)], true, false⟩

/-- A minute, from 0 to 59. -/
def minuteForm : NumberForm := ⟨[0, 1, 2, 3, 4, 5], [], true, false⟩

/-- A second, from 0 to 61: the last two are read and lie in no minute. -/
def secondForm : NumberForm := ⟨[0, 1, 2, 3, 4, 5], [(6, 0, 1)], true, false⟩

/-- The value of a digit of the ASCII range. -/
def plainDigit? (c : Char) : Option Nat :=
  if c.isDigit then some (c.toNat - 48) else none

/-- The value of a second digit that may follow a first one. -/
def NumberForm.second? (form : NumberForm) (first : Nat) (c : Char) : Option Nat :=
  if form.free.contains first then decimalValue? c
  else
    match form.closed.find? fun range => range.1 == first, plainDigit? c with
    | some (_, least, most), some digit =>
      if least ≤ digit && digit ≤ most then some digit else none
    | _, _ => none

/-- A number of one digit. -/
def NumberForm.single? (form : NumberForm) (c : Char) : Option Nat :=
  if form.anySingle then decimalValue? c
  else (plainDigit? c).filter (1 ≤ ·)

/-- Reads a number, of two digits if it can be. -/
def NumberForm.read? (form : NumberForm) : List Char → Option (Nat × List Char)
  | [] => none
  | [c] => (form.single? c).map (·, [])
  | c :: d :: cs =>
    let two := (plainDigit? c).bind fun first =>
      (form.second? first d).map fun second => (10 * first + second, cs)
    let spaced :=
      if form.spaced && c == ' ' then ((plainDigit? d).filter (1 ≤ ·)).map (·, cs) else none
    two <|> (form.single? c).map (·, d :: cs) <|> spaced

/-- Reads exactly so many digits of any script. -/
def readDigits? : Nat → Nat → List Char → Option (Nat × List Char)
  | 0, value, cs => some (value, cs)
  | _ + 1, _, [] => none
  | count + 1, value, c :: cs => do
    let digit ← decimalValue? c
    readDigits? count (10 * value + digit) cs

/-- The year that two digits stand for. -/
def yearOfTwo (short : Nat) : Nat :=
  if short ≤ 68 then 2000 + short else 1900 + short

/-- Reads one part of a time. -/
def Part.read? (part : Part) (sofar : Moment) (cs : List Char) : Option (Moment × List Char) :=
  match part with
  | .day => (dayForm.read? cs).map fun (n, rest) =>
      ({ sofar with date := { sofar.date with day := n } }, rest)
  | .month => (monthForm.read? cs).map fun (n, rest) =>
      ({ sofar with date := { sofar.date with month := n } }, rest)
  | .shortYear => (readDigits? 2 0 cs).map fun (n, rest) =>
      ({ sofar with date := { sofar.date with year := yearOfTwo n } }, rest)
  | .fullYear => (readDigits? 4 0 cs).map fun (n, rest) =>
      ({ sofar with date := { sofar.date with year := n } }, rest)
  | .hour => (hourForm.read? cs).map fun (n, rest) => ({ sofar with hour := n }, rest)
  | .minute => (minuteForm.read? cs).map fun (n, rest) => ({ sofar with minute := n }, rest)
  | .second => (secondForm.read? cs).map fun (n, rest) => ({ sofar with second := n }, rest)
  | .mark c =>
    match cs with
    | [] => none
    | d :: rest => if d == c || d == c.toLower then some (sofar, rest) else none
  | .gap =>
    match cs with
    | [] => none
    | d :: rest => if isBlank d then some (sofar, rest.dropWhile isBlank) else none

/-- Reads the parts one after the other. -/
def readParts? : List Part → Moment → List Char → Option (Moment × List Char)
  | [], sofar, cs => some (sofar, cs)
  | part :: parts, sofar, cs => do
    let (sofar, cs) ← part.read? sofar cs
    readParts? parts sofar cs

/-- The time that a text of this form stands for. -/
def read? (form : List Part) (text : String) : Option Moment := do
  let (moment, rest) ← readParts? form (Moment.ofDate ⟨1900, 1, 1⟩) text.toList
  if rest.isEmpty && moment.date.isValid && moment.second < 60 then some moment else none

/-! ## Writing -/

/-- A number with two digits. -/
def twoDigits (n : Nat) : String :=
  if n < 10 then "0" ++ toString n else toString n

/-- Writes one part of a time. -/
def Part.write (moment : Moment) : Part → String
  | .day => twoDigits moment.date.day
  | .month => twoDigits moment.date.month
  | .shortYear => twoDigits (moment.date.year % 100)
  | .fullYear => toString moment.date.year
  | .hour => twoDigits moment.hour
  | .minute => twoDigits moment.minute
  | .second => twoDigits moment.second
  | .mark c => c.toString
  | .gap => " "

/-- Writes a time in this form. -/
def write (form : List Part) (moment : Moment) : String :=
  String.join (form.map (Part.write moment))

end Meteogram.Time
