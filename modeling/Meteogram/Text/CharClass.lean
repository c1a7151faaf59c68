import Meteogram.Text.CharTable

/-!
# Classes of characters

The classes that this library splits, tests and shows texts by: blanks, line
ends, letters, digits, word characters and characters that can be shown. All of
them are defined on the whole of Unicode. The ASCII characters are decided without the tables, so a
proof about an ASCII text never meets one.
-/

set_option autoImplicit false

namespace Meteogram.Text

/-- The character stands in one of the ranges of a table. -/
def inTable (table : List CharTable.Range) (c : Char) : Bool :=
  table.any fun range => range.1 ≤ c.toNat && c.toNat ≤ range.2

/-- White space: spaces of any width, tabs, line and page ends, and the four
separators before the space. -/
def isBlank (c : Char) : Bool :=
  let n := c.toNat
  (9 ≤ n && n ≤ 13) || (28 ≤ n && n ≤ 32) || n == 0x85 || n == 0xA0 || n == 0x1680 ||
    (0x2000 ≤ n && n ≤ 0x200A) || n == 0x2028 || n == 0x2029 || n == 0x202F || n == 0x205F ||
    n == 0x3000

/-- The characters that end a line. -/
def isLineEnd (c : Char) : Bool :=
  let n := c.toNat
  (10 ≤ n && n ≤ 13) || (28 ≤ n && n ≤ 30) || n == 0x85 || n == 0x2028 || n == 0x2029

/-- Every line end is white space. -/
theorem isBlank_of_isLineEnd {c : Char} (lineEnd : isLineEnd c = true) : isBlank c = true := by
  simp only [isLineEnd, isBlank, Bool.or_eq_true, Bool.and_eq_true, decide_eq_true_eq,
    beq_iff_eq] at lineEnd ⊢
  omega

/-- Letters of any script. -/
def isLetter (c : Char) : Bool :=
  if c.toNat < 128 then c.isAlpha else inTable CharTable.letters c

/-- The value of a decimal digit of any script. -/
def decimalValue? (c : Char) : Option Nat :=
  if c.toNat < 128 then
    if c.isDigit then some (c.toNat - 48) else none
  else
    (CharTable.decimalZeros.find? fun start => start ≤ c.toNat && c.toNat < start + 10).map
      fun start => c.toNat - start

/-- Decimal digits, and the digits that are written raised, lowered or
enclosed. -/
def isDigitLike (c : Char) : Bool :=
  (decimalValue? c).isSome || inTable CharTable.otherDigits c

/-- The characters of words: letters, numbers and the underscore. -/
def isWordChar (c : Char) : Bool :=
  if c.toNat < 128 then c.isAlphanum || c == '_'
  else inTable CharTable.letters c || inTable CharTable.numbers c

/-- The characters that can be shown as they are. -/
def isPrintable (c : Char) : Bool :=
  if c.toNat < 128 then 32 ≤ c.toNat && c.toNat < 127
  else !inTable CharTable.unprintable c

end Meteogram.Text
