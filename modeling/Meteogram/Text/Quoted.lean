import Meteogram.Text.CharClass

/-!
# Quoted texts

A text between quotation marks, as it is shown inside another text. A text with
single quotation marks and no double ones is put between double ones, and any
other text between single ones. What cannot be shown is written by its number in
base sixteen, in as few of two, four and eight digits as it needs.
-/

set_option autoImplicit false

namespace Meteogram.Text

/-! ## Digits of base sixteen -/

/-- A digit of base sixteen. -/
def hexDigit (n : Nat) : Char :=
  if n < 10 then Char.ofNat (48 + n) else Char.ofNat (87 + n)

/-- The last `count` digits of a number in base sixteen, the most significant one
first. -/
def hexDigits : Nat → Nat → List Char
  | 0, _ => []
  | count + 1, n => hexDigits count (n / 16) ++ [hexDigit (n % 16)]

@[simp] theorem length_hexDigits (count n : Nat) : (hexDigits count n).length = count := by
  induction count generalizing n with
  | zero => rfl
  | succ count ih => simp [hexDigits, ih]

/-! ## Quotation -/

/-- The single quotation mark. -/
def singleMark : Char := Char.ofNat 39

/-- The mark that a text is quoted with. -/
def quotationMark (text : List Char) : Char :=
  if text.contains singleMark && !text.contains '"' then '"' else singleMark

/-- A character written by its number. -/
def numberEscape (c : Char) : List Char :=
  let n := c.toNat
  if n < 0x100 then '\\' :: 'x' :: hexDigits 2 n
  else if n < 0x10000 then '\\' :: 'u' :: hexDigits 4 n
  else '\\' :: 'U' :: hexDigits 8 n

/-- A character inside a text that is quoted with a mark. -/
def quotedChar (mark c : Char) : List Char :=
  if c = mark || c = '\\' then ['\\', c]
  else if c = '\n' then ['\\', 'n']
  else if c = '\r' then ['\\', 'r']
  else if c = '\t' then ['\\', 't']
  else if isPrintable c then [c]
  else numberEscape c

/-- The text between quotation marks. -/
def quoted (text : String) : String :=
  let mark := quotationMark text.toList
  String.ofList (mark :: text.toList.flatMap (quotedChar mark) ++ [mark])

end Meteogram.Text
