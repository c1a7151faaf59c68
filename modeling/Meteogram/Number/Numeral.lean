import Meteogram.Text.Words

/-!
# Reading numbers

The texts of whole numbers and of decimal fractions. Digits of any script are
taken, single underscores may stand between digits, and blanks may surround the
number. A fraction is read exactly, as a sign, a whole number and a power of
ten; `Meteogram.Number.Binary64` rounds it.
-/

set_option autoImplicit false

namespace Meteogram.Number

open Meteogram.Text

/-! ## Parts of a number -/

/-- The blanks that may surround a number: all but the four separators. -/
def isNumberBlank (c : Char) : Bool :=
  isBlank c && !(28 ≤ c.toNat && c.toNat ≤ 31)

/-- The text without the blanks around the number. -/
def trimNumber (cs : List Char) : List Char :=
  ((cs.dropWhile isNumberBlank).reverse.dropWhile isNumberBlank).reverse

/-- Whether a minus sign stands in front, and what follows the sign. -/
def readSign : List Char → Bool × List Char
  | '-' :: cs => (true, cs)
  | '+' :: cs => (false, cs)
  | cs => (false, cs)

/-- The characters that groups of digits are made of. -/
def isDigitOrBar (c : Char) : Bool :=
  (decimalValue? c).isSome || c == '_'

/-- The digits of a run in which single underscores may part groups. -/
def digitsOfRun? (run : List Char) : Option (List Nat) :=
  if (fieldsOf '_' run).all fun group => !group.isEmpty then
    some (run.filterMap decimalValue?)
  else none

/-- The number that digits stand for, the first digit being the highest. -/
def ofDigits (digits : List Nat) : Nat :=
  digits.foldl (fun total digit => 10 * total + digit) 0

/-! ## Whole numbers -/

/-- The most digits that a whole number may have. -/
def maxDigits : Nat := 4300

/-- The whole number that a text stands for. -/
def readInt? (text : String) : Option Int :=
  let (negative, cs) := readSign (trimNumber text.toList)
  if cs.all isDigitOrBar then
    match digitsOfRun? cs with
    | none => none
    | some digits =>
      if digits.length > maxDigits then none
      else if negative then some (-(ofDigits digits : Int))
      else some (ofDigits digits)
  else none

/-! ## Decimal fractions -/

/-- What the text of a real number says. -/
inductive RealNumeral where
  /-- No number at all, in a place for numbers. -/
  | notANumber
  /-- An infinite number. -/
  | infinite (negative : Bool)
  /-- `significand` times the power of ten. -/
  | decimal (negative : Bool) (significand : Nat) (exponent : Int)
  deriving DecidableEq, Repr

/-- The digits of a part that may be missing. -/
def optionalDigits? (run : List Char) : Option (List Nat) :=
  if run.isEmpty then some [] else digitsOfRun? run

/-- The power of ten that follows the digits, with its mark. -/
def readExponent? : List Char → Option Int
  | [] => some 0
  | mark :: cs =>
    if mark == 'e' || mark == 'E' then
      let (negative, run) := readSign cs
      if run.all isDigitOrBar then
        (digitsOfRun? run).map fun digits =>
          if negative then -(ofDigits digits : Int) else (ofDigits digits : Int)
      else none
    else none

/-- Reads digits, an optional point with further digits, and an optional power
of ten. -/
def readUnsigned? (negative : Bool) (cs : List Char) : Option RealNumeral := do
  let whole ← optionalDigits? (cs.takeWhile isDigitOrBar)
  let rest := cs.dropWhile isDigitOrBar
  let (fractionRun, tail) :=
    match rest with
    | '.' :: after => (after.takeWhile isDigitOrBar, after.dropWhile isDigitOrBar)
    | _ => ([], rest)
  let fraction ← optionalDigits? fractionRun
  if whole.isEmpty && fraction.isEmpty then none
  else
    let exponent ← readExponent? tail
    return .decimal negative (ofDigits (whole ++ fraction)) (exponent - fraction.length)

/-- What a text says as a real number, if it is the text of one. -/
def readReal? (text : String) : Option RealNumeral :=
  let (negative, cs) := readSign (trimNumber text.toList)
  let word := String.ofList (cs.map Char.toLower)
  if word == "inf" || word == "infinity" then some (.infinite negative)
  else if word == "nan" then some .notANumber
  else readUnsigned? negative cs

/-- The text is the text of a real number. -/
def isRealText (text : String) : Bool :=
  (readReal? text).isSome

end Meteogram.Number
