import Meteogram.Number.Numeral
import Meteogram.Number.Power

/-!
# Double-precision numbers

Numbers of 64 bits, written so that proofs can compute with them: a finite
number is its sign and the pattern of its other 63 bits, and patterns are
ordered as the numbers are. Rounding to the nearest number, ties to even, is
done on exact quotients.
-/

set_option autoImplicit false

namespace Meteogram.Number

/-- A double-precision number. -/
inductive Binary64 where
  | nan
  | infinite (negative : Bool)
  /-- The sign, and the bits of the exponent and of the fraction. -/
  | finite (negative : Bool) (bits : Nat)
  deriving DecidableEq, Repr

namespace Binary64

/-- The pattern of infinity: no finite number reaches it. -/
def infiniteBits : Nat := 0x7FF * twoTo 52

/-- The least significand of a normal number. -/
def hiddenBit : Nat := twoTo 52

/-- The number zero. -/
def zero : Binary64 := .finite false 0

/-- The number one. -/
def one : Binary64 := .finite false (0x3FF * twoTo 52)

/-- The number with this pattern, which is infinite from `infiniteBits` on. -/
def ofBits (negative : Bool) (bits : Nat) : Binary64 :=
  if bits ≥ infiniteBits then .infinite negative else .finite negative bits

/-- Significand and power of two of a pattern. -/
def parts (bits : Nat) : Nat × Int :=
  let exponent := bits / hiddenBit
  if exponent = 0 then (bits, -1074)
  else (bits % hiddenBit + hiddenBit, (exponent : Int) - 1075)

/-- The value of a pattern as a quotient. -/
def ratio (bits : Nat) : Nat × Nat :=
  let (significand, power) := parts bits
  if power ≥ 0 then (significand * twoTo power.toNat, 1) else (significand, twoTo (-power).toNat)

/-! ## Rounding -/

/-- A quotient rounded to the nearest whole number, a half to the even one. -/
def divideEven (num den : Nat) : Nat :=
  let q := num / den
  let twice := 2 * (num % den)
  if twice < den then q
  else if den < twice then q + 1
  else if q % 2 = 0 then q else q + 1

/-- Numerator and denominator of a quotient divided by a power of two. -/
def scaled (num den : Nat) (power : Int) : Nat × Nat :=
  if power ≥ 0 then (num, den * twoTo power.toNat) else (num * twoTo (-power).toNat, den)

/-- The power of two of the last bit of the number nearest to a quotient. -/
def lastPlace (num den : Nat) : Int :=
  let guess := max ((num.log2 : Int) - den.log2 - 52) (-1074)
  let (n, d) := scaled num den guess
  let q := n / d
  if q ≥ 2 * hiddenBit then guess + 1
  else if q < hiddenBit && guess > -1074 then guess - 1
  else guess

/-- The number nearest to a quotient of positive numbers. -/
def ofRatio (negative : Bool) (num den : Nat) : Binary64 :=
  let power := lastPlace num den
  let (n, d) := scaled num den power
  ofBits negative ((power + 1074).toNat * hiddenBit + divideEven n d)

/-- The number nearest to a decimal one. Powers of ten that are far too large
or too small are settled without forming them. -/
def ofDecimal (negative : Bool) (significand : Nat) (exponent : Int) : Binary64 :=
  if significand = 0 then .finite negative 0
  else
    let size := exponent + (Nat.toDigits 10 significand).length
    if size > 310 then .infinite negative
    else if size < -330 then .finite negative 0
    else if exponent ≥ 0 then ofRatio negative (significand * tenTo exponent.toNat) 1
    else ofRatio negative significand (tenTo (-exponent).toNat)

/-- The number that a numeral stands for. -/
def ofNumeral : RealNumeral → Binary64
  | .notANumber => .nan
  | .infinite negative => .infinite negative
  | .decimal negative significand exponent => ofDecimal negative significand exponent

/-- The number that a text stands for. -/
def read? (text : String) : Option Binary64 :=
  (readReal? text).map ofNumeral

/-! ## Comparison and conversion -/

/-- The number is less than zero. -/
def isBelowZero : Binary64 → Bool
  | .nan => false
  | .infinite negative => negative
  | .finite negative bits => negative && bits != 0

/-- The number is greater than one. -/
def isAboveOne : Binary64 → Bool
  | .nan => false
  | .infinite negative => !negative
  | .finite negative bits => !negative && bits > 0x3FF * twoTo 52

/-- The number without its fraction, if it is finite. -/
def truncate? : Binary64 → Option Int
  | .finite negative bits =>
    let (num, den) := ratio bits
    let whole : Int := (num / den : Nat)
    some (if negative then -whole else whole)
  | _ => none

/-- The number as one of the machine's. -/
def toFloat : Binary64 → Float
  | .nan => Float.ofBits 0x7FF8000000000000
  | .infinite negative =>
    Float.ofBits (UInt64.ofNat (infiniteBits + if negative then twoTo 63 else 0))
  | .finite negative bits =>
    Float.ofBits (UInt64.ofNat (bits + if negative then twoTo 63 else 0))

/-- A number of the machine. -/
def ofFloat (number : Float) : Binary64 :=
  let pattern := number.toBits.toNat
  let negative := decide (twoTo 63 ≤ pattern)
  let bits := pattern % twoTo 63
  if bits > infiniteBits then .nan else ofBits negative bits

end Binary64

end Meteogram.Number
