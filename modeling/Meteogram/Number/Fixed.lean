import Meteogram.Number.Shortest
import Meteogram.Fault

/-!
# Fixed numbers of decimals

The text of a number with a given number of decimals, rounded from its exact
value with ties to even; and the rounding of measured values to one decimal,
which starts from their shortest text and sends a half away from zero.
-/

set_option autoImplicit false

namespace Meteogram.Number.Binary64

/-- The digits of a whole number of units of the last decimal. -/
def fixedDigits (units decimals : Nat) : List Char :=
  let digits := (toString units).toList
  let padded := zeros (decimals + 1 - digits.length) ++ digits
  let whole := padded.length - decimals
  if decimals = 0 then padded else padded.take whole ++ '.' :: padded.drop whole

/-- The text of a number with this many decimals. -/
def fixedText (decimals : Nat) : Binary64 → String
  | .nan => "nan"
  | .infinite false => "inf"
  | .infinite true => "-inf"
  | .finite negative bits =>
    let (num, den) := ratio bits
    let digits := fixedDigits (divideEven (num * tenTo decimals) den) decimals
    String.ofList (if negative then '-' :: digits else digits)

/-- The most digits that a value with one decimal may have. -/
def maxTenthsDigits : Nat := 28

/-- A decimal in tenths, a half rounded up. -/
def Decimal.tenths (d : Decimal) : Nat :=
  if d.exponent ≥ -1 then d.significand * tenTo (d.exponent + 1).toNat
  else
    let unit := tenTo (-1 - d.exponent).toNat
    (2 * d.significand + unit) / (2 * unit)

/-- The number rounded to one decimal: its shortest text rounded half away from
zero, which takes 0.25 to 0.3. -/
def oneDecimal : Binary64 → Except Fault Binary64
  | .nan => .ok .nan
  | .infinite _ => .error .notRoundable
  | .finite negative bits =>
    let tenths := (shortest bits).tenths
    if digitCount tenths > maxTenthsDigits then .error .notRoundable
    else .ok (ofDecimal negative tenths (-1))

end Meteogram.Number.Binary64
