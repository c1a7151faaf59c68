import Meteogram.Number.Binary64

/-!
# Shortest decimal texts

The decimal number with the fewest digits that reads back as a given
double-precision number, and of those the one nearest to it. `Binary64.text`
writes it positionally from 0.0001 up to 10^16 and with a power of ten beyond.
-/

set_option autoImplicit false

namespace Meteogram.Number

/-- The decimal digits of a number; zero has none. -/
def digitCount (n : Nat) : Nat :=
  if n = 0 then 0 else (Nat.toDigits 10 n).length

/-- The number of places of a positive quotient in front of the point, or,
below a tenth, minus the number of zeros right after the point. -/
def places (num den : Nat) : Int :=
  if den ≤ num then digitCount (num / den) else 1 - (digitCount ((den - 1) / num) : Int)

namespace Binary64

/-- A decimal number: a whole number times a power of ten. -/
structure Decimal where
  /-- The whole number. -/
  significand : Nat
  /-- The power of ten. -/
  exponent : Int
  deriving DecidableEq, Repr

/-- A decimal number as a quotient. -/
def Decimal.ratio (d : Decimal) : Nat × Nat :=
  if d.exponent ≥ 0 then (d.significand * tenTo d.exponent.toNat, 1)
  else (d.significand, tenTo (-d.exponent).toNat)

/-- The decimal number reads back as the finite number of this pattern. -/
def readsBack (bits : Nat) (d : Decimal) : Bool :=
  let (num, den) := d.ratio
  let (significand, power) := parts bits
  -- The middles to the neighbours, in quarters of the last bit.
  let low := if significand = hiddenBit && bits ≥ 2 * hiddenBit then 4 * significand - 1
    else 4 * significand - 2
  let high := 4 * significand + 2
  let (n, d) := scaled num den (power - 2)
  if significand % 2 = 0 then low * d ≤ n && n ≤ high * d
  else low * d < n && n < high * d

/-- The two neighbours of a quotient among the decimals with `count` digits, the
nearer one first, and on a tie the even one. -/
def neighbours (num den : Nat) (count : Nat) : List Decimal :=
  let exponent := places num den - count
  let (n, d) := if exponent ≥ 0 then (num, den * tenTo exponent.toNat)
    else (num * tenTo (-exponent).toNat, den)
  let below : Decimal := ⟨n / d, exponent⟩
  let above : Decimal := ⟨n / d + 1, exponent⟩
  let twice := 2 * (n % d)
  if twice < d || (twice == d && n / d % 2 == 0) then [below, above] else [above, below]

/-- The shortest decimal with at least `count` digits that reads back, looking
at no more than `fuel` numbers of digits. -/
def shortestFrom (bits count : Nat) : Nat → Decimal
  | 0 => ⟨0, 0⟩
  | fuel + 1 =>
    let (num, den) := ratio bits
    match (neighbours num den count).find? (readsBack bits) with
    | some d => d
    | none => shortestFrom bits (count + 1) fuel

/-- The shortest decimal that reads back as the finite number of this pattern,
and of those the nearest. Seventeen digits always suffice. -/
def shortest (bits : Nat) : Decimal :=
  if bits = 0 then ⟨0, 0⟩ else shortestFrom bits 1 17

/-- As many zeros. -/
def zeros (count : Nat) : List Char :=
  List.replicate count '0'

/-- The digits without the zeros at their end. -/
def withoutZeros (digits : List Char) : List Char :=
  (digits.reverse.dropWhile fun digit => digit == '0').reverse

/-- Digits with the point after `point` of them; a zero stands on each side of
the point that has no digit. -/
def positional (digits : List Char) (point : Int) : List Char :=
  if point ≤ 0 then '0' :: '.' :: zeros (-point).toNat ++ digits
  else if digits.length ≤ point.toNat then
    digits ++ zeros (point.toNat - digits.length) ++ ['.', '0']
  else digits.take point.toNat ++ '.' :: digits.drop point.toNat

/-- Digits with the point after the first one, and a power of ten of at least
two digits. -/
def scientific (digits : List Char) (power : Int) : List Char :=
  let fraction := match digits.drop 1 with
    | [] => []
    | more => '.' :: more
  let size := (toString power.natAbs).toList
  digits.take 1 ++ fraction ++ ['e', if power < 0 then '-' else '+'] ++
    zeros (2 - size.length) ++ size

/-- The text of the finite number of this pattern without its sign. -/
def magnitudeText (bits : Nat) : List Char :=
  if bits = 0 then ['0', '.', '0']
  else
    let d := shortest bits
    let digits := (toString d.significand).toList
    let point := d.exponent + digits.length
    let digits := withoutZeros digits
    if -4 < point && point ≤ 16 then positional digits point
    else scientific digits (point - 1)

/-- The shortest text that reads back as the number. -/
def text : Binary64 → String
  | .nan => "nan"
  | .infinite false => "inf"
  | .infinite true => "-inf"
  | .finite negative bits =>
    String.ofList (if negative then '-' :: magnitudeText bits else magnitudeText bits)

end Binary64

end Meteogram.Number
