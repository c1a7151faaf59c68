import Mathlib.Algebra.Order.Field.Power
import Mathlib.Data.Rat.Cast.Order
import Mathlib.Tactic.FieldSimp
import Mathlib.Tactic.Linarith
import Mathlib.Tactic.Positivity
import Mathlib.Tactic.Ring
import Meteogram.Number.Shortest
import Meteogram.Proofs.Number.OneDecimal

/-!
# The nearest number

A rational is near to a pattern if it lies between the middles to the neighbours of the pattern,
and on a middle only if the pattern is even (`IsNear`). Such a quotient is rounded to the pattern
(`ofRatio_of_isNear`), and so is such a decimal number (`ofDecimal_of_isNear`).
-/

set_option autoImplicit false

namespace Meteogram.Number.Binary64

/-! ## Quotients as rationals -/

/-- Numerator and denominator as a rational. -/
def quotient (pair : Nat × Nat) : ℚ := (pair.1 : ℚ) / pair.2

theorem cast_twoTo (exponent : Nat) : ((twoTo exponent : Nat) : ℚ) = 2 ^ (exponent : ℤ) := by
  rw [twoTo_eq, zpow_natCast, Nat.cast_pow, Nat.cast_ofNat]

theorem cast_tenTo (exponent : Nat) : ((tenTo exponent : Nat) : ℚ) = 10 ^ (exponent : ℤ) := by
  rw [zpow_natCast]
  exact Nat.cast_pow 10 exponent

/-- A quotient over a power of a base, the power being a factor of its denominator or, if it is
negative, of its numerator. -/
theorem quotient_over {base : Nat} (notZero : base ≠ 0) (num den : Nat) (power : Int) :
    quotient (if power ≥ 0 then (num, den * base ^ power.toNat)
      else (num * base ^ (-power).toNat, den)) = quotient (num, den) / base ^ power := by
  have base' : (base : ℚ) ≠ 0 := Nat.cast_ne_zero.2 notZero
  split
  · next up =>
    obtain ⟨exponent, rfl⟩ := Int.eq_ofNat_of_zero_le up
    rw [quotient, quotient, Int.toNat_natCast, Nat.cast_mul, Nat.cast_pow, zpow_natCast, div_div]
  · next down =>
    obtain ⟨exponent, opposite⟩ := Int.eq_ofNat_of_zero_le (by omega : 0 ≤ -power)
    obtain rfl : power = -(exponent : ℤ) := by omega
    rw [quotient, quotient, neg_neg, Int.toNat_natCast, Nat.cast_mul, Nat.cast_pow, zpow_neg,
      zpow_natCast, div_inv_eq_mul, mul_div_right_comm]

/-- A multiple of a power of a base as a quotient. -/
theorem quotient_times (base n : Nat) (power : Int) :
    quotient (if power ≥ 0 then (n * base ^ power.toNat, 1) else (n, base ^ (-power).toNat)) =
      n * base ^ power := by
  split
  · next up =>
    obtain ⟨exponent, rfl⟩ := Int.eq_ofNat_of_zero_le up
    rw [quotient, Int.toNat_natCast, Nat.cast_mul, Nat.cast_pow, zpow_natCast, Nat.cast_one, div_one]
  · next down =>
    obtain ⟨exponent, opposite⟩ := Int.eq_ofNat_of_zero_le (by omega : 0 ≤ -power)
    obtain rfl : power = -(exponent : ℤ) := by omega
    rw [quotient, neg_neg, Int.toNat_natCast, Nat.cast_pow, zpow_neg, zpow_natCast, div_eq_mul_inv]

theorem quotient_scaled (num den : Nat) (power : Int) :
    quotient (scaled num den power) = quotient (num, den) / 2 ^ power :=
  quotient_over two_ne_zero num den power

theorem scaled_positive {num den : Nat} (power : Int) (positive : 0 < den) :
    0 < (scaled num den power).2 := by
  rw [scaled]
  split
  · exact Nat.mul_pos positive (Nat.two_pow_pos _)
  · exact positive

theorem quotient_lt {pair : Nat × Nat} (positive : 0 < pair.2) (n : Nat) :
    quotient pair < n ↔ pair.1 / pair.2 < n := by
  rw [quotient, div_lt_iff₀ (Nat.cast_pos.2 positive), Nat.div_lt_iff_lt_mul positive, ← Nat.cast_mul,
    Nat.cast_lt]

theorem le_quotient {pair : Nat × Nat} (positive : 0 < pair.2) (n : Nat) :
    n ≤ quotient pair ↔ n ≤ pair.1 / pair.2 := by
  rw [← not_lt, ← not_lt, quotient_lt positive]

/-- The value of a decimal number. -/
def Decimal.value (d : Decimal) : ℚ := d.significand * 10 ^ d.exponent

theorem Decimal.quotient_ratio (d : Decimal) : quotient d.ratio = d.value :=
  quotient_times 10 d.significand d.exponent

theorem Decimal.ratio_positive (d : Decimal) : 0 < d.ratio.2 := by
  rw [ratio]
  split
  · exact Nat.one_pos
  · exact Nat.pow_pos (by decide)

/-! ## Patterns -/

/-- A pattern is made of a significand and a power of two: the least power, or one at which the
significand has all its bits. -/
structure HasParts (bits significand : Nat) (power : Int) : Prop where
  least : -1074 ≤ power
  whole : bits = (power + 1074).toNat * hiddenBit + significand
  small : significand < 2 * hiddenBit
  normal : power = -1074 ∨ hiddenBit ≤ significand

theorem hiddenBit_eq : hiddenBit = 4503599627370496 := rfl

theorem hasParts_parts (bits : Nat) : HasParts bits (parts bits).1 (parts bits).2 := by
  rw [parts, hiddenBit_eq]
  split
  · next small =>
    exact ⟨le_rfl, by simp, by rw [hiddenBit_eq]; omega, .inl rfl⟩
  · next large =>
    refine ⟨by omega, ?_, by rw [hiddenBit_eq]; omega, .inr (by rw [hiddenBit_eq]; omega)⟩
    rw [hiddenBit_eq]
    omega

theorem HasParts.lt_iff {bits significand : Nat} {power : Int}
    (has : HasParts bits significand power) : -1074 < power ↔ 2 * hiddenBit ≤ bits := by
  obtain ⟨least, whole, small, normal⟩ := has
  rw [hiddenBit_eq] at *
  omega

/-- The value of a pattern without its sign. -/
def magnitude (bits : Nat) : ℚ := (parts bits).1 * 2 ^ (parts bits).2

theorem quotient_ratio (bits : Nat) : quotient (ratio bits) = magnitude bits :=
  quotient_times 2 (parts bits).1 (parts bits).2

/-! ## Rounding to whole numbers -/

/-- Rounding takes a quotient to a whole number that is no further away than a half, and a half
away only if it is even. -/
theorem divideEven_eq {pair : Nat × Nat} (positive : 0 < pair.2) {n : Nat}
    (low : n - 1 / 2 ≤ quotient pair) (high : quotient pair ≤ n + 1 / 2)
    (odd : n % 2 = 1 → n - 1 / 2 < quotient pair ∧ quotient pair < n + 1 / 2) :
    divideEven pair.1 pair.2 = n := by
  obtain ⟨num, den⟩ := pair
  have positive' : (0 : ℚ) < den := Nat.cast_pos.2 positive
  -- The bounds on the quotient as bounds on its numerator.
  have low' : 2 * (n * den) ≤ 2 * num + den := by
    have bound := (le_div_iff₀ positive').1 low
    have : (2 * (n * den) : ℚ) ≤ 2 * num + den := by linarith
    exact_mod_cast this
  have high' : 2 * num ≤ 2 * (n * den) + den := by
    have bound := (div_le_iff₀ positive').1 high
    have : (2 * num : ℚ) ≤ 2 * (n * den) + den := by linarith
    exact_mod_cast this
  have odd' : n % 2 = 1 → 2 * (n * den) < 2 * num + den ∧ 2 * num < 2 * (n * den) + den := by
    intro isOdd
    obtain ⟨above, below⟩ := odd isOdd
    have above := (lt_div_iff₀ positive').1 above
    have below := (div_lt_iff₀ positive').1 below
    have first : (2 * (n * den) : ℚ) < 2 * num + den := by linarith
    have second : (2 * num : ℚ) < 2 * (n * den) + den := by linarith
    exact ⟨by exact_mod_cast first, by exact_mod_cast second⟩
  have division := Nat.div_add_mod num den
  have remainder := Nat.mod_lt num positive
  rw [divideEven]
  dsimp only at positive ⊢
  generalize num / den = q at division ⊢
  generalize num % den = r at division remainder ⊢
  have cases : n = q ∨ n = q + 1 := by
    have atLeast : q ≤ n := by
      by_contra less
      have := Nat.mul_le_mul_left den (Nat.lt_of_not_le less)
      rw [Nat.mul_succ, Nat.mul_comm den n] at this
      omega
    have atMost : n ≤ q + 1 := by
      by_contra more
      have := Nat.mul_le_mul_left den (Nat.lt_of_not_le more)
      rw [Nat.mul_succ, Nat.mul_succ, Nat.mul_comm den n] at this
      omega
    omega
  have product := Nat.mul_comm den q
  have successor := Nat.add_one_mul q den
  rcases cases with rfl | rfl
  · split_ifs <;> omega
  · split_ifs <;> omega

/-! ## The last bit -/

theorem hiddenBit_cast : (hiddenBit : ℚ) = 2 ^ (52 : ℤ) := by
  rw [hiddenBit, cast_twoTo]
  norm_cast

theorem hiddenBit_mul (power : Int) : (hiddenBit : ℚ) * 2 ^ power = 2 ^ (power + 52) := by
  rw [hiddenBit_cast, add_comm power, zpow_add₀ (by norm_num)]

/-- Two and a half powers of two around a quotient. -/
theorem quotient_bounds {num den : Nat} (notZero : num ≠ 0) (positive : 0 < den) :
    2 ^ ((num.log2 : Int) - den.log2 - 1) < quotient (num, den) ∧
      quotient (num, den) < 2 ^ ((num.log2 : Int) - den.log2 + 1) := by
  have numLow : (2 ^ (num.log2 : ℤ) : ℚ) ≤ num := by
    exact_mod_cast Nat.log2_self_le notZero
  have numHigh : (num : ℚ) < 2 ^ ((num.log2 : ℤ) + 1) := by
    exact_mod_cast Nat.lt_log2_self (n := num)
  have denLow : (2 ^ (den.log2 : ℤ) : ℚ) ≤ den := by
    exact_mod_cast Nat.log2_self_le (Nat.pos_iff_ne_zero.1 positive)
  have denHigh : (den : ℚ) < 2 ^ ((den.log2 : ℤ) + 1) := by
    exact_mod_cast Nat.lt_log2_self (n := den)
  have positive' : (0 : ℚ) < den := Nat.cast_pos.2 positive
  have two : (2 : ℚ) ≠ 0 := by norm_num
  constructor
  · rw [quotient, lt_div_iff₀ positive']
    calc (2 : ℚ) ^ ((num.log2 : ℤ) - den.log2 - 1) * den
        < 2 ^ ((num.log2 : ℤ) - den.log2 - 1) * 2 ^ ((den.log2 : ℤ) + 1) :=
          mul_lt_mul_of_pos_left denHigh (zpow_pos (by norm_num) _)
      _ = 2 ^ (num.log2 : ℤ) := by rw [← zpow_add₀ two]; congr 1; ring
      _ ≤ num := numLow
  · rw [quotient, div_lt_iff₀ positive']
    calc (num : ℚ) < 2 ^ ((num.log2 : ℤ) + 1) := numHigh
      _ = 2 ^ ((num.log2 : ℤ) - den.log2 + 1) * 2 ^ (den.log2 : ℤ) := by
          rw [← zpow_add₀ two]; congr 1; ring
      _ ≤ 2 ^ ((num.log2 : ℤ) - den.log2 + 1) * den :=
          mul_le_mul_of_nonneg_left denLow (zpow_nonneg (by norm_num) _)

/-- A rational whose last bit has this power of two: the least power, or one at which the bits
before the last one reach far enough. -/
structure HasLastPlace (value : ℚ) (power : Int) : Prop where
  least : -1074 ≤ power
  below : value < 2 ^ (power + 53)
  normal : power = -1074 ∨ 2 ^ (power + 52) ≤ value

theorem hasLastPlace_unique {value : ℚ} {power power' : Int} (first : HasLastPlace value power)
    (second : HasLastPlace value power') : power = power' := by
  have notLess : ∀ {power power' : Int}, HasLastPlace value power → HasLastPlace value power' →
      ¬ power < power' := by
    intro power power' first second less
    have least := first.least
    have bound := second.normal.resolve_left (by omega)
    have order : (2 : ℚ) ^ (power + 53) ≤ 2 ^ (power' + 52) :=
      zpow_le_zpow_right₀ (by norm_num) (by omega)
    exact absurd first.below (not_lt.2 (order.trans bound))
  have := notLess first second
  have := notLess second first
  omega

theorem hasLastPlace_lastPlace {num den : Nat} (notZero : num ≠ 0) (positive : 0 < den) :
    HasLastPlace (quotient (num, den)) (lastPlace num den) := by
  obtain ⟨low, high⟩ := quotient_bounds notZero positive
  rw [lastPlace]
  generalize same : max ((num.log2 : Int) - den.log2 - 52) (-1074) = guess
  have power : (0 : ℚ) < 2 ^ guess := zpow_pos (by norm_num) _
  have small : ∀ n : Nat, quotient (num, den) < n * 2 ^ guess ↔
      (scaled num den guess).1 / (scaled num den guess).2 < n := by
    intro n
    rw [← quotient_lt (scaled_positive guess positive), quotient_scaled, div_lt_iff₀ power]
  have top : ((2 * hiddenBit : Nat) : ℚ) * 2 ^ guess = 2 ^ (guess + 53) := by
    rw [Nat.cast_mul, mul_assoc, hiddenBit_mul, Nat.cast_ofNat, ← zpow_one_add₀ (by norm_num)]
    congr 1
    ring
  dsimp only
  split
  · next above =>
    -- The guess is never too low: the quotient has at most 53 bits before this place.
    have order : (2 : ℚ) ^ ((num.log2 : ℤ) - den.log2 + 1) ≤ 2 ^ (guess + 53) :=
      zpow_le_zpow_right₀ (by norm_num) (by omega)
    have := (small _).1 ((high.trans_le order).trans_eq top.symm)
    omega
  · next notAbove =>
    have below := (small _).2 (Nat.lt_of_not_le notAbove)
    rw [top] at below
    split
    · next under =>
      rw [Bool.and_eq_true, decide_eq_true_eq, decide_eq_true_eq] at under
      have less := (small _).2 under.1
      rw [hiddenBit_mul] at less
      have exponent : guess = num.log2 - den.log2 - 52 := by omega
      refine ⟨by omega, less.trans_eq (by congr 1; ring), .inr (le_of_lt ?_)⟩
      rw [exponent]
      exact lt_of_eq_of_lt (by congr 1; ring) low
    · next notUnder =>
      refine ⟨by omega, below, ?_⟩
      by_cases least : guess = -1074
      · exact .inl least
      · refine .inr (not_lt.1 fun less => notUnder ?_)
        rw [← hiddenBit_mul, small] at less
        rw [Bool.and_eq_true, decide_eq_true_eq, decide_eq_true_eq]
        exact ⟨less, by omega⟩

/-! ## Numbers near to a pattern -/

/-- How far the numbers that are rounded up reach below a pattern, in units of its last bit: a half
of one, and a quarter where the numbers below have a smaller last bit. -/
def reach (bits : Nat) : ℚ :=
  if (parts bits).1 = hiddenBit ∧ -1074 < (parts bits).2 then 1 / 4 else 1 / 2

/-- The number of last bits in a rational, the last bit being that of the pattern. -/
def inUnits (bits : Nat) (value : ℚ) : ℚ := value / 2 ^ (parts bits).2

/-- The rational lies between the middles to the neighbours of the pattern, and on a middle only
if the pattern is even. -/
structure IsNear (bits : Nat) (value : ℚ) : Prop where
  low : (parts bits).1 - reach bits ≤ inUnits bits value
  high : inUnits bits value ≤ (parts bits).1 + 1 / 2
  odd : (parts bits).1 % 2 = 1 → (parts bits).1 - reach bits < inUnits bits value ∧
    inUnits bits value < (parts bits).1 + 1 / 2

section

variable {bits : Nat} {value : ℚ}

theorem significand_positive (notZero : bits ≠ 0) : 0 < (parts bits).1 := by
  obtain ⟨least, whole, small, normal⟩ := hasParts_parts bits
  rw [hiddenBit_eq] at *
  omega

theorem reach_le (bits : Nat) : reach bits ≤ 1 / 2 := by
  rw [reach]
  split <;> norm_num

theorem IsNear.positive (near : IsNear bits value) (notZero : bits ≠ 0) :
    (1 / 2 : ℚ) ≤ inUnits bits value := by
  have one : (1 : ℚ) ≤ (parts bits).1 := by exact_mod_cast significand_positive notZero
  have := near.low
  have := reach_le bits
  linarith

/-- What is near to a pattern has no more bits before the last one than numbers have. -/
theorem IsNear.below (near : IsNear bits value) : value < 2 ^ ((parts bits).2 + 53) := by
  have unit : (0 : ℚ) < 2 ^ (parts bits).2 := zpow_pos (by norm_num) _
  have small : ((parts bits).1 : ℚ) + 1 ≤ 2 ^ (53 : ℤ) := by
    have := (hasParts_parts bits).small
    rw [hiddenBit_eq] at this
    exact_mod_cast (by omega : (parts bits).1 + 1 ≤ 2 ^ 53)
  have high := near.high
  rw [add_comm, zpow_add₀ (by norm_num), ← div_lt_iff₀ unit, ← inUnits]
  linarith

/-- A pattern with something near to it that has a smaller last bit is the least of its power. -/
theorem IsNear.isLeast (near : IsNear bits value) (notLeast : (parts bits).2 ≠ -1074)
    (less : inUnits bits value < hiddenBit) : (parts bits).1 = hiddenBit := by
  have atLeast := (hasParts_parts bits).normal.resolve_left notLeast
  have low := near.low
  have := reach_le bits
  have : ((parts bits).1 : ℚ) < (hiddenBit + 1 : Nat) := by
    rw [Nat.cast_add, Nat.cast_one]
    linarith
  have := Nat.cast_lt.1 this
  omega

/-- The last bit of what is near to a pattern is that of the pattern, or, where the numbers below
have a smaller last bit, the one before it. -/
theorem IsNear.exists_lastPlace (near : IsNear bits value) :
    ∃ (power : Int) (significand : Nat), HasLastPlace value power ∧
      bits = (power + 1074).toNat * hiddenBit + significand ∧
      significand - 1 / 2 ≤ value / 2 ^ power ∧ value / 2 ^ power ≤ significand + 1 / 2 ∧
      (significand % 2 = 1 →
        significand - 1 / 2 < value / 2 ^ power ∧ value / 2 ^ power < significand + 1 / 2) := by
  obtain ⟨least, whole, small, -⟩ := hasParts_parts bits
  have reaches := reach_le bits
  have below := near.below
  have isLeast := near.isLeast
  obtain ⟨low, high, odd⟩ := near
  rw [reach] at low odd reaches
  rw [inUnits] at low high odd isLeast
  generalize (parts bits).1 = significand at *
  generalize (parts bits).2 = power at *
  have unit : (0 : ℚ) < 2 ^ power := zpow_pos (by norm_num) _
  by_cases normal : power = -1074 ∨ 2 ^ (power + 52) ≤ value
  · refine ⟨power, significand, ⟨least, below, normal⟩, whole, by linarith, high, fun isOdd => ?_⟩
    obtain ⟨above, under⟩ := odd isOdd
    exact ⟨by linarith, under⟩
  · rw [not_or, not_le] at normal
    obtain ⟨notLeast, less⟩ := normal
    have under : value / 2 ^ power < hiddenBit := by
      rw [div_lt_iff₀ unit, hiddenBit_mul]
      exact less
    rw [isLeast notLeast under] at low whole
    rw [if_pos ⟨rfl, by omega⟩] at low
    have double : value / 2 ^ (power - 1) = 2 * (value / 2 ^ power) := by
      rw [zpow_sub_one₀ (by norm_num)]
      field_simp
    have twice : ((2 * hiddenBit : Nat) : ℚ) = 2 * hiddenBit := by rw [Nat.cast_mul, Nat.cast_ofNat]
    refine ⟨power - 1, 2 * hiddenBit, ⟨by omega, less.trans_eq (by congr 1; ring), .inr ?_⟩, ?_,
      by linarith, by linarith, fun isOdd => ?_⟩
    · rw [← hiddenBit_mul, ← le_div_iff₀ (zpow_pos (by norm_num) _)]
      have : (1 : ℚ) ≤ hiddenBit := by exact_mod_cast (by decide : 1 ≤ hiddenBit)
      linarith
    · have before : (power - 1 + 1074).toNat + 1 = (power + 1074).toNat := by omega
      rw [whole, ← before, Nat.add_one_mul, Nat.two_mul, Nat.add_assoc]
    · rw [Nat.mul_mod_right] at isOdd
      cases isOdd

/-- What is near to a pattern is rounded to it. -/
theorem ofRatio_of_isNear {num den : Nat} (negative : Bool) (positive : 0 < den) (notZero : bits ≠ 0)
    (finite : bits < infiniteBits) (near : IsNear bits (quotient (num, den))) :
    ofRatio negative num den = .finite negative bits := by
  have notZero' : num ≠ 0 := by
    rintro rfl
    have := near.positive notZero
    rw [inUnits, quotient, Nat.cast_zero, zero_div, zero_div] at this
    norm_num at this
  obtain ⟨power, significand, hasLastPlace, whole, low, high, odd⟩ := near.exists_lastPlace
  have isPower := hasLastPlace_unique (hasLastPlace_lastPlace notZero' positive) hasLastPlace
  have rounded : divideEven (scaled num den power).1 (scaled num den power).2 = significand := by
    rw [← quotient_scaled] at low high odd
    exact divideEven_eq (scaled_positive power positive) low high odd
  rw [ofRatio, isPower]
  dsimp only
  rw [rounded, ← whole, ofBits, if_neg (Nat.not_le_of_lt finite)]

/-- Finite numbers, and all that is near to them, are less than a power of two. -/
theorem IsNear.lt_top (near : IsNear bits value) (finite : bits < infiniteBits) :
    value < 2 ^ (1024 : ℤ) := by
  obtain ⟨least, whole, small, normal⟩ := hasParts_parts bits
  have infinite : infiniteBits = 9218868437227405312 := rfl
  rw [infinite] at finite
  rw [hiddenBit_eq] at whole small normal
  have exponent : (parts bits).2 ≤ 971 := by omega
  exact near.below.trans_le (zpow_le_zpow_right₀ (by norm_num) (by omega))

/-- What is near to a number is at least half of the least one. -/
theorem IsNear.bottom_le (near : IsNear bits value) (notZero : bits ≠ 0) :
    2 ^ (-1075 : ℤ) ≤ value := by
  have half := near.positive notZero
  have least := (hasParts_parts bits).least
  rw [inUnits, le_div_iff₀ (zpow_pos (by norm_num) _)] at half
  calc (2 : ℚ) ^ (-1075 : ℤ) ≤ 2 ^ ((parts bits).2 - 1) :=
        zpow_le_zpow_right₀ (by norm_num) (by omega)
    _ = 1 / 2 * 2 ^ (parts bits).2 := by rw [zpow_sub_one₀ (by norm_num), mul_comm, one_div]
    _ ≤ value := half

theorem IsNear.significand_ne_zero {d : Decimal} (near : IsNear bits d.value) (notZero : bits ≠ 0) :
    d.significand ≠ 0 := by
  intro none
  have bottom := near.bottom_le notZero
  rw [Decimal.value, none, Nat.cast_zero, zero_mul] at bottom
  exact absurd bottom (not_le.2 (zpow_pos (by norm_num) _))

/-- The number of digits tells between which powers of ten a number is. -/
theorem length_toDigits_bounds {n : Nat} (notZero : n ≠ 0) :
    10 ^ ((Nat.toDigits 10 n).length - 1) ≤ n ∧ n < 10 ^ (Nat.toDigits 10 n).length := by
  have some : 0 < (Nat.toDigits 10 n).length := List.length_pos_of_ne_nil Nat.toDigits_ne_nil
  refine ⟨?_, (Nat.length_toDigits_le_iff (by decide) some).1 le_rfl⟩
  by_contra less
  rw [not_le] at less
  by_cases one : (Nat.toDigits 10 n).length = 1
  · rw [one] at less
    omega
  · have := (Nat.length_toDigits_le_iff (by decide) (by omega)).2 less
    omega

/-- A decimal number between powers of ten. -/
theorem Decimal.value_bounds {d : Decimal} (notZero : d.significand ≠ 0) :
    10 ^ (d.exponent + (Nat.toDigits 10 d.significand).length - 1) ≤ d.value ∧
      d.value < 10 ^ (d.exponent + (Nat.toDigits 10 d.significand).length) := by
  have ten : (10 : ℚ) ≠ 0 := by norm_num
  have power : (0 : ℚ) < 10 ^ d.exponent := zpow_pos (by norm_num) _
  obtain ⟨low, high⟩ := length_toDigits_bounds notZero
  have some : 0 < (Nat.toDigits 10 d.significand).length :=
    List.length_pos_of_ne_nil Nat.toDigits_ne_nil
  generalize (Nat.toDigits 10 d.significand).length = size at some low high ⊢
  have high' : (d.significand : ℚ) < 10 ^ (size : ℤ) := by exact_mod_cast high
  have low' : (10 : ℚ) ^ ((size : ℤ) - 1) ≤ d.significand := by
    have same : (size : ℤ) - 1 = ((size - 1 : Nat) : ℤ) := by omega
    rw [same]
    exact_mod_cast low
  rw [value]
  constructor
  · rw [add_sub_assoc, add_comm, zpow_add₀ ten]
    exact mul_le_mul_of_nonneg_right low' power.le
  · rw [add_comm, zpow_add₀ ten]
    exact mul_lt_mul_of_pos_right high' power

/-- The powers of ten that are settled without forming them lie beyond all numbers. -/
theorem powers_apart : 2 ^ 1024 < 10 ^ 310 ∧ 2 ^ 1075 < 10 ^ 330 := by decide +kernel

/-- A decimal number that is near to a pattern is rounded to it. -/
theorem ofDecimal_of_isNear {d : Decimal} (negative : Bool) (notZero : bits ≠ 0)
    (finite : bits < infiniteBits) (near : IsNear bits d.value) :
    ofDecimal negative d.significand d.exponent = .finite negative bits := by
  have top := near.lt_top finite
  have bottom := near.bottom_le notZero
  have some := near.significand_ne_zero notZero
  obtain ⟨low, high⟩ := Decimal.value_bounds some
  rw [ofDecimal, if_neg some]
  dsimp only
  generalize d.exponent + ((Nat.toDigits 10 d.significand).length : ℤ) = size at low high ⊢
  rw [if_neg, if_neg]
  · have ratio := d.quotient_ratio
    rw [Decimal.ratio] at ratio
    split
    · next up =>
      rw [if_pos up] at ratio
      exact ofRatio_of_isNear negative Nat.one_pos notZero finite (ratio ▸ near)
    · next down =>
      rw [if_neg down] at ratio
      exact ofRatio_of_isNear negative (Nat.pow_pos (by decide)) notZero finite (ratio ▸ near)
  · intro small
    have order : (10 : ℚ) ^ size ≤ 10 ^ (-330 : ℤ) := zpow_le_zpow_right₀ (by norm_num) small.le
    have : (10 : ℚ) ^ (-330 : ℤ) < 2 ^ (-1075 : ℤ) := by
      rw [zpow_neg, zpow_neg]
      exact inv_strictAnti₀ (zpow_pos (by norm_num) _) (by exact_mod_cast powers_apart.2)
    exact absurd high (not_lt.2 ((order.trans this.le).trans bottom))
  · intro large
    have order : (10 : ℚ) ^ (310 : ℤ) ≤ 10 ^ (size - 1) :=
      zpow_le_zpow_right₀ (by norm_num) (by omega)
    have : (2 : ℚ) ^ (1024 : ℤ) < 10 ^ (310 : ℤ) := by exact_mod_cast powers_apart.1
    exact absurd top (not_lt.2 ((this.le.trans order).trans low))

end

end Meteogram.Number.Binary64
