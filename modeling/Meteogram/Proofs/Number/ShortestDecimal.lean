import Meteogram.Proofs.Number.Nearest

/-!
# The shortest decimal is near

A decimal number reads back as a pattern exactly if it is near to it (`readsBack_iff`). Among the
decimals with seventeen digits there is such a number, so that the search for the shortest one ends
with one (`isNear_shortest`).
-/

set_option autoImplicit false

namespace Meteogram.Number.Binary64

variable {bits : Nat}

/-! ## What reads back -/

section

variable {pair : Nat × Nat} (positive : 0 < pair.2) {n : Nat} {bound units : ℚ}
  (isBound : (n : ℚ) = 4 * bound) (inQuarters : quotient pair = 4 * units)

include positive isBound inQuarters

theorem mul_le_iff : n * pair.2 ≤ pair.1 ↔ bound ≤ units := by
  rw [← mul_le_mul_iff_right₀ (by norm_num : (0 : ℚ) < 4), ← isBound, ← inQuarters, quotient,
    le_div_iff₀ (Nat.cast_pos.2 positive), ← Nat.cast_mul, Nat.cast_le]

theorem le_mul_iff : pair.1 ≤ n * pair.2 ↔ units ≤ bound := by
  rw [← mul_le_mul_iff_right₀ (by norm_num : (0 : ℚ) < 4), ← isBound, ← inQuarters, quotient,
    div_le_iff₀ (Nat.cast_pos.2 positive), ← Nat.cast_mul, Nat.cast_le]

end

theorem quotient_quarters (bits : Nat) (d : Decimal) :
    quotient (scaled d.ratio.1 d.ratio.2 ((parts bits).2 - 2)) = 4 * inUnits bits d.value := by
  rw [quotient_scaled, d.quotient_ratio, inUnits, zpow_sub₀ (by norm_num)]
  field_simp
  norm_num

theorem cast_quarters_reach (notZero : bits ≠ 0) :
    ((if decide ((parts bits).1 = hiddenBit) && decide (bits ≥ 2 * hiddenBit)
      then 4 * (parts bits).1 - 1 else 4 * (parts bits).1 - 2 : Nat) : ℚ) =
      4 * ((parts bits).1 - reach bits) := by
  have some := significand_positive notZero
  simp only [reach, (hasParts_parts bits).lt_iff, Bool.and_eq_true, decide_eq_true_eq, ge_iff_le]
  split
  · rw [Nat.cast_sub (by omega)]
    push_cast
    ring
  · rw [Nat.cast_sub (by omega)]
    push_cast
    ring

/-- A decimal number reads back as a pattern exactly if it is near to it. -/
theorem readsBack_iff (notZero : bits ≠ 0) (d : Decimal) :
    readsBack bits d = true ↔ IsNear bits d.value := by
  have low := cast_quarters_reach notZero
  have high : ((4 * (parts bits).1 + 2 : Nat) : ℚ) = 4 * ((parts bits).1 + 1 / 2) := by
    push_cast
    ring
  have units := quotient_quarters bits d
  have positive : 0 < (scaled d.ratio.1 d.ratio.2 ((parts bits).2 - 2)).2 :=
    scaled_positive _ d.ratio_positive
  rw [readsBack]
  dsimp only
  generalize scaled d.ratio.1 d.ratio.2 ((parts bits).2 - 2) = pair at *
  split
  · next even =>
    rw [Bool.and_eq_true, decide_eq_true_eq, decide_eq_true_eq, mul_le_iff positive low units,
      le_mul_iff positive high units]
    constructor
    · rintro ⟨low, high⟩
      exact ⟨low, high, fun odd => by omega⟩
    · intro near
      exact ⟨near.low, near.high⟩
  · next odd =>
    rw [Bool.and_eq_true, decide_eq_true_eq, decide_eq_true_eq, ← not_le, ← not_le,
      le_mul_iff positive low units, mul_le_iff positive high units, not_le, not_le]
    constructor
    · rintro ⟨low, high⟩
      exact ⟨low.le, high.le, fun _ => ⟨low, high⟩⟩
    · intro near
      exact near.odd (by omega)

/-! ## Places -/

theorem digitCount_bounds {n : Nat} (notZero : n ≠ 0) :
    0 < digitCount n ∧ 10 ^ (digitCount n - 1) ≤ n ∧ n < 10 ^ digitCount n := by
  rw [digitCount, if_neg notZero]
  exact ⟨List.length_pos_of_ne_nil Nat.toDigits_ne_nil, length_toDigits_bounds notZero⟩

/-- A quotient lies between the powers of ten of its places. -/
theorem places_bounds {num den : Nat} (notZero : num ≠ 0) (positive : 0 < den) :
    10 ^ (places num den - 1) ≤ quotient (num, den) ∧
      quotient (num, den) < 10 ^ places num den := by
  rw [places]
  split
  · next large =>
    have whole : num / den ≠ 0 := (Nat.div_pos large positive).ne'
    obtain ⟨some, low, high⟩ := digitCount_bounds whole
    have exponent : (digitCount (num / den) : ℤ) - 1 = ((digitCount (num / den) - 1 : Nat) : ℤ) := by
      omega
    rw [exponent, ← cast_tenTo, ← cast_tenTo, le_quotient positive, quotient_lt positive]
    exact ⟨low, high⟩
  · next small =>
    -- The zeros behind the point are the digits of the opposite quotient.
    have opposite : (den - 1) / num ≠ 0 := (Nat.div_pos (by omega) (by omega)).ne'
    obtain ⟨some, low, high⟩ := digitCount_bounds opposite
    generalize digitCount ((den - 1) / num) = count at some low high ⊢
    rw [Nat.le_div_iff_mul_le (by omega)] at low
    rw [Nat.div_lt_iff_lt_mul (by omega)] at high
    have low' : (10 : ℚ) ^ ((count - 1 : Nat) : ℤ) * num < den := by
      rw [zpow_natCast]
      exact_mod_cast (by omega : 10 ^ (count - 1) * num < den)
    have high' : (den : ℚ) ≤ 10 ^ (count : ℤ) * num := by
      rw [zpow_natCast]
      exact_mod_cast (by omega : den ≤ 10 ^ count * num)
    have positive' : (0 : ℚ) < den := Nat.cast_pos.2 positive
    have exponent : (1 : ℤ) - count - 1 = -count := by ring
    have exponent' : (1 : ℤ) - count = -((count - 1 : Nat) : ℤ) := by omega
    rw [quotient, exponent, exponent', zpow_neg, zpow_neg, le_div_iff₀ positive',
      div_lt_iff₀ positive', inv_mul_le_iff₀ (zpow_pos (by norm_num) _),
      lt_inv_mul_iff₀ (zpow_pos (by norm_num) _)]
    exact ⟨high', low'⟩

/-! ## Neighbours -/

/-- A quotient is no further than a half from its whole part or from the number above it. -/
theorem abs_sub_quotient_le {pair : Nat × Nat} (positive : 0 < pair.2) :
    |((if 2 * (pair.1 % pair.2) ≤ pair.2 then pair.1 / pair.2 else pair.1 / pair.2 + 1 : Nat) : ℚ) -
      quotient pair| ≤ 1 / 2 := by
  have positive' : (0 : ℚ) < pair.2 := Nat.cast_pos.2 positive
  have exact : quotient pair =
      ((pair.1 / pair.2 : Nat) : ℚ) + ((pair.1 % pair.2 : Nat) : ℚ) / pair.2 := by
    have division : (pair.1 : ℚ) = pair.2 * (pair.1 / pair.2 : Nat) + (pair.1 % pair.2 : Nat) := by
      exact_mod_cast (Nat.div_add_mod pair.1 pair.2).symm
    rw [quotient, division]
    field_simp
  have remainder : ((pair.1 % pair.2 : Nat) : ℚ) / pair.2 < 1 := by
    rw [div_lt_one positive']
    exact_mod_cast Nat.mod_lt pair.1 positive
  have notNegative : (0 : ℚ) ≤ ((pair.1 % pair.2 : Nat) : ℚ) / pair.2 := by positivity
  rw [exact, abs_le]
  split
  · next half =>
    have small : ((pair.1 % pair.2 : Nat) : ℚ) / pair.2 ≤ 1 / 2 := by
      rw [div_le_iff₀ positive']
      have : (2 * (pair.1 % pair.2 : Nat) : ℚ) ≤ pair.2 := by exact_mod_cast half
      linarith
    exact ⟨by linarith, by linarith⟩
  · next notHalf =>
    have large : 1 / 2 ≤ ((pair.1 % pair.2 : Nat) : ℚ) / pair.2 := by
      rw [le_div_iff₀ positive']
      have : (pair.2 : ℚ) ≤ 2 * (pair.1 % pair.2 : Nat) := by
        exact_mod_cast (Nat.lt_of_not_le notHalf).le
      linarith
    push_cast
    exact ⟨by linarith, by linarith⟩

/-- One of the neighbours of a quotient is no further away than half a unit of the last digit. -/
theorem exists_neighbour {num den : Nat} (positive : 0 < den) (count : Nat) :
    ∃ d ∈ neighbours num den count,
      |d.value - quotient (num, den)| ≤ 10 ^ (places num den - count) / 2 := by
  rw [neighbours]
  generalize places num den - count = exponent
  have unit : (0 : ℚ) < 10 ^ exponent := zpow_pos (by norm_num) _
  obtain ⟨pair, same, positive', scale⟩ : ∃ pair : Nat × Nat,
      (if exponent ≥ 0 then (num, den * tenTo exponent.toNat)
        else (num * tenTo (-exponent).toNat, den)) = pair ∧ 0 < pair.2 ∧
      quotient pair = quotient (num, den) / 10 ^ exponent := by
    refine ⟨_, rfl, ?_, quotient_over (by decide) num den exponent⟩
    split
    · exact Nat.mul_pos positive (Nat.pow_pos (by decide))
    · exact positive
  rw [same]
  dsimp only
  refine ⟨⟨if 2 * (pair.1 % pair.2) ≤ pair.2 then pair.1 / pair.2 else pair.1 / pair.2 + 1,
    exponent⟩, by split <;> split <;> simp, ?_⟩
  have close := abs_sub_quotient_le positive'
  rw [eq_div_iff unit.ne'] at scale
  rw [Decimal.value, ← scale, ← sub_mul, abs_mul, abs_of_pos unit]
  linarith [mul_le_mul_of_nonneg_right close unit.le]

/-- Seventeen digits tell a number from its neighbours. -/
theorem isNear_of_close {value : ℚ} {size : Int} (low : 10 ^ (size - 1) ≤ magnitude bits)
    (close : |value - magnitude bits| ≤ 10 ^ (size - 17) / 2) : IsNear bits value := by
  have small := (hasParts_parts bits).small
  have unit : (0 : ℚ) < 2 ^ (parts bits).2 := zpow_pos (by norm_num) _
  have tenth : (10 : ℚ) ^ (size - 17) = 10 ^ (size - 1) / 10 ^ 16 := by
    rw [eq_div_iff (by norm_num), ← zpow_natCast, ← zpow_add₀ (by norm_num)]
    congr 1
    push_cast
    ring
  have distance : |inUnits bits value - (parts bits).1| ≤ (parts bits).1 / (2 * 10 ^ 16) := by
    have units : inUnits bits value - (parts bits).1 =
        (value - magnitude bits) / 2 ^ (parts bits).2 := by
      rw [inUnits, magnitude]
      field_simp
    rw [units, abs_div, abs_of_pos unit, div_le_iff₀ unit]
    have : 10 ^ (size - 17) / 2 ≤ magnitude bits / (2 * 10 ^ 16) := by
      rw [tenth]
      linarith
    rw [magnitude] at this
    linarith
  have strict : |inUnits bits value - (parts bits).1| < reach bits := by
    refine distance.trans_lt ?_
    rw [div_lt_iff₀ (by norm_num), reach]
    split
    · next isLeast =>
      rw [isLeast.1, hiddenBit_eq]
      norm_num
    · rw [hiddenBit_eq] at small
      have : ((parts bits).1 : ℚ) < 2 * 4503599627370496 := by exact_mod_cast small
      linarith
  obtain ⟨below, above⟩ := abs_lt.1 strict
  have := reach_le bits
  exact ⟨by linarith, by linarith, fun _ => ⟨by linarith, by linarith⟩⟩

theorem readsBack_shortestFrom (notZero : bits ≠ 0) {fuel count : Nat} (total : count + fuel = 18)
    (some : 0 < fuel) : readsBack bits (shortestFrom bits count fuel) = true := by
  have positive : 0 < (ratio bits).2 := by
    rw [ratio]
    dsimp only
    split
    · exact Nat.one_pos
    · exact Nat.two_pow_pos _
  have notNone : (ratio bits).1 ≠ 0 := by
    intro none
    have isZero : magnitude bits = 0 := by
      rw [← quotient_ratio, quotient, none, Nat.cast_zero, zero_div]
    rw [magnitude, mul_eq_zero, Nat.cast_eq_zero] at isZero
    rcases isZero with zero | zero
    · exact (significand_positive notZero).ne' zero
    · exact zpow_ne_zero _ (by norm_num) zero
  induction fuel generalizing count with
  | zero => cases some
  | succ fuel ih =>
    rw [shortestFrom]
    dsimp only
    split
    · next d found => exact List.find?_some found
    · next missing =>
      by_cases last : fuel = 0
      · obtain rfl : count = 17 := by omega
        obtain ⟨d, member, close⟩ := exists_neighbour positive 17
        have low := (places_bounds notNone positive).1
        rw [Prod.mk.eta, quotient_ratio] at low close
        have near : IsNear bits d.value := isNear_of_close low close
        have missed := List.find?_eq_none.1 missing d member
        exact absurd ((readsBack_iff notZero d).2 near) missed
      · exact ih (by omega) (Nat.pos_of_ne_zero last)

/-- The shortest decimal of a number reads back. -/
theorem isNear_shortest (notZero : bits ≠ 0) : IsNear bits (shortest bits).value := by
  rw [← readsBack_iff notZero, shortest, if_neg notZero]
  exact readsBack_shortestFrom notZero rfl (by decide)

theorem significand_shortest_ne_zero (notZero : bits ≠ 0) : (shortest bits).significand ≠ 0 :=
  (isNear_shortest notZero).significand_ne_zero notZero

end Meteogram.Number.Binary64
