import Mathlib.Algebra.Group.Nat.Defs
import Meteogram.Number.Fixed

/-!
# Numbers with one decimal

A number can be given with one decimal if it is none at all, or if it is finite and has no more
than `maxTenthsDigits` digits as a number of tenths (`exists_oneDecimal_iff`). The rounded number
is finite if the number was (`oneDecimal_eq_ok`): so many digits are far from infinity.
-/

set_option autoImplicit false

namespace Meteogram.Number.Binary64

/-- The number is neither infinite nor none. -/
def IsFinite (number : Binary64) : Prop := ∃ negative bits, number = .finite negative bits

/-- A finite number has a pattern below that of infinity. -/
def IsWellFormed : Binary64 → Prop
  | .finite _ bits => bits < infiniteBits
  | _ => True

theorem isWellFormed_ofBits (negative : Bool) (bits : Nat) : (ofBits negative bits).IsWellFormed := by
  rw [ofBits]
  split
  · trivial
  · next below => exact Nat.lt_of_not_le below

theorem isWellFormed_ofDecimal (negative : Bool) (significand : Nat) (exponent : Int) :
    (ofDecimal negative significand exponent).IsWellFormed := by
  have zero : (finite negative 0).IsWellFormed := by
    rw [IsWellFormed, infiniteBits]
    decide
  rw [ofDecimal]
  split
  · exact zero
  · dsimp only
    split
    · trivial
    · split
      · exact zero
      · split
        · exact isWellFormed_ofBits _ _
        · exact isWellFormed_ofBits _ _

/-! ## The nearest number to a quotient -/

theorem twoTo_eq (exponent : Nat) : twoTo exponent = 2 ^ exponent := rfl

/-- The power of two of the last bit leaves a significand of about 53 bits. -/
theorem lastPlace_bounds (num den : Nat) :
    (num.log2 : Int) - den.log2 - 53 ≤ lastPlace num den ∧
      lastPlace num den ≤ max ((num.log2 : Int) - den.log2 - 52) (-1074) + 1 := by
  rw [lastPlace]
  dsimp only
  split
  · omega
  · split <;> omega

/-- A scaled quotient is smaller than a power of two if the quotient is. -/
theorem scaled_lt {num den : Nat} {power : Int} {bits : Nat} (positive : den ≠ 0)
    (small : (num.log2 : Int) + 1 - den.log2 - power ≤ bits) :
    (scaled num den power).1 / (scaled num den power).2 < 2 ^ bits := by
  have above : num < 2 ^ (num.log2 + 1) := Nat.lt_log2_self
  have below : 2 ^ den.log2 ≤ den := Nat.log2_self_le positive
  rw [scaled]
  split
  · next up =>
    obtain ⟨exponent, rfl⟩ := Int.eq_ofNat_of_zero_le up
    dsimp only [Int.toNat_natCast]
    rw [twoTo_eq, Nat.div_lt_iff_lt_mul (Nat.mul_pos (Nat.pos_of_ne_zero positive) (Nat.two_pow_pos _))]
    calc num < 2 ^ (num.log2 + 1) := above
      _ ≤ 2 ^ (bits + (den.log2 + exponent)) := Nat.pow_le_pow_right (by decide) (by omega)
      _ = 2 ^ bits * (2 ^ den.log2 * 2 ^ exponent) := by rw [Nat.pow_add, Nat.pow_add]
      _ ≤ 2 ^ bits * (den * 2 ^ exponent) :=
        Nat.mul_le_mul_left _ (Nat.mul_le_mul_right _ below)
  · next down =>
    obtain ⟨exponent, opposite⟩ := Int.eq_ofNat_of_zero_le (by omega : 0 ≤ -power)
    rw [opposite, Int.toNat_natCast, twoTo_eq, Nat.div_lt_iff_lt_mul (Nat.pos_of_ne_zero positive)]
    calc num * 2 ^ exponent < 2 ^ (num.log2 + 1) * 2 ^ exponent :=
          Nat.mul_lt_mul_of_pos_right above (Nat.two_pow_pos _)
      _ = 2 ^ (num.log2 + 1 + exponent) := (Nat.pow_add ..).symm
      _ ≤ 2 ^ (bits + den.log2) := Nat.pow_le_pow_right (by decide) (by omega)
      _ = 2 ^ bits * 2 ^ den.log2 := Nat.pow_add ..
      _ ≤ 2 ^ bits * den := Nat.mul_le_mul_left _ below

theorem divideEven_le (num den : Nat) : divideEven num den ≤ num / den + 1 := by
  rw [divideEven]
  split
  · exact Nat.le_succ _
  · split
    · exact Nat.le_refl _
    · split
      · exact Nat.le_succ _
      · exact Nat.le_refl _

/-- A quotient of a moderate size is nearest to a finite number. -/
theorem isFinite_ofRatio {num den : Nat} (negative : Bool) (positive : den ≠ 0)
    (moderate : num.log2 ≤ 100) : IsFinite (ofRatio negative num den) := by
  obtain ⟨least, most⟩ := lastPlace_bounds num den
  have quotient := scaled_lt positive (by omega : (num.log2 : Int) + 1 - den.log2 -
    lastPlace num den ≤ (54 : Nat))
  have rounded := divideEven_le (scaled num den (lastPlace num den)).1
    (scaled num den (lastPlace num den)).2
  have power : (lastPlace num den + 1074).toNat ≤ 1123 := by omega
  have bits : (lastPlace num den + 1074).toNat * hiddenBit +
      divideEven (scaled num den (lastPlace num den)).1 (scaled num den (lastPlace num den)).2 <
        infiniteBits := by
    have product := Nat.mul_le_mul_right hiddenBit power
    have hidden : hiddenBit = 4503599627370496 := rfl
    have infinite : infiniteBits = 9218868437227405312 := rfl
    rw [hidden] at product ⊢
    rw [infinite]
    omega
  rw [ofRatio]
  dsimp only
  rw [ofBits, if_neg (Nat.not_le_of_lt bits)]
  exact ⟨negative, _, rfl⟩

/-! ## Rounding to one decimal -/

/-- The number can be given with one decimal: it is none, or it is finite and has not too many
digits. -/
def IsRoundable : Binary64 → Prop
  | .nan => True
  | .infinite _ => False
  | .finite _ bits => digitCount (shortest bits).tenths ≤ maxTenthsDigits

theorem exists_oneDecimal_iff {number : Binary64} :
    (∃ rounded, number.oneDecimal = .ok rounded) ↔ number.IsRoundable := by
  cases number with
  | nan => exact ⟨fun _ => trivial, fun _ => ⟨_, rfl⟩⟩
  | infinite negative =>
    refine ⟨?_, fun none => none.elim⟩
    rintro ⟨_, found⟩
    cases found
  | finite negative bits =>
    rw [IsRoundable, oneDecimal]
    split
    · next long =>
      refine ⟨?_, fun short => absurd short (Nat.not_le_of_lt long)⟩
      rintro ⟨_, found⟩
      cases found
    · next short => exact ⟨fun _ => Nat.le_of_not_lt short, fun _ => ⟨_, rfl⟩⟩

theorem lt_of_digitCount {n count : Nat} (positive : 0 < count) (short : digitCount n ≤ count) :
    n < 10 ^ count := by
  rw [digitCount] at short
  split at short
  · next zero => exact zero ▸ Nat.pow_pos (by decide)
  · exact (Nat.length_toDigits_le_iff (by decide) positive).1 short

/-- A number of tenths with not too many digits is finite. -/
theorem isFinite_ofDecimal_tenths (negative : Bool) {tenths : Nat}
    (short : digitCount tenths ≤ maxTenthsDigits) : IsFinite (ofDecimal negative tenths (-1)) := by
  rw [ofDecimal]
  split
  · exact ⟨negative, 0, rfl⟩
  · next notZero =>
    have size : (Nat.toDigits 10 tenths).length ≤ 28 := by
      rwa [digitCount, if_neg notZero] at short
    have bound : tenths < 10 ^ 28 := lt_of_digitCount (by decide) short
    have moderate : tenths.log2 ≤ 100 := by
      have := (Nat.log2_lt notZero).2 (Nat.lt_trans bound (by decide : 10 ^ 28 < 2 ^ 94))
      omega
    dsimp only
    rw [if_neg (by omega)]
    split
    · exact ⟨negative, 0, rfl⟩
    · rw [if_neg (by decide)]
      exact isFinite_ofRatio negative (by decide) moderate

/-- A finite number stays finite, and what is no number stays none. -/
theorem oneDecimal_eq_ok {number rounded : Binary64} (found : number.oneDecimal = .ok rounded) :
    (number = .nan ∧ rounded = .nan) ∨ (number.IsFinite ∧ rounded.IsFinite) := by
  cases number with
  | nan => exact .inl ⟨rfl, (Except.ok.inj found).symm⟩
  | infinite negative => cases found
  | finite negative bits =>
    rw [oneDecimal] at found
    split at found
    · cases found
    · next short =>
      obtain rfl := Except.ok.inj found
      exact .inr ⟨⟨negative, bits, rfl⟩, isFinite_ofDecimal_tenths negative (Nat.le_of_not_lt short)⟩

theorem isWellFormed_of_oneDecimal {number rounded : Binary64}
    (found : number.oneDecimal = .ok rounded) : rounded.IsWellFormed := by
  cases number with
  | nan =>
    obtain rfl := Except.ok.inj found
    trivial
  | infinite negative => cases found
  | finite negative bits =>
    rw [oneDecimal] at found
    split at found
    · cases found
    · obtain rfl := Except.ok.inj found
      exact isWellFormed_ofDecimal _ _ _

end Meteogram.Number.Binary64
