import Mathlib.Data.Nat.Bitwise
import Meteogram.Chart.Axis

/-!
# Sets of axes as bit masks

The bits of a mask are the bridge between sets of axes and numbers: each category has
a bit of its own (`index_injective`), the bits of a union are those of its parts
(`testBit_unionAll`), and a set has exactly one category if its mask is a power of two
(`count_unionAll_eq_one_iff`).
-/

set_option autoImplicit false

namespace Meteogram

open Number

/-! ## Single categories -/

namespace Axis

theorem index_injective {axis other : Axis} (same : axis.index = other.index) : axis = other := by
  have found : ∀ axis : Axis, all[axis.index]? = some axis := by
    intro axis
    cases axis <;> rfl
  exact Option.some.inj ((found axis).symm.trans ((congrArg (all[·]?) same).trans (found other)))

/-- The mask of a single category has the bit of the category alone. -/
theorem testBit_set (axis : Axis) (bit : Nat) :
    axis.set.mask.testBit bit = decide (axis.index = bit) :=
  Nat.testBit_two_pow

theorem set_injective {axis other : Axis} (same : axis.set = other.set) : axis = other := by
  have bit := testBit_set axis other.index
  rw [same, testBit_set, decide_eq_true rfl] at bit
  exact index_injective (of_decide_eq_true bit.symm)

/-- A single category is known. -/
theorem single?_set (axis : Axis) : axis.set.single? = some axis := by
  cases axis <;> rfl

end Axis

/-! ## Unions -/

namespace AxisSet

/-- The category is in the set. -/
def Has (axes : AxisSet) (axis : Axis) : Prop :=
  axes.mask.testBit axis.index = true

theorem not_has_empty (axis : Axis) : ¬ (∅ : AxisSet).Has axis := by
  intro has
  exact Bool.false_ne_true ((Nat.zero_testBit axis.index).symm.trans has)

theorem has_set_iff {axis other : Axis} : axis.set.Has other ↔ axis = other := by
  rw [Has, Axis.testBit_set, decide_eq_true_eq]
  exact ⟨Axis.index_injective, congrArg Axis.index⟩

theorem has_union_iff {first second : AxisSet} {axis : Axis} :
    (first ∪ second).Has axis ↔ first.Has axis ∨ second.Has axis := by
  have bits : (first ∪ second).mask.testBit axis.index =
      (first.mask.testBit axis.index || second.mask.testBit axis.index) :=
    Nat.testBit_or _ _ _
  rw [Has, bits, Bool.or_eq_true]
  rfl

/-- A set includes a single category if it has the category. -/
theorem includes_set_iff {axes : AxisSet} {axis : Axis} :
    axes.includes axis.set = true ↔ axes.Has axis := by
  have bits : axes.mask &&& axis.set.mask =
      (axes.mask.testBit axis.index).toNat * axis.set.mask := Nat.and_two_pow _ _
  have positive : axis.set.mask ≠ 0 := Nat.pos_iff_ne_zero.1 (Nat.two_pow_pos axis.index)
  rw [includes, bits, Has, beq_iff_eq]
  cases axes.mask.testBit axis.index with
  | true => simp
  | false => simpa using positive.symm

/-- The bits of a union are those of its parts. -/
theorem testBit_unionAll (sets : List AxisSet) (bit : Nat) :
    (unionAll sets).mask.testBit bit = sets.any fun set => set.mask.testBit bit := by
  have behind : ∀ (sets : List AxisSet) (start : AxisSet),
      (sets.foldl (· ∪ ·) start).mask.testBit bit =
        (start.mask.testBit bit || sets.any fun set => set.mask.testBit bit) := by
    intro sets
    induction sets with
    | nil => exact fun start => (Bool.or_false _).symm
    | cons set sets ih =>
      intro start
      have joined : (start ∪ set).mask.testBit bit =
          (start.mask.testBit bit || set.mask.testBit bit) := Nat.testBit_or _ _ _
      rw [List.foldl_cons, ih, joined, List.any_cons, Bool.or_assoc]
  have start : (∅ : AxisSet).mask.testBit bit = false := Nat.zero_testBit bit
  rw [unionAll, behind, start, Bool.false_or]

/-- Sets of the same bits are equal. -/
theorem ext_testBit {first second : AxisSet}
    (same : ∀ bit, first.mask.testBit bit = second.mask.testBit bit) : first = second := by
  have masks : first.mask = second.mask := Nat.eq_of_testBit_eq same
  cases first
  cases second
  exact congrArg mk masks

end AxisSet

/-! ## Counting -/

theorem countOnes_eq_zero_iff {n : Nat} : countOnes n = 0 ↔ n = 0 := by
  induction n using Nat.strongRecOn with
  | ind n ih =>
    rw [countOnes]
    split
    · next zero => exact iff_of_true rfl zero
    · next positive =>
      have half := ih (n / 2) (by omega)
      omega

/-- Exactly the powers of two have a single one among their binary digits. -/
theorem countOnes_eq_one_iff {n : Nat} : countOnes n = 1 ↔ ∃ bit, n = 2 ^ bit := by
  induction n using Nat.strongRecOn with
  | ind n ih =>
    rw [countOnes]
    split
    · next zero =>
      refine iff_of_false Nat.zero_ne_one ?_
      rintro ⟨bit, power⟩
      have positive := Nat.two_pow_pos bit
      omega
    · next positive =>
      have half := ih (n / 2) (by omega)
      have none := @countOnes_eq_zero_iff (n / 2)
      constructor
      · intro one
        rcases Nat.mod_two_eq_zero_or_one n with even | odd
        · obtain ⟨bit, power⟩ := half.1 (by omega)
          exact ⟨bit + 1, by rw [Nat.pow_succ]; omega⟩
        · have last : n / 2 = 0 := none.1 (by omega)
          exact ⟨0, by omega⟩
      · rintro ⟨bit, power⟩
        cases bit with
        | zero =>
          have last := none.2 (by omega)
          omega
        | succ bit =>
          rw [Nat.pow_succ] at power
          have rest := half.2 ⟨bit, by omega⟩
          omega

namespace AxisSet

/-- A union of single categories has exactly one if they are all the same. -/
theorem count_unionAll_eq_one_iff {sets : List AxisSet} (notEmpty : sets ≠ [])
    (single : ∀ set ∈ sets, ∃ axis : Axis, set = axis.set) :
    (unionAll sets).count = 1 ↔ ∃ axis : Axis, ∀ set ∈ sets, set = axis.set := by
  obtain ⟨first, rest, rfl⟩ := List.exists_cons_of_ne_nil notEmpty
  obtain ⟨axis, rfl⟩ := single first List.mem_cons_self
  rw [count, countOnes_eq_one_iff]
  constructor
  · rintro ⟨bit, power⟩
    -- The single bit of the union is the bit of each of its parts.
    have only : ∀ set ∈ axis.set :: rest, ∀ other : Axis, set = other.set → bit = other.index := by
      intro set member other same
      have has := testBit_unionAll (axis.set :: rest) other.index
      rw [power, Nat.testBit_two_pow] at has
      have inside : ((axis.set :: rest).any fun set => set.mask.testBit other.index) = true := by
        refine List.any_eq_true.2 ⟨set, member, ?_⟩
        rw [same, Axis.testBit_set, decide_eq_true rfl]
      exact of_decide_eq_true (has.trans inside)
    refine ⟨axis, fun set member => ?_⟩
    obtain ⟨other, same⟩ := single set member
    have bits := (only set member other same).symm.trans (only _ List.mem_cons_self axis rfl)
    rw [same, Axis.index_injective bits]
  · rintro ⟨other, all⟩
    refine ⟨other.index, congrArg mask (ext_testBit fun bit => ?_ :
      unionAll (axis.set :: rest) = other.set)⟩
    rw [testBit_unionAll, Bool.eq_iff_iff, List.any_eq_true]
    constructor
    · rintro ⟨set, member, has⟩
      rwa [all set member] at has
    · intro has
      exact ⟨axis.set, List.mem_cons_self, by rwa [all _ List.mem_cons_self]⟩

end AxisSet

end Meteogram
