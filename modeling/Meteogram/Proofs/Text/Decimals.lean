import Meteogram.Text.Words
import Meteogram.Proofs.Text.Runs

/-!
# Numbers in texts

A number is written with digits alone. So it is told from a text in which another character
follows it.
-/

set_option autoImplicit false

namespace Meteogram

open Text

theorem digits_toString (n : Nat) : ∀ c ∈ (toString n).toList, c.isDigit = true := by
  intro c member
  rw [Nat.toString_eq_repr, Nat.toList_repr] at member
  exact Nat.isDigit_of_mem_toDigits (by decide) (by decide) member

theorem not_mem_toString {c : Char} (other : c.isDigit = false) (n : Nat) :
    c ∉ (toString n).toList :=
  fun member => Bool.eq_false_iff.1 other (digits_toString n c member)

/-- A number goes on to the first character that is no digit. -/
theorem number_eq_of_digits {c : Char} (other : c.isDigit = false) {n n' : Nat}
    {rest rest' : List Char}
    (same : (toString n).toList ++ c :: rest = (toString n').toList ++ c :: rest') : n = n' := by
  have digit := fun n => List.all_eq_true.2 (digits_toString n)
  have apart : ∀ rest, ∀ d ∈ (c :: rest).head?, d.isDigit = false := by simpa using other
  obtain ⟨digits, _⟩ := append_unique (digit n) (digit n') (apart rest) (apart rest') same
  rw [Nat.toString_eq_repr, Nat.toString_eq_repr, Nat.toList_repr, Nat.toList_repr] at digits
  rw [← Nat.ofDigitChars_toDigits (n := n) (by decide : 1 < 10) (by decide), digits,
    Nat.ofDigitChars_toDigits (by decide) (by decide)]

end Meteogram
