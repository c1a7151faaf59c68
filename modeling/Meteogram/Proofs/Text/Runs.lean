import Mathlib.Data.List.Basic

/-!
# Runs of one class of characters

Words, numbers and comments are found as runs of one class of characters that go on as far as they
can. Every text begins with one such run, which may be empty, and with no other.
-/

set_option autoImplicit false

namespace Meteogram.Text

/-- A text begins with a run of a class of characters, and what is behind the run does not go on
with it. -/
theorem exists_run (p : Char → Bool) (text : List Char) :
    ∃ run after, text = run ++ after ∧ run.all p = true ∧ ∀ c ∈ after.head?, p c = false := by
  refine ⟨text.takeWhile p, text.dropWhile p, List.takeWhile_append_dropWhile.symm,
    List.all_takeWhile, ?_⟩
  intro c isHead
  have stopped := List.head?_dropWhile_not p text
  rw [Option.mem_def.1 isHead] at stopped
  simpa using stopped

/-- A text falls in one way into a run of a class of characters and what is
behind it. -/
theorem append_unique {p : Char → Bool} {run other after behind : List Char}
    (inRun : run.all p = true) (inOther : other.all p = true)
    (apart : ∀ c ∈ after.head?, p c = false) (apart' : ∀ c ∈ behind.head?, p c = false)
    (same : run ++ after = other ++ behind) : run = other ∧ after = behind := by
  induction run generalizing other with
  | nil =>
    cases other with
    | nil => exact ⟨rfl, same⟩
    | cons c cs =>
      have out := apart c (by rw [show after = _ from same]; rfl)
      rw [List.all_cons, out, Bool.false_and] at inOther
      cases inOther
  | cons d ds ih =>
    rw [List.all_cons, Bool.and_eq_true] at inRun
    cases other with
    | nil =>
      have out := apart' d (by rw [show behind = _ from same.symm]; rfl)
      exact absurd (inRun.1.symm.trans out) Bool.noConfusion
    | cons c cs =>
      rw [List.all_cons, Bool.and_eq_true] at inOther
      obtain ⟨rfl, rest⟩ := List.cons.inj same
      obtain ⟨rfl, rfl⟩ := ih inRun.2 inOther.2 rest
      exact ⟨rfl, rfl⟩

end Meteogram.Text
