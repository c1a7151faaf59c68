import Mathlib.Data.List.Induction

/-!
# Names in the order of their first use

A list of names without its repetitions has each name once, where it stands first. It grows
by a name only if the name is new.
-/

set_option autoImplicit false

namespace Meteogram.Text

theorem eraseDups_concat (list : List String) (one : String) : (list ++ [one]).eraseDups =
    if one ∈ list then list.eraseDups else list.eraseDups ++ [one] := by
  rw [List.eraseDups_append]
  by_cases known : one ∈ list
  · simp [List.removeAll, known]
  · simp [List.removeAll, known, List.eraseDups_cons]

theorem nodup_eraseDups (list : List String) : list.eraseDups.Nodup := by
  induction list using List.reverseRecOn with
  | nil => exact List.nodup_nil
  | append_singleton list one ih =>
    rw [eraseDups_concat]
    split
    · exact ih
    · next isNew =>
      exact List.nodup_append.2 ⟨ih, List.pairwise_singleton _ one, fun other before _ isOne same =>
        isNew (List.mem_singleton.1 isOne ▸ same ▸ List.mem_eraseDups.1 before)⟩

end Meteogram.Text
