import Meteogram.Proofs.Ini.Setting

/-!
# Texts at paths

A text of a document stands at a path of names: those of the sections around it and its own
key. Setting a text changes what stands at its path, and nothing that stands elsewhere
(`Document.textAt?_set`). What is read from a text without a percent sign does not change
either (`Document.get_set_of_ne`).
-/

set_option autoImplicit false

namespace Meteogram.Ini

/-- The text at a path of names, the outermost one first. -/
def Section.textAt? (body : Section) : List String → Option String
  | [] => none
  | name :: rest =>
    match body.content? name with
    | none => none
    | some (.text text) => if rest.isEmpty then some text else none
    | some (.group inner) => inner.textAt? rest

section

variable {body other : Section} {key name text : String} {path : List String}

/-- What stands under the other names is what stood there before. -/
theorem Section.content?_set_of_ne (apart : name ≠ key) :
    (body.set key text).content? name = body.content? name := by
  have apart' : (key == name) = false := beq_eq_false_iff_ne.2 apart.symm
  rw [set]
  split
  · rw [content?, content?, find?_map_of_keeps]
    · cases found : body.settings.find? fun setting => setting.key == name with
      | none => rfl
      | some setting =>
        have isName : setting.key = name := by simpa using List.find?_some found
        have notKey : ¬ (setting.key == key) = true := by simpa [isName] using apart
        rw [Option.map_some, if_neg notKey]
    · intro setting
      split <;> rfl
  · split
    · rw [content?, content?]
      cases body.settings.find? fun setting => setting.key == name with
      | some setting => rfl
      | none =>
        dsimp only
        rw [find?_map_of_keeps]
        · cases found : body.children.find? fun child => child.1 == name with
          | none => rfl
          | some child =>
            obtain ⟨other, margin, content⟩ := child
            have isName : other = name := by simpa using List.find?_some found
            have notKey : ¬ (other == key) = true := by simpa [isName] using apart
            exact congrArg some (if_neg notKey)
        · exact fun _ => rfl
    · rw [content?, content?, List.find?_append, List.find?_singleton, apart']
      simp only [Bool.false_eq_true, if_false, Option.or_none]

theorem Section.textAt?_cons_of_group (standing : body.content? name = some (.group other)) :
    body.textAt? (name :: path) = other.textAt? path := by
  rw [textAt?, standing]

theorem Section.textAt?_cons_congr (same : body.content? name = other.content? name) :
    body.textAt? (name :: path) = other.textAt? (name :: path) := by
  rw [textAt?, textAt?, same]

/-- Paths that do not lead through the key that was set lead to the same texts as before. -/
theorem Section.textAt?_set (elsewhere : ¬ [key] <+: path) :
    (body.set key text).textAt? path = body.textAt? path := by
  cases path with
  | nil => rfl
  | cons first rest =>
    rw [List.cons_prefix_cons, and_iff_left List.nil_prefix] at elsewhere
    exact textAt?_cons_congr (content?_set_of_ne (Ne.symm elsewhere))

end

namespace Document

variable {document after : Document} {name key text : String}

/-- The text that was set stands at its path. -/
theorem textAt?_set_self (set : document.set name key text = .ok after) :
    after.body.textAt? [name, key] = some text := by
  obtain ⟨body, _, found, _⟩ := content?_set set
  rw [Section.textAt?_cons_of_group found, Section.textAt?, Section.content?_set]
  rfl

/-- Nothing that stands elsewhere is changed. -/
theorem textAt?_set (set : document.set name key text = .ok after) {path : List String}
    (elsewhere : ¬ [name, key] <+: path) : after.body.textAt? path = document.body.textAt? path := by
  obtain ⟨body, before, found, others⟩ := content?_set set
  cases path with
  | nil => rfl
  | cons first rest =>
    by_cases here : first = name
    · subst here
      rw [List.cons_prefix_cons, and_iff_right rfl] at elsewhere
      rw [Section.textAt?_cons_of_group found, Section.textAt?_set elsewhere]
      rcases before with standing | ⟨absent, rfl⟩
      · exact (Section.textAt?_cons_of_group standing).symm
      · rw [Section.textAt?, absent]
        cases rest <;> rfl
    · exact Section.textAt?_cons_congr (others first here)

/-- Only what stands in the document is changed, and not how it is written. -/
theorem set_eq (set : document.set name key text = .ok after) :
    after = { document with body := after.body } := by
  rw [Document.set] at set
  split at set
  · obtain ⟨_, _, stopped⟩ := bind_eq_ok.1 set
    cases stopped
  · exact Except.ok.inj set ▸ rfl
  · exact Except.ok.inj set ▸ rfl

/-- A text without a percent sign is read as it stands. -/
theorem get_of_plain {standard : Value} (standing : document.body.textAt? [name, key] = some text)
    (plain : '%' ∉ text.toList) :
    document.get name key standard = .ok (if text = "" then standard else .text text) := by
  rw [Section.textAt?] at standing
  cases outer : document.body.content? name with
  | none =>
    rw [outer] at standing
    cases standing
  | some content =>
    rw [outer] at standing
    cases content with
    | text other => cases standing
    | group body =>
      dsimp only at standing
      rw [Section.textAt?] at standing
      cases inner : body.content? key with
      | none =>
        rw [inner] at standing
        cases standing
      | some content =>
        rw [inner] at standing
        cases content with
        | group body => cases standing
        | text other =>
          obtain rfl : other = text := Option.some.inj standing
          rw [get, outer]
          dsimp only
          rw [inner]
          dsimp only
          rw [valueOf, Following.resolve_of_plain _ _ _ plain]
          dsimp only [bind, Except.bind, pure, Except.pure]
          by_cases empty : other = ""
          · subst empty
            rfl
          · rw [if_neg empty]
            split
            · next same => exact absurd (Value.text.inj same) empty
            · rfl

/-- A text without a percent sign is read as before. -/
theorem get_set_of_ne (set : document.set name key text = .ok after) {name' key' text' : String}
    {standard : Value} (elsewhere : ¬ (name' = name ∧ key' = key))
    (standing : document.body.textAt? [name', key'] = some text') (plain : '%' ∉ text'.toList) :
    after.get name' key' standard = document.get name' key' standard := by
  have elsewhere' : ¬ [name, key] <+: [name', key'] := by
    intro before
    rw [List.cons_prefix_cons, List.cons_prefix_cons] at before
    exact elsewhere ⟨before.1.symm, before.2.1.symm⟩
  rw [get_of_plain standing plain, get_of_plain ((textAt?_set set elsewhere').trans standing) plain]

end Document

end Meteogram.Ini
