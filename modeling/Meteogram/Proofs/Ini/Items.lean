import Meteogram.Ini.Read

/-!
# What stands on the lines of a file

The lines of a configuration file are comments, heads and settings, of which a setting may take
several lines. Reading the lines is finding these items and adding them one after the other
(`readLines?_eq`), and the items of two parts of a file are those of one part and then those of the
other (`items?_append`).
-/

set_option autoImplicit false

namespace Meteogram.Ini

open Meteogram.Text

/-- What stands on a line, or on the lines of a text over several lines. -/
inductive Item where
  | comment (line : List Char)
  | head (head : Head)
  | setting (assignment : Assignment) (text comment : List Char)

/-- What stands on a line outside of a text over several lines, or the text over several lines that
it begins. -/
def item? (line : List Char) : Option (Item ⊕ OpenText) :=
  if isComment (trimStart line) then some (.inl (.comment line))
  else
    match head? line with
    | some head => some (.inl (.head head))
    | none => do
      let assignment ← assignment? line
      match tripleQuote? assignment.text with
      | none =>
        let (text, comment) ← textAndComment? assignment.text
        return .inl (.setting assignment text comment)
      | some marks =>
        let inner := assignment.text.drop 3
        match untilQuotes? marks inner with
        | some (text, comment) => return .inl (.setting assignment text comment)
        | none =>
          if hasPart marks inner then none
          else return .inr ⟨assignment, marks, inner⟩

/-- What stands on lines, of which the first ones may belong to a text that has begun. -/
def items? : List (List Char) → Option OpenText → Option (List Item)
  | [], none => some []
  | [], some _ => none
  | line :: lines, none => do
    match ← item? line with
    | .inl item => return item :: (← items? lines none)
    | .inr begun => items? lines (some begun)
  | line :: lines, some begun =>
    if hasPart begun.marks line then do
      let (text, comment) ← untilQuotes? begun.marks line
      return .setting begun.assignment (begun.text ++ '\n' :: text) comment :: (← items? lines none)
    else items? lines (some { begun with text := begun.text ++ '\n' :: line })

/-- Adds an item to what has been read. -/
def Reading.add? (reading : Reading) : Item → Option Reading
  | .comment line => some (reading.addComment line)
  | .head head => reading.addHead? head
  | .setting assignment text comment => reading.addSetting? assignment text comment

section

variable {reading : Reading} {line : List Char} {lines more : List (List Char)}
  {begun : Option OpenText} {items : List Item}

theorem readLine?_eq : readLine? reading line = (item? line).bind fun found =>
    match found with
    | .inl item => (reading.add? item).map (·, none)
    | .inr begun => some (reading, some begun) := by
  rw [readLine?, item?]
  split
  · rfl
  · cases head? line with
    | some head => rfl
    | none =>
      dsimp only
      cases assignment? line with
      | none => rfl
      | some assignment =>
        dsimp only [bind, Option.bind]
        cases tripleQuote? assignment.text with
        | none =>
          dsimp only
          cases textAndComment? assignment.text with
          | none => rfl
          | some both =>
            dsimp only [pure, Reading.add?]
            cases reading.addSetting? assignment both.1 both.2 <;> rfl
        | some marks =>
          dsimp only
          cases untilQuotes? marks (assignment.text.drop 3) with
          | some both =>
            dsimp only [pure, Reading.add?]
            cases reading.addSetting? assignment both.1 both.2 <;> rfl
          | none =>
            dsimp only
            split <;> rfl

/-- An item in front of others is added before them. -/
theorem foldlM_add?_cons (item : Item) (found : Option (List Item)) (reading : Reading) :
    ((do return item :: (← found)).bind fun items => items.foldlM Reading.add? reading) =
      (reading.add? item).bind fun next => found.bind fun items =>
        items.foldlM Reading.add? next := by
  cases found with
  | none =>
    cases reading.add? item <;> rfl
  | some items => exact List.foldlM_cons

/-- Lines are read by adding what stands on them. -/
theorem readLines?_eq : readLines? lines reading begun =
    (items? lines begun).bind fun items => items.foldlM Reading.add? reading := by
  induction lines generalizing reading begun with
  | nil => cases begun <;> rfl
  | cons line lines ih =>
    cases begun with
    | none =>
      rw [readLines?, items?, readLine?_eq]
      cases item? line with
      | none => rfl
      | some found =>
        cases found with
        | inr begun => exact ih
        | inl item =>
          refine Eq.trans ?_ (foldlM_add?_cons item (items? lines none) reading).symm
          dsimp only [bind, Option.bind]
          cases reading.add? item with
          | none => rfl
          | some next => exact ih
    | some begun =>
      rw [readLines?, items?]
      split
      · cases untilQuotes? begun.marks line with
        | none => rfl
        | some both =>
          refine Eq.trans ?_ (foldlM_add?_cons (.setting begun.assignment
            (begun.text ++ '\n' :: both.1) both.2) (items? lines none) reading).symm
          dsimp only [bind, Option.bind, Reading.add?]
          cases reading.addSetting? begun.assignment (begun.text ++ '\n' :: both.1) both.2 with
          | none => rfl
          | some next => exact ih
      · exact ih

/-- What stands on more lines comes behind. -/
theorem items?_append (first : items? lines begun = some items) :
    items? (lines ++ more) begun = (items? more none).map (items ++ ·) := by
  induction lines generalizing begun items with
  | nil =>
    cases begun with
    | some begun => cases first
    | none =>
      obtain rfl := Option.some.inj first
      rw [List.nil_append]
      cases items? more none <;> rfl
  | cons line lines ih =>
    rw [List.cons_append]
    cases begun with
    | none =>
      rw [items?] at first ⊢
      obtain ⟨found, isItem, first⟩ := Option.bind_eq_some_iff.1 first
      rw [isItem]
      cases found with
      | inr opened => exact ih first
      | inl item =>
        obtain ⟨rest, behind, same⟩ := Option.bind_eq_some_iff.1 first
        obtain rfl := Option.some.inj same
        dsimp only [bind, Option.bind]
        rw [ih behind]
        cases items? more none <;> rfl
    | some opened =>
      rw [items?] at first ⊢
      split at first
      · next ends =>
        rw [if_pos ends]
        obtain ⟨both, closes, first⟩ := Option.bind_eq_some_iff.1 first
        rw [closes]
        obtain ⟨rest, behind, same⟩ := Option.bind_eq_some_iff.1 first
        obtain rfl := Option.some.inj same
        dsimp only [bind, Option.bind]
        rw [ih behind]
        cases items? more none <;> rfl
      · next goesOn =>
        rw [if_neg goesOn]
        exact ih first

theorem ne_nil_of_tripleQuote? {text marks : List Char} (found : tripleQuote? text = some marks) :
    marks ≠ [] := by
  rintro rfl
  match text with
  | [] | [_] | [_, _] => cases found
  | a :: b :: c :: rest =>
    rw [tripleQuote?] at found
    split at found
    · cases found
    · cases found

/-- A text over several lines ends in marks. -/
theorem marks_ne_nil_of_item? {opened : OpenText} (found : item? line = some (.inr opened)) :
    opened.marks ≠ [] := by
  rw [item?] at found
  split at found
  · cases found
  · cases head : head? line with
    | some head' =>
      rw [head] at found
      cases found
    | none =>
      rw [head] at found
      obtain ⟨assignment, _, found⟩ := Option.bind_eq_some_iff.1 found
      cases quote : tripleQuote? assignment.text with
      | none =>
        rw [quote] at found
        obtain ⟨_, _, same⟩ := Option.bind_eq_some_iff.1 found
        cases same
      | some marks =>
        rw [quote] at found
        dsimp only at found
        split at found
        · cases found
        · split at found
          · cases found
          · cases found
            exact ne_nil_of_tripleQuote? quote

/-- A blank line at the end of a file is a comment. The file can be read without it, too. -/
theorem items?_of_blank (closable : ∀ opened ∈ begun, opened.marks ≠ [])
    (whole : items? (lines ++ [[]]) begun = some items) :
    ∃ before, items? lines begun = some before ∧ items = before ++ [.comment []] := by
  induction lines generalizing begun items with
  | nil =>
    cases begun with
    | none =>
      obtain rfl := Option.some.inj whole
      exact ⟨[], rfl, rfl⟩
    | some opened =>
      have goesOn : hasPart opened.marks [] = false :=
        List.isEmpty_eq_false_iff.2 (closable opened rfl)
      rw [List.nil_append, items?, goesOn] at whole
      cases whole
  | cons line lines ih =>
    rw [List.cons_append] at whole
    cases begun with
    | none =>
      rw [items?] at whole ⊢
      obtain ⟨found, isItem, whole⟩ := Option.bind_eq_some_iff.1 whole
      rw [isItem]
      cases found with
      | inr opened =>
        exact ih (fun _ same => Option.some.inj same ▸ marks_ne_nil_of_item? isItem) whole
      | inl item =>
        obtain ⟨rest, behind, same⟩ := Option.bind_eq_some_iff.1 whole
        obtain rfl := Option.some.inj same
        obtain ⟨before, found, rfl⟩ := ih (fun _ none => (by cases none)) behind
        refine ⟨item :: before, ?_, rfl⟩
        dsimp only [bind, Option.bind]
        rw [found]
        rfl
    | some opened =>
      rw [items?] at whole ⊢
      split at whole
      · next ends =>
        rw [if_pos ends]
        obtain ⟨both, closes, whole⟩ := Option.bind_eq_some_iff.1 whole
        rw [closes]
        obtain ⟨rest, behind, same⟩ := Option.bind_eq_some_iff.1 whole
        obtain rfl := Option.some.inj same
        obtain ⟨before, found, rfl⟩ := ih (fun _ none => (by cases none)) behind
        refine ⟨_ :: before, ?_, rfl⟩
        dsimp only [bind, Option.bind]
        rw [found]
        rfl
      · next goesOn =>
        rw [if_neg goesOn]
        exact ih (fun _ same => Option.some.inj same ▸ closable opened rfl) whole

end

end Meteogram.Ini
