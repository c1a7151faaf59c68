import Meteogram.Text.Case

/-!
# Splitting texts

Words, lines, fields and the trimming of blanks, on lists of characters. Each
splitter is one structural recursion: the text is taken apart from the left,
and `attach` puts a character in front of the first piece of what the rest
gives. `firstSplit?` ends the first part as soon as what is behind it can be
read, and loses nothing in between (`eq_append_of_firstSplit?`).
-/

set_option autoImplicit false

namespace Meteogram.Text

/-- Puts a character in front of the first piece, or makes it the only one. -/
def attach (c : Char) : List (List Char) → List (List Char)
  | [] => [[c]]
  | piece :: pieces => (c :: piece) :: pieces

/-- The maximal runs of characters that are not blank. -/
def wordsOf : List Char → List (List Char)
  | [] => []
  | c :: cs =>
    if isBlank c then wordsOf cs
    else
      match cs with
      | [] => [[c]]
      | next :: _ => if isBlank next then [c] :: wordsOf cs else attach c (wordsOf cs)

/-- The lines of a text without their ends. A carriage return and a line feed
after it end one line, and a text that ends in a line end has no empty line
after it. -/
def linesOf : List Char → List (List Char)
  | [] => []
  | '\r' :: '\n' :: cs => [] :: linesOf cs
  | c :: cs => if isLineEnd c then [] :: linesOf cs else attach c (linesOf cs)

/-- The pieces of a text that end in a mark, with the mark. What is behind the last
mark, if anything, is a piece too. -/
def piecesEndingIn (mark : Char) : List Char → List (List Char)
  | [] => []
  | c :: cs =>
    if c = mark then [c] :: piecesEndingIn mark cs else attach c (piecesEndingIn mark cs)

/-- The fields of a text between the separators: one more than there are
separators. -/
def fieldsOf (separator : Char) : List Char → List (List Char)
  | [] => [[]]
  | c :: cs =>
    if c = separator then [] :: fieldsOf separator cs else attach c (fieldsOf separator cs)

/-- There is always a field. -/
theorem fieldsOf_ne_nil (separator : Char) (text : List Char) : fieldsOf separator text ≠ [] := by
  cases text with
  | nil => exact List.cons_ne_nil _ _
  | cons c cs =>
    rw [fieldsOf]
    split
    · exact List.cons_ne_nil _ _
    · cases fieldsOf separator cs <;> exact List.cons_ne_nil _ _

/-- No field has a separator. -/
theorem not_mem_of_mem_fieldsOf (separator : Char) (text : List Char) :
    ∀ field ∈ fieldsOf separator text, separator ∉ field := by
  induction text with
  | nil => exact List.forall_mem_singleton.2 List.not_mem_nil
  | cons c cs ih =>
    rw [fieldsOf]
    split
    · exact List.forall_mem_cons.2 ⟨List.not_mem_nil, ih⟩
    · next other =>
      cases fields : fieldsOf separator cs with
      | nil => exact absurd fields (fieldsOf_ne_nil separator cs)
      | cons field fields =>
        rw [fields] at ih
        obtain ⟨first, rest⟩ := List.forall_mem_cons.1 ih
        exact List.forall_mem_cons.2 ⟨List.not_mem_cons_of_ne_of_not_mem (Ne.symm other) first, rest⟩

/-- A text without separators is one field. -/
theorem fieldsOf_of_not_mem {separator : Char} {cs : List Char} (free : separator ∉ cs) :
    fieldsOf separator cs = [cs] := by
  induction cs with
  | nil => rfl
  | cons c cs ih =>
    rw [List.mem_cons, not_or] at free
    rw [fieldsOf, if_neg (Ne.symm free.1), ih free.2, attach]

/-- The fields on both sides of a separator. -/
theorem fieldsOf_append (separator : Char) (before behind : List Char) :
    fieldsOf separator (before ++ separator :: behind) =
      fieldsOf separator before ++ fieldsOf separator behind := by
  induction before with
  | nil => exact if_pos rfl
  | cons c cs ih =>
    rw [List.cons_append, fieldsOf, fieldsOf, ih]
    split
    · rfl
    · cases fields : fieldsOf separator cs with
      | nil => exact absurd fields (fieldsOf_ne_nil separator cs)
      | cons field fields => rfl

/-- The text without the blanks at its start. -/
def trimStart (cs : List Char) : List Char :=
  cs.dropWhile isBlank

/-- The text without the blanks at its end. -/
def trimEnd (cs : List Char) : List Char :=
  (cs.reverse.dropWhile isBlank).reverse

/-- The text without the blanks at both ends. -/
def trim (cs : List Char) : List Char :=
  trimEnd (trimStart cs)

/-- The text that is left after `start`, when the text starts with it. -/
def afterPrefix? : List Char → List Char → Option (List Char)
  | [], cs => some cs
  | s :: start, c :: cs => if s = c then afterPrefix? start cs else none
  | _ :: _, [] => none

/-- A start and what is behind it make up the text. -/
theorem eq_append_of_afterPrefix? {start text rest : List Char}
    (found : afterPrefix? start text = some rest) : text = start ++ rest := by
  induction start generalizing text with
  | nil => exact Option.some.inj found
  | cons s start ih =>
    cases text with
    | nil => cases found
    | cons c cs =>
      rw [afterPrefix?] at found
      split at found
      · next same => rw [same, ih found, List.cons_append]
      · cases found

theorem isSome_afterPrefix? {start text : List Char} :
    (afterPrefix? start text).isSome = true ↔ start <+: text := by
  induction start generalizing text with
  | nil => exact iff_of_true rfl List.nil_prefix
  | cons s start ih =>
    cases text with
    | nil =>
      exact iff_of_false Bool.false_ne_true fun starts =>
        List.cons_ne_nil _ _ (List.prefix_nil.1 starts)
    | cons c cs =>
      rw [afterPrefix?, List.cons_prefix_cons]
      split
      · next same => rw [ih, eq_true same, true_and]
      · next other => exact iff_of_false Bool.false_ne_true fun starts => other starts.1

/-- The shortest first part of a text such that `read?` can read what is behind
it, and what it reads there. -/
def firstSplit? {α : Type} (read? : List Char → Option α) :
    List Char → Option (List Char × α)
  | [] => (read? []).map ([], ·)
  | c :: cs =>
    match read? (c :: cs) with
    | some value => some ([], value)
    | none =>
      match firstSplit? read? cs with
      | some (before, value) => some (c :: before, value)
      | none => none

/-- A first part and what `read?` reads behind it make up the text. -/
theorem eq_append_of_firstSplit? {α : Type} {read? : List Char → Option α} {text before : List Char}
    {value : α} (h : firstSplit? read? text = some (before, value)) :
    ∃ rest, text = before ++ rest ∧ read? rest = some value := by
  induction text generalizing before with
  | nil =>
    obtain ⟨_, found, same⟩ := Option.map_eq_some_iff.1 h
    cases same
    exact ⟨[], rfl, found⟩
  | cons c cs ih =>
    rw [firstSplit?] at h
    split at h
    · next found =>
      cases h
      exact ⟨c :: cs, rfl, found⟩
    · split at h
      · next inner =>
        cases h
        obtain ⟨rest, same, found⟩ := ih inner
        exact ⟨rest, by rw [same, List.cons_append], found⟩
      · cases h

/-- The text has `part` somewhere in it. -/
def hasPart (part : List Char) : List Char → Bool
  | [] => part.isEmpty
  | c :: cs => (afterPrefix? part (c :: cs)).isSome || hasPart part cs

/-! ## The same on strings -/

/-- The fields of a string between the separators. -/
def splitFields (separator : Char) (text : String) : List String :=
  (fieldsOf separator text.toList).map String.ofList

/-- The string without the blanks at both ends. -/
def trimmed (text : String) : String :=
  String.ofList (trim text.toList)

/-- The string starts with `start`. -/
def startsWith (text start : String) : Bool :=
  (afterPrefix? start.toList text.toList).isSome

theorem startsWith_iff {text start : String} :
    startsWith text start = true ↔ start.toList <+: text.toList :=
  isSome_afterPrefix?

/-- The string has `part` somewhere in it. -/
def contains (text part : String) : Bool :=
  hasPart part.toList text.toList

end Meteogram.Text
