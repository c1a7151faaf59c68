import Meteogram.Definition.Words
import Meteogram.Proofs.Text.LowerCase

/-!
# Writing words

Words that are written one after the other with a blank between them are found again,
if each of them is either one of the marks or has neither blanks nor marks in it, and
the first one does not start a comment (`words_intercalate`).
-/

set_option autoImplicit false

namespace Meteogram.Definition

open Text

/-! ## Words that can be written -/

/-- The word has neither blanks nor marks in it, and is not empty. -/
def isPlain (word : String) : Bool :=
  !word.isEmpty && word.toList.all fun c => !isBlank c && !isMark c

/-- The word is plain, or it is a mark. -/
def isWritable (word : String) : Bool :=
  isPlain word || ["[", "]", "\""].contains word

/-- A word without blanks and marks. -/
structure Word where
  text : String
  plain : isPlain text = true

theorem isPlain_iff {word : String} : isPlain word = true ↔
    word.toList ≠ [] ∧ ∀ c ∈ word.toList, isBlank c = false ∧ isMark c = false := by
  rw [isPlain, Bool.and_eq_true, Bool.not_eq_true', List.all_eq_true]
  refine and_congr ?_ (forall₂_congr fun c _ => ?_)
  · rw [← Bool.not_eq_true, String.isEmpty_iff, ne_eq, String.toList_eq_nil_iff]
  · rw [Bool.and_eq_true, Bool.not_eq_true', Bool.not_eq_true']

namespace Word

/-- A plain word is no mark. -/
theorem text_ne_mark (word : Word) {c : Char} (mark : isMark c = true) :
    word.text ≠ String.singleton c := by
  intro same
  have free := ((isPlain_iff.1 word.plain).2 c (by rw [same]; simp)).2
  rw [mark] at free
  cases free

end Word

/-! ## Runs of characters -/

section

variable {word rest : List Char}

theorem wordsOf_cons_cons {c next : Char} (here : isBlank c = false) :
    wordsOf (c :: next :: rest) =
      if isBlank next then [c] :: wordsOf (next :: rest) else attach c (wordsOf (next :: rest)) := by
  rw [wordsOf.eq_def]
  simp only [here, Bool.false_eq_true, if_false]

/-- A run without blanks is one word. -/
theorem wordsOf_of_solid (notEmpty : word ≠ []) (solid : ∀ c ∈ word, isBlank c = false) :
    wordsOf word = [word] := by
  induction word with
  | nil => exact absurd rfl notEmpty
  | cons c word ih =>
    obtain ⟨here, solid⟩ := List.forall_mem_cons.1 solid
    cases word with
    | nil => simp only [wordsOf, here, Bool.false_eq_true, if_false]
    | cons next word =>
      have there := solid next List.mem_cons_self
      rw [wordsOf_cons_cons here, there, ih (List.cons_ne_nil _ _) solid]
      rfl

/-- A run without blanks in front of a blank is a word. -/
theorem wordsOf_append_blank (notEmpty : word ≠ []) (solid : ∀ c ∈ word, isBlank c = false)
    {blank : Char} (isBlank_blank : isBlank blank = true) :
    wordsOf (word ++ blank :: rest) = word :: wordsOf (blank :: rest) := by
  induction word with
  | nil => exact absurd rfl notEmpty
  | cons c word ih =>
    obtain ⟨here, solid⟩ := List.forall_mem_cons.1 solid
    cases word with
    | nil => rw [List.singleton_append, wordsOf_cons_cons here, if_pos isBlank_blank]
    | cons next word =>
      have there := solid next List.mem_cons_self
      have more := ih (List.cons_ne_nil _ _) solid
      rw [List.cons_append] at more
      rw [List.cons_append, List.cons_append, wordsOf_cons_cons here, there, more]
      rfl

theorem wordsOf_blank {blank : Char} (isBlank_blank : isBlank blank = true) :
    wordsOf (blank :: rest) = wordsOf rest := by
  rw [wordsOf.eq_def]
  exact if_pos isBlank_blank

end

/-! ## Rows of words -/

theorem spaced_append (first second : List Char) :
    spaced (first ++ second) = spaced first ++ spaced second :=
  List.flatMap_append

theorem spaced_of_free {text : List Char} (free : ∀ c ∈ text, isMark c = false) :
    spaced text = text := by
  induction text with
  | nil => rfl
  | cons c text ih =>
    obtain ⟨here, free⟩ := List.forall_mem_cons.1 free
    have rest := ih free
    rw [spaced] at rest ⊢
    rw [List.flatMap_cons, here, rest]
    rfl

/-- A writable word in front of a blank is found. -/
theorem wordsOf_spaced_append {word : String} (writable : isWritable word = true)
    (rest : List Char) : wordsOf (spaced word.toList ++ ' ' :: rest) =
      word.toList :: wordsOf rest := by
  have blank : isBlank ' ' = true := by decide
  rw [isWritable, Bool.or_eq_true] at writable
  rcases writable with plain | mark
  · obtain ⟨notEmpty, free⟩ := isPlain_iff.1 plain
    rw [spaced_of_free fun c member => (free c member).2,
      wordsOf_append_blank notEmpty (fun c member => (free c member).1) blank, wordsOf_blank blank]
  · simp only [List.contains_cons, List.contains_nil, Bool.or_false, Bool.or_eq_true,
      beq_iff_eq] at mark
    have solid : ∀ {c : Char}, isBlank c = false →
        wordsOf (' ' :: ([c] ++ ' ' :: ' ' :: rest)) = [c] :: wordsOf rest := by
      intro c here
      rw [wordsOf_blank blank, wordsOf_append_blank (List.cons_ne_nil _ _) (by simpa using here) blank,
        wordsOf_blank blank, wordsOf_blank blank]
    rcases mark with rfl | rfl | rfl
    · exact solid (by decide)
    · exact solid (by decide)
    · exact solid (by decide)

/-- A writable word at the end is found. -/
theorem wordsOf_spaced {word : String} (writable : isWritable word = true) :
    wordsOf (spaced word.toList) = [word.toList] := by
  rw [isWritable, Bool.or_eq_true] at writable
  rcases writable with plain | mark
  · obtain ⟨notEmpty, free⟩ := isPlain_iff.1 plain
    rw [spaced_of_free fun c member => (free c member).2,
      wordsOf_of_solid notEmpty fun c member => (free c member).1]
  · simp only [List.contains_cons, List.contains_nil, Bool.or_false, Bool.or_eq_true,
      beq_iff_eq] at mark
    rcases mark with rfl | rfl | rfl
    · decide
    · decide
    · decide

/-- The characters of words with a blank between them. -/
def joined (list : List String) : List Char :=
  [' '].intercalate (list.map String.toList)

theorem joined_singleton (word : String) : joined [word] = word.toList :=
  List.intercalate_singleton

theorem joined_cons_cons (word next : String) (list : List String) :
    joined (word :: next :: list) = word.toList ++ ' ' :: joined (next :: list) := by
  simp only [joined, List.map_cons, List.intercalate_cons_cons, List.append_assoc,
    List.singleton_append]

theorem wordsOf_spaced_joined {list : List String} (writable : ∀ word ∈ list, isWritable word = true) :
    wordsOf (spaced (joined list)) = list.map String.toList := by
  induction list with
  | nil => rfl
  | cons word list ih =>
    obtain ⟨here, writable⟩ := List.forall_mem_cons.1 writable
    cases list with
    | nil => exact (congrArg (wordsOf ∘ spaced) (joined_singleton word)).trans (wordsOf_spaced here)
    | cons next list =>
      have apart : spaced (' ' :: joined (next :: list)) = ' ' :: spaced (joined (next :: list)) :=
        rfl
      rw [joined_cons_cons, spaced_append, apart, wordsOf_spaced_append here, ih writable]
      rfl

/-! ## The text as a whole -/

/-- A text without line ends is one line. -/
theorem linesOf_of_noEnd {text : List Char} (notEmpty : text ≠ [])
    (noEnd : ∀ c ∈ text, isLineEnd c = false) : linesOf text = [text] := by
  induction text with
  | nil => exact absurd rfl notEmpty
  | cons c text ih =>
    obtain ⟨here, noEnd⟩ := List.forall_mem_cons.1 noEnd
    have notReturn : c ≠ '\r' := by
      rintro rfl
      exact absurd here (by decide)
    rw [linesOf]
    · rw [here]
      cases text with
      | nil => rfl
      | cons next text => rw [ih (List.cons_ne_nil _ _) noEnd]; rfl
    · rintro more same _
      exact notReturn same

theorem isLineEnd_of_isWritable {word : String} (writable : isWritable word = true) :
    ∀ c ∈ word.toList, isLineEnd c = false := by
  intro c member
  rw [isWritable, Bool.or_eq_true] at writable
  rcases writable with plain | mark
  · refine Bool.eq_false_iff.2 fun lineEnd => ?_
    have solid := ((isPlain_iff.1 plain).2 c member).1
    rw [isBlank_of_isLineEnd lineEnd] at solid
    cases solid
  · simp only [List.contains_cons, List.contains_nil, Bool.or_false, Bool.or_eq_true,
      beq_iff_eq] at mark
    rcases mark with rfl | rfl | rfl
    all_goals
      obtain rfl := List.mem_singleton.1 member
      decide

theorem isLineEnd_joined {list : List String} (writable : ∀ word ∈ list, isWritable word = true) :
    ∀ c ∈ joined list, isLineEnd c = false := by
  induction list with
  | nil => exact fun c member => by cases member
  | cons word list ih =>
    obtain ⟨here, writable⟩ := List.forall_mem_cons.1 writable
    intro c member
    cases list with
    | nil => exact isLineEnd_of_isWritable here c (joined_singleton word ▸ member)
    | cons next list =>
      rw [joined_cons_cons] at member
      rcases List.mem_append.1 member with inWord | behind
      · exact isLineEnd_of_isWritable here c inWord
      · rcases List.mem_cons.1 behind with rfl | inRest
        · decide
        · exact ih writable c inRest

/-- A row of words whose first character is neither a blank nor a semicolon is no
comment. -/
theorem isComment_joined {c : Char} {cs : List Char} {first : String} {list : List String}
    (starts : first.toList = c :: cs) (notBlank : isBlank c = false) (noSemicolon : c ≠ ';') :
    isComment (joined (first :: list)) = false := by
  obtain ⟨rest, split⟩ : ∃ rest, joined (first :: list) = c :: rest := by
    cases list with
    | nil => exact ⟨cs, (joined_singleton first).trans starts⟩
    | cons next list => exact ⟨_, by rw [joined_cons_cons, starts, List.cons_append]⟩
  have kept : trimStart (c :: rest) = c :: rest :=
    List.dropWhile_cons_of_neg (Bool.eq_false_iff.1 notBlank)
  rw [isComment, split, kept, List.head?_cons, beq_eq_false_iff_ne]
  intro same
  exact noSemicolon (Option.some.inj same)

/-- The words of a row of words that is written with blanks between them are these
words, if the row does not look like a comment. -/
theorem words_intercalate {first : String} {list : List String}
    (writable : ∀ word ∈ first :: list, isWritable word = true)
    (noComment : isComment (joined (first :: list)) = false) :
    words (String.intercalate " " (first :: list)) = first :: list := by
  have notEmpty : joined (first :: list) ≠ [] := by
    intro empty
    have found := wordsOf_spaced_joined writable
    rw [empty] at found
    cases found
  have text : (String.intercalate " " (first :: list)).toList = joined (first :: list) :=
    String.toList_intercalate
  rw [words, wordsOfText, text, linesOf_of_noEnd notEmpty (isLineEnd_joined writable),
    List.flatMap_singleton, lineWords, noComment, if_neg Bool.false_ne_true,
    wordsOf_spaced_joined writable, List.map_map]
  simp

end Meteogram.Definition
