import Meteogram.Definition.Parse
import Meteogram.Proofs.Definition.Layout
import Meteogram.Proofs.Text.Runs

/-!
# The layout of definitions is free

Definitions may be laid out in lines in any way. `LaysOut` says which texts lay the same words out:
the words stand in them in this order, with white space between any two that would run together,
and with comments and blank lines anywhere between the lines. A text has exactly the words that it
lays out (`words_eq_iff`), so all these texts are read in the same way
(`layout_of_definitions_is_free`).

What finds the words goes by lines first and then by words, and a semicolon makes a line a comment
only at its start. So the words of a text are followed from the left, together with whether only
blanks stand in front of it in its line (`wordsFrom`).
-/

set_option autoImplicit false

namespace Meteogram.Definition

open Text

/-! ## Laying words out -/

/-- The text lays these words out in this order. If `fresh` holds, only blanks stand in front of it
in its line, so that a semicolon begins a comment, which takes up the rest of the line. Other white
space, line ends included, may stand anywhere between words. It has to stand behind a word in front
of another one, unless one of them is a mark. -/
inductive LaysOut : (fresh : Bool) → List (List Char) → List Char → Prop where
  | nil {fresh : Bool} : LaysOut fresh [] []
  | blank {fresh : Bool} {c : Char} {list : List (List Char)} {rest : List Char}
      (blank : isBlank c = true) (inLine : isLineEnd c = false) (next : LaysOut fresh list rest) :
      LaysOut fresh list (c :: rest)
  | lineEnd {fresh : Bool} {c : Char} {list : List (List Char)} {rest : List Char}
      (ends : isLineEnd c = true) (next : LaysOut true list rest) : LaysOut fresh list (c :: rest)
  | comment {comment rest : List Char} {list : List (List Char)}
      (inLine : ∀ c ∈ comment, isLineEnd c = false) (ends : ∀ c ∈ rest.head?, isLineEnd c = true)
      (next : LaysOut true list rest) : LaysOut true list (';' :: comment ++ rest)
  | mark {fresh : Bool} {c : Char} {list : List (List Char)} {rest : List Char}
      (mark : isMark c = true) (next : LaysOut false list rest) :
      LaysOut fresh ([c] :: list) (c :: rest)
  | word {fresh : Bool} {word rest : List Char} {list : List (List Char)}
      (notEmpty : word ≠ []) (plain : ∀ c ∈ word, isBlank c = false ∧ isMark c = false)
      (noComment : fresh = true → word.head? ≠ some ';')
      (apart : ∀ c ∈ rest.head?, isBlank c = true ∨ isMark c = true)
      (next : LaysOut false list rest) : LaysOut fresh (word :: list) (word ++ rest)

/-- The text lays these words out. -/
def IsLayoutOf (list : List String) (text : String) : Prop :=
  LaysOut true (list.map String.toList) text.toList

/-! ## The first line of a text -/

section

variable {c : Char} {text rest : List Char}

/-- The first line of a text, without its end. -/
def firstLine (text : List Char) : List Char :=
  (linesOf text).headD []

/-- The lines behind the first one. -/
def laterLines (text : List Char) : List (List Char) :=
  (linesOf text).tail

theorem linesOf_cons (inLine : isLineEnd c = false) (rest : List Char) :
    linesOf (c :: rest) = attach c (linesOf rest) := by
  have notReturn : c ≠ '\r' := by
    rintro rfl
    exact absurd inLine (by decide)
  rw [linesOf]
  · simp [inLine]
  · intro _ same
    exact absurd same notReturn

theorem firstLine_cons (inLine : isLineEnd c = false) (rest : List Char) :
    firstLine (c :: rest) = c :: firstLine rest := by
  rw [firstLine, firstLine, linesOf_cons inLine]
  cases linesOf rest <;> rfl

theorem laterLines_cons (inLine : isLineEnd c = false) (rest : List Char) :
    laterLines (c :: rest) = laterLines rest := by
  rw [laterLines, laterLines, linesOf_cons inLine]
  cases linesOf rest <;> rfl

theorem firstLine_append {run : List Char} (inLine : ∀ c ∈ run, isLineEnd c = false)
    (rest : List Char) : firstLine (run ++ rest) = run ++ firstLine rest := by
  induction run with
  | nil => rfl
  | cons c run ih =>
    obtain ⟨here, inLine⟩ := List.forall_mem_cons.1 inLine
    rw [List.cons_append, firstLine_cons here, ih inLine, List.cons_append]

theorem laterLines_append {run : List Char} (inLine : ∀ c ∈ run, isLineEnd c = false)
    (rest : List Char) : laterLines (run ++ rest) = laterLines rest := by
  induction run with
  | nil => rfl
  | cons c run ih =>
    obtain ⟨here, inLine⟩ := List.forall_mem_cons.1 inLine
    rw [List.cons_append, laterLines_cons here, ih inLine]

/-- At the end of a line the first line is empty. -/
theorem firstLine_of_ends (ends : ∀ c ∈ text.head?, isLineEnd c = true) : firstLine text = [] := by
  cases text with
  | nil => rfl
  | cons c rest =>
    rw [firstLine, linesOf.eq_def]
    split
    · rfl
    · rfl
    · simp_all

end

/-! ## The words from one place on -/

/-- The words of a text that goes on in a line. The rest of the line may be a comment if `fresh`
holds. -/
def wordsFrom (fresh : Bool) (text : List Char) : List (List Char) :=
  (if fresh && isComment (firstLine text) then [] else wordsOf (spaced (firstLine text))) ++
    (laterLines text).flatMap lineWords

section

variable {fresh : Bool} {c : Char} {rest : List Char}

theorem wordsFrom_true (text : List Char) : wordsFrom true text = wordsOfText text := by
  rw [wordsFrom, wordsOfText, firstLine, laterLines]
  cases linesOf text with
  | nil => rfl
  | cons line lines => simp [lineWords]

theorem wordsFrom_nil : wordsFrom fresh [] = [] := by
  cases fresh <;> rfl

/-- Where a line ends the next one begins. A line feed behind a carriage return ends no line of its
own, but a blank line there would have no words. -/
theorem wordsFrom_lineEnd (ends : isLineEnd c = true) :
    wordsFrom fresh (c :: rest) = wordsFrom true rest := by
  have first : firstLine (c :: rest) = [] := firstLine_of_ends (by simpa using ends)
  have later : (laterLines (c :: rest)).flatMap lineWords = wordsFrom true rest := by
    rw [wordsFrom_true, laterLines, linesOf.eq_def]
    split
    · next same => cases same
    · next cs same =>
      obtain ⟨-, rfl⟩ := List.cons.inj same
      rw [← wordsFrom_true, wordsFrom, firstLine_of_ends (by simp [isLineEnd])]
      rfl
    · next same =>
      obtain ⟨rfl, rfl⟩ := List.cons.inj same
      rw [if_pos ends, List.tail_cons, wordsOfText]
  rw [wordsFrom, first, later]
  cases fresh <;> rfl

theorem isComment_cons_of_blank (blank : isBlank c = true) (line : List Char) :
    isComment (c :: line) = isComment line := by
  rw [isComment, isComment, trimStart, trimStart, List.dropWhile_cons_of_pos blank]

theorem isComment_cons_of_not_blank (notBlank : isBlank c = false) (line : List Char) :
    isComment (c :: line) = (c == ';') := by
  have kept : trimStart (c :: line) = c :: line :=
    List.dropWhile_cons_of_neg (Bool.eq_false_iff.1 notBlank)
  simp [isComment, kept]

theorem spaced_cons_of_free (free : isMark c = false) (line : List Char) :
    spaced (c :: line) = c :: spaced line := by
  rw [spaced, List.flatMap_cons, free]
  rfl

theorem isMark_iff : isMark c = true ↔ c = '[' ∨ c = ']' ∨ c = '"' := by
  simp only [isMark, Bool.or_eq_true, beq_iff_eq, or_assoc]

theorem isBlank_of_mark (mark : isMark c = true) : isBlank c = false := by
  rcases isMark_iff.1 mark with rfl | rfl | rfl <;> decide

/-- A blank in a line is passed over. -/
theorem wordsFrom_blank (blank : isBlank c = true) (inLine : isLineEnd c = false) :
    wordsFrom fresh (c :: rest) = wordsFrom fresh rest := by
  have free : isMark c = false := by
    refine Bool.eq_false_iff.2 ?_
    intro mark
    rw [isBlank_of_mark mark] at blank
    cases blank
  rw [wordsFrom, firstLine_cons inLine, laterLines_cons inLine, isComment_cons_of_blank blank,
    spaced_cons_of_free free, wordsOf_blank blank, ← wordsFrom]

/-- A comment is passed over. -/
theorem wordsFrom_comment {comment : List Char} (inLine : ∀ c ∈ comment, isLineEnd c = false)
    (ends : ∀ c ∈ rest.head?, isLineEnd c = true) :
    wordsFrom true (';' :: comment ++ rest) = wordsFrom true rest := by
  have inLine' : ∀ c ∈ ';' :: comment, isLineEnd c = false :=
    List.forall_mem_cons.2 ⟨by decide, inLine⟩
  rw [wordsFrom, wordsFrom, firstLine_append inLine', laterLines_append inLine',
    firstLine_of_ends ends, List.cons_append, isComment_cons_of_not_blank (by decide)]
  rfl

/-- A mark is a word. -/
theorem wordsFrom_mark (mark : isMark c = true) :
    wordsFrom fresh (c :: rest) = [c] :: wordsFrom false rest := by
  have notBlank := isBlank_of_mark mark
  have inLine : isLineEnd c = false := by
    refine Bool.eq_false_iff.2 ?_
    intro ends
    rw [isBlank_of_isLineEnd ends] at notBlank
    cases notBlank
  have noComment : (c == ';') = false := by
    rcases isMark_iff.1 mark with rfl | rfl | rfl <;> decide
  have apart : spaced (c :: firstLine rest) = ' ' :: ([c] ++ ' ' :: spaced (firstLine rest)) := by
    rw [spaced, List.flatMap_cons, mark]
    rfl
  have space : isBlank ' ' = true := by decide
  rw [wordsFrom, wordsFrom, firstLine_cons inLine, laterLines_cons inLine,
    isComment_cons_of_not_blank notBlank, noComment, apart, wordsOf_blank space,
    wordsOf_append_blank (List.cons_ne_nil _ _) (by simpa using notBlank) space,
    wordsOf_blank space]
  simp

/-- In front of a blank or a mark a run without either ends, once the marks are spaced. -/
theorem wordsOf_spaced_cons_append {word line : List Char} (notEmpty : word ≠ [])
    (plain : ∀ c ∈ word, isBlank c = false ∧ isMark c = false)
    (apart : ∀ c ∈ line.head?, isBlank c = true ∨ isMark c = true) :
    wordsOf (spaced (word ++ line)) = word :: wordsOf (spaced line) := by
  have solid : ∀ c ∈ word, isBlank c = false := fun c member => (plain c member).1
  rw [spaced_append, spaced_of_free fun c member => (plain c member).2]
  cases line with
  | nil =>
    rw [show spaced [] = [] from rfl, List.append_nil, wordsOf_of_solid notEmpty solid]
    rfl
  | cons c line =>
    obtain ⟨blank, after, isBlank_blank, split⟩ : ∃ blank after, isBlank blank = true ∧
        spaced (c :: line) = blank :: after := by
      by_cases mark : isMark c = true
      · refine ⟨' ', c :: ' ' :: spaced line, by decide, ?_⟩
        rw [spaced, List.flatMap_cons, if_pos mark]
        rfl
      · have blank := (apart c rfl).resolve_right mark
        exact ⟨c, _, blank, spaced_cons_of_free (Bool.eq_false_iff.2 mark) line⟩
    rw [split, wordsOf_append_blank notEmpty solid isBlank_blank]

/-- What the first line begins with is what the text begins with, if it is no line end. -/
theorem mem_head?_of_firstLine {text : List Char} (isHead : c ∈ (firstLine text).head?) :
    c ∈ text.head? := by
  cases text with
  | nil => cases isHead
  | cons d rest =>
    cases ends : isLineEnd d with
    | true =>
      rw [firstLine_of_ends (by simpa using ends)] at isHead
      cases isHead
    | false => rwa [firstLine_cons ends] at isHead

/-- A run without blanks and marks is a word, if a blank, a mark or nothing follows. -/
theorem wordsFrom_word {word : List Char} (notEmpty : word ≠ [])
    (plain : ∀ c ∈ word, isBlank c = false ∧ isMark c = false)
    (noComment : fresh = true → word.head? ≠ some ';')
    (apart : ∀ c ∈ rest.head?, isBlank c = true ∨ isMark c = true) :
    wordsFrom fresh (word ++ rest) = word :: wordsFrom false rest := by
  have inLine : ∀ c ∈ word, isLineEnd c = false := by
    intro c member
    refine Bool.eq_false_iff.2 ?_
    intro ends
    exact absurd ((isBlank_of_isLineEnd ends).symm.trans (plain c member).1) Bool.noConfusion
  have goesOn : (fresh && isComment (word ++ firstLine rest)) = false := by
    cases word with
    | nil => exact absurd rfl notEmpty
    | cons c word =>
      rw [List.cons_append, isComment_cons_of_not_blank (plain c List.mem_cons_self).1]
      cases fresh with
      | false => rfl
      | true => simpa using noComment rfl
  rw [wordsFrom, wordsFrom, firstLine_append inLine, laterLines_append inLine, goesOn,
    if_neg Bool.false_ne_true, wordsOf_spaced_cons_append notEmpty plain
      fun c isHead => apart c (mem_head?_of_firstLine isHead)]
  rfl

end

/-! ## Layouts and words -/

/-- The words that a text lays out are found. -/
theorem LaysOut.wordsFrom_eq {fresh : Bool} {list : List (List Char)} {text : List Char}
    (laysOut : LaysOut fresh list text) : wordsFrom fresh text = list := by
  induction laysOut with
  | nil => exact wordsFrom_nil
  | blank blank inLine _ ih => rw [wordsFrom_blank blank inLine, ih]
  | lineEnd ends _ ih => rw [wordsFrom_lineEnd ends, ih]
  | comment inLine ends _ ih => rw [wordsFrom_comment inLine ends, ih]
  | mark mark _ ih => rw [wordsFrom_mark mark, ih]
  | word notEmpty plain noComment apart _ ih =>
    rw [wordsFrom_word notEmpty plain noComment apart, ih]

/-- Every text lays out the words that are found in it. -/
theorem laysOut_wordsFrom (fresh : Bool) (text : List Char) :
    LaysOut fresh (wordsFrom fresh text) text := by
  match text with
  | [] =>
    rw [wordsFrom_nil]
    exact .nil
  | c :: rest =>
    by_cases ends : isLineEnd c = true
    · rw [wordsFrom_lineEnd ends]
      exact .lineEnd ends (laysOut_wordsFrom true rest)
    have inLine := Bool.eq_false_iff.2 ends
    by_cases blank : isBlank c = true
    · rw [wordsFrom_blank blank inLine]
      exact .blank blank inLine (laysOut_wordsFrom fresh rest)
    by_cases mark : isMark c = true
    · rw [wordsFrom_mark mark]
      exact .mark mark (laysOut_wordsFrom false rest)
    by_cases begins : fresh = true ∧ c = ';'
    · -- A comment, up to the end of the line.
      obtain ⟨rfl, rfl⟩ := begins
      obtain ⟨comment, after, split, inLine, ends⟩ := exists_run (fun c => !isLineEnd c) rest
      have shorter : after.length ≤ rest.length := by simp [split]
      simp only [List.all_eq_true, Bool.not_eq_true', Bool.not_eq_false'] at inLine ends
      rw [split, ← List.cons_append, wordsFrom_comment inLine ends]
      exact .comment inLine ends (laysOut_wordsFrom true after)
    · -- A word, up to the next blank or mark.
      obtain ⟨more, after, split, plain, apart⟩ :=
        exists_run (fun c => !isBlank c && !isMark c) rest
      have shorter : after.length ≤ rest.length := by simp [split]
      simp only [List.all_eq_true, Bool.and_eq_true, Bool.not_eq_true', Bool.and_eq_false_iff,
        Bool.not_eq_false'] at plain apart
      have plain' : ∀ d ∈ c :: more, isBlank d = false ∧ isMark d = false :=
        List.forall_mem_cons.2 ⟨⟨Bool.eq_false_iff.2 blank, Bool.eq_false_iff.2 mark⟩, plain⟩
      have noComment : fresh = true → (c :: more).head? ≠ some ';' := by
        intro isFresh same
        exact begins ⟨isFresh, Option.some.inj same⟩
      rw [split, ← List.cons_append,
        wordsFrom_word (List.cons_ne_nil c more) plain' noComment apart]
      exact .word (List.cons_ne_nil c more) plain' noComment apart (laysOut_wordsFrom false after)
termination_by text.length
decreasing_by all_goals simp only [List.length_cons]; omega

/-- A text has exactly the words that it lays out. -/
theorem words_eq_iff {text : String} {list : List String} :
    words text = list ↔ IsLayoutOf list text := by
  have wordsFrom_eq : (words text).map String.toList = wordsFrom true text.toList := by
    rw [wordsFrom_true, words, List.map_map]
    simp [Function.comp_def]
  constructor
  · rintro rfl
    rw [IsLayoutOf, wordsFrom_eq]
    exact laysOut_wordsFrom true text.toList
  · intro isLayout
    refine List.map_injective_iff.2 (fun _ _ => String.toList_inj.1) ?_
    exact wordsFrom_eq.trans isLayout.wordsFrom_eq

/-- Words that are laid out are marks, or have neither marks nor blanks in them. -/
theorem LaysOut.isWritable {fresh : Bool} {list : List (List Char)} {text : List Char}
    (laysOut : LaysOut fresh list text) :
    ∀ word ∈ list, isWritable (String.ofList word) = true := by
  induction laysOut with
  | nil => exact fun _ member => absurd member List.not_mem_nil
  | blank _ _ _ ih | lineEnd _ _ ih | comment _ _ _ ih => exact ih
  | mark mark _ ih =>
    refine List.forall_mem_cons.2 ⟨?_, ih⟩
    rcases isMark_iff.1 mark with rfl | rfl | rfl <;> decide
  | word notEmpty plain _ _ _ ih =>
    refine List.forall_mem_cons.2 ⟨?_, ih⟩
    rw [Definition.isWritable, isPlain_iff.2, Bool.true_or]
    rw [String.toList_ofList]
    exact ⟨notEmpty, plain⟩

/-! ## Definitions -/

/-- Each word of definitions is a mark, or is not empty and has neither marks nor blanks in it. A
text has the same words exactly if it lays them out, in lines of any kind and with any comments, and
then it is read in the same way by every site. -/
theorem layout_of_definitions_is_free (text : String) :
    (∀ word ∈ words text, isWritable word = true) ∧
      (∀ other : String, IsLayoutOf (words text) other ↔ words other = words text) ∧
      ∀ other : String, IsLayoutOf (words text) other → ∀ site, parse site other = parse site text := by
  refine ⟨?_, fun other => words_eq_iff.symm, ?_⟩
  · intro word member
    have writable := (words_eq_iff.1 rfl : IsLayoutOf (words text) text).isWritable word.toList
      (List.mem_map_of_mem member)
    rwa [String.ofList_toList] at writable
  · intro other isLayout site
    rw [parse, parse, words_eq_iff.2 isLayout]

/-- Line ends and blanks of several kinds, brackets with nothing around them, a comment with marks
in it, another one that is indented, and a word that begins with a semicolon. -/
theorem scattered_words_are_read_alike :
    IsLayoutOf (words "; words\nPlot X Eval [ Temp ] ;x")
        "\t\u2028;\"[\nPlot\x1cX\u00a0Eval[Temp\r\n\r\n  ; more\x0b];x" ∧
      words "\t\u2028;\"[\nPlot\x1cX\u00a0Eval[Temp\r\n\r\n  ; more\x0b];x" =
        ["Plot", "X", "Eval", "[", "Temp", "]", ";x"] ∧
      ∀ site, parse site "\t\u2028;\"[\nPlot\x1cX\u00a0Eval[Temp\r\n\r\n  ; more\x0b];x" =
        parse site "; words\nPlot X Eval [ Temp ] ;x" := by
  obtain ⟨_, layouts, alike⟩ := layout_of_definitions_is_free "; words\nPlot X Eval [ Temp ] ;x"
  have found : words "\t\u2028;\"[\nPlot\x1cX\u00a0Eval[Temp\r\n\r\n  ; more\x0b];x" =
      ["Plot", "X", "Eval", "[", "Temp", "]", ";x"] := by decide
  have found' : words "; words\nPlot X Eval [ Temp ] ;x" =
      ["Plot", "X", "Eval", "[", "Temp", "]", ";x"] := by decide
  have isLayout := (layouts _).2 (found.trans found'.symm)
  exact ⟨isLayout, found, alike _ isLayout⟩

end Meteogram.Definition
