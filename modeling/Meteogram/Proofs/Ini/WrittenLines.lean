import Meteogram.Ini.Write
import Meteogram.Proofs.Ini.SoundReading
import Meteogram.Proofs.Text.Decimals
import Meteogram.Proofs.Text.Identifier
import Meteogram.Time.Format

/-!
# Written lines are read again

Comments of a document that was read are written as comments (`exists_readAs_comments`). A setting
with a plain key and a plain text is written on a line that is read as this setting
(`isKept_of_plain`).
-/

set_option autoImplicit false

namespace Meteogram.Ini

open Meteogram.Text

/-- The lines of a file have these items, and none of them looks like the start of a marked file. -/
structure ReadAs (lines : List String) (items : List Item) : Prop where
  items : items? (lines.flatMap fun line => linesOfText line.toList) none = some items
  unmarked : ∀ line ∈ lines, line.toList.head? ≠ some encodingMark

theorem readAs_nil : ReadAs [] [] :=
  ⟨rfl, fun _ member => (by cases member)⟩

theorem ReadAs.append {lines more : List String} {items others : List Item}
    (first : ReadAs lines items) (second : ReadAs more others) :
    ReadAs (lines ++ more) (items ++ others) := by
  refine ⟨?_, List.forall_mem_append.2 ⟨first.unmarked, second.unmarked⟩⟩
  rw [List.flatMap_append, items?_append first.items, second.items]
  rfl

/-! ## Blanks and comments -/

section

variable {cs blanks : List Char} {c : Char}

theorem trimStart_cons_of_blank (blank : isBlank c = true) (cs : List Char) :
    trimStart (c :: cs) = trimStart cs :=
  List.dropWhile_cons_of_pos blank

theorem trimStart_cons_of_not_blank (notBlank : isBlank c = false) (cs : List Char) :
    trimStart (c :: cs) = c :: cs :=
  List.dropWhile_cons_of_neg (by rw [notBlank]; exact Bool.false_ne_true)

theorem trimStart_append_of_blank (areBlank : ∀ c ∈ blanks, isBlank c = true) (cs : List Char) :
    trimStart (blanks ++ cs) = trimStart cs :=
  List.dropWhile_append_of_pos areBlank

theorem trimEnd_cons_of_not_blank (notBlank : isBlank c = false) (cs : List Char) :
    trimEnd (c :: cs) = c :: trimEnd cs := by
  rw [trimEnd, trimEnd, List.reverse_cons, List.dropWhile_append]
  split
  · next empty =>
    have kept : [c].dropWhile isBlank = [c] :=
      List.dropWhile_cons_of_neg (by rw [notBlank]; exact Bool.false_ne_true)
    rw [List.isEmpty_iff.1 empty, kept]
    rfl
  · rw [List.reverse_append]
    rfl

theorem trimEnd_append_of_blank (areBlank : ∀ c ∈ blanks, isBlank c = true) (cs : List Char) :
    trimEnd (cs ++ blanks) = trimEnd cs := by
  have areBlank' : ∀ c ∈ blanks.reverse, isBlank c = true :=
    fun c member => areBlank c (List.mem_reverse.1 member)
  rw [trimEnd, trimEnd, List.reverse_append, List.dropWhile_append_of_pos areBlank']

theorem trimEnd_of_getLast? (notBlank : ∀ c ∈ cs.getLast?, isBlank c = false) : trimEnd cs = cs := by
  rw [← List.head?_reverse] at notBlank
  rw [trimEnd]
  cases reversed : cs.reverse with
  | nil => exact (List.reverse_eq_nil_iff.1 reversed).symm
  | cons d ds =>
    rw [reversed] at notBlank
    have kept : ¬ isBlank d = true := Bool.eq_false_iff.1 (notBlank d rfl)
    rw [List.dropWhile_cons_of_neg kept, ← reversed, List.reverse_reverse]

/-- A comment without the end of its line is a comment. -/
theorem isComment_withoutEnd (holds : isComment (trimStart cs) = true) :
    isComment (trimStart (withoutEnd cs)) = true := by
  induction cs with
  | nil => rfl
  | cons c cs ih =>
    rw [withoutEnd_cons]
    split
    · rfl
    · cases blank : isBlank c with
      | true =>
        rw [trimStart_cons_of_blank blank] at holds ⊢
        exact ih holds
      | false =>
        rw [trimStart_cons_of_not_blank blank] at holds ⊢
        exact holds

/-- Only blanks stand in front of the number sign of a comment. -/
theorem isBlank_takeWhile_of_isComment (holds : isComment (trimStart cs) = true) :
    ∀ c ∈ cs.takeWhile (fun d => d != '#'), isBlank c = true := by
  induction cs with
  | nil => exact fun _ member => (by cases member)
  | cons c cs ih =>
    rw [List.takeWhile_cons]
    cases blank : isBlank c with
    | true =>
      rw [trimStart_cons_of_blank blank] at holds
      split
      · exact List.forall_mem_cons.2 ⟨blank, ih holds⟩
      · exact fun _ member => (by cases member)
    | false =>
      rw [trimStart_cons_of_not_blank blank] at holds
      rw [if_neg (by simpa [isComment] using holds)]
      exact fun _ member => (by cases member)

theorem head?_ne_mark_of_isComment (holds : isComment (trimStart cs) = true) :
    cs.head? ≠ some encodingMark := by
  cases cs with
  | nil => exact (Option.some_ne_none _).symm
  | cons c cs =>
    rintro ⟨⟩
    rw [trimStart_cons_of_not_blank (by decide)] at holds
    cases holds

end

/-- A comment line is a comment. -/
theorem isComment_commentLine (line : String) :
    isComment (trimStart (commentLine line).toList) = true := by
  rw [commentLine]
  split
  · rw [String.toList_append]
    exact congrArg isComment (trimStart_cons_of_not_blank (by decide) _)
  · next isKept =>
    cases rest : trimStart line.toList with
    | nil => rfl
    | cons c cs =>
      have notBlank : isBlank c = false := by
        have first := List.head?_dropWhile_not isBlank line.toList
        rw [← trimStart, rest] at first
        exact first
      have bare : trimmed line = String.ofList (c :: trimEnd cs) := by
        rw [trimmed, trim, rest, trimEnd_cons_of_not_blank notBlank]
      rw [bare, startsWith, String.toList_ofList, Bool.and_eq_true, not_and] at isKept
      have notEmpty : (String.ofList (c :: trimEnd cs) != "") = true := by
        rw [bne_iff_ne]
        intro same
        have := congrArg String.toList same
        rw [String.toList_ofList] at this
        cases this
      by_contra noMark
      refine isKept notEmpty ?_
      have other : ¬ '#' = c := fun same => noMark (by rw [← same]; rfl)
      rw [String.toList_ofList, afterPrefix?, if_neg other]
      rfl

theorem isOneLine_commentLine {line : String} (oneLine : IsOneLine line) :
    IsOneLine (commentLine line) := by
  rw [commentLine]
  split
  · rw [IsOneLine, String.toList_append, List.mem_append, not_or]
    exact ⟨by decide, oneLine⟩
  · exact oneLine

/-- Comment lines are read again as comments. -/
theorem exists_readAs_comments {lines : List String} (oneLine : ∀ line ∈ lines, IsOneLine line)
    (comments : ∀ line ∈ lines, isComment (trimStart line.toList) = true) :
    ∃ found : List (List Char), ReadAs lines (found.map Item.comment) := by
  refine ⟨lines.map fun line => withoutEnd line.toList, ?_,
    fun line member => head?_ne_mark_of_isComment (comments line member)⟩
  induction lines with
  | nil => rfl
  | cons line lines ih =>
    obtain ⟨here, oneLine⟩ := List.forall_mem_cons.1 oneLine
    obtain ⟨first, comments⟩ := List.forall_mem_cons.1 comments
    rw [List.flatMap_cons, linesOfText, fieldsOf_of_not_mem here, List.map_singleton,
      List.singleton_append, items?, item?, if_pos (isComment_withoutEnd first)]
    dsimp only [bind, Option.bind]
    rw [ih oneLine comments]
    rfl

/-! ## Indentation -/

section

variable {indent : String} (isIndent : IsIndent indent.toList)

include isIndent

theorem isIndent_indentBy (depth : Nat) : IsIndent (indentBy indent depth).toList := by
  rw [indentBy, String.toList_join]
  intro c member
  obtain ⟨one, inList, inside⟩ := List.mem_flatMap.1 member
  exact isIndent c (List.eq_of_mem_replicate inList ▸ inside)

theorem trimStart_indentBy (depth : Nat) (cs : List Char) :
    trimStart ((indentBy indent depth).toList ++ cs) = trimStart cs :=
  trimStart_append_of_blank (fun c member => (isIndent_indentBy isIndent depth c member).1) cs

/-- The comments above an entry are read again as comments. -/
theorem exists_readAs_aboveLines {margin : Margin} (sound : margin.IsSound) (depth : Nat) :
    ∃ found : List (List Char), ReadAs (aboveLines indent depth margin) (found.map Item.comment) := by
  refine exists_readAs_comments (List.forall_mem_map.2 fun line member => ?_)
    (List.forall_mem_map.2 fun line member => ?_)
  · have bare : IsOneLine (String.ofList (trimStart line.toList)) := by
      rw [IsOneLine, String.toList_ofList]
      exact fun inside => sound.above line member (trimStart_subset _ inside)
    rw [IsOneLine, String.toList_append, List.mem_append, not_or]
    exact ⟨fun inside => (isIndent_indentBy isIndent depth _ inside).2 rfl,
      isOneLine_commentLine bare⟩
  · rw [String.toList_append, trimStart_indentBy isIndent]
    exact isComment_commentLine _

end

/-! ## Plain settings -/

/-- The key is read as it is written. -/
structure IsPlainKey (key : List Char) : Prop where
  begins : ∀ c ∈ key.head?, isBlank c = false ∧ isQuote c = false ∧ c ∉ ['#', '[', '=', encodingMark]
  ends : ∀ c ∈ key.getLast?, isBlank c = false
  oneLine : '\n' ∉ key
  noEquals : '=' ∉ key
  notEmpty : key ≠ []

/-- The text is read as it is written. -/
structure IsPlainText (text : List Char) : Prop where
  begins : ∀ c ∈ text.head?, isBlank c = false ∧ isQuote c = false
  ends : ∀ c ∈ text.getLast?, isBlank c = false
  oneLine : '\n' ∉ text
  noMark : '#' ∉ text
  notEmpty : text ≠ []

section

variable {c : Char} {cs key text front behind rest : List Char}

/-- Only behind the last character that is no end of a line is something cut off. -/
theorem withoutEnd_append (notEmpty : front ≠ []) (ends : ∀ c ∈ front.getLast?, isBlank c = false)
    (behind : List Char) : withoutEnd (front ++ behind) = front ++ withoutEnd behind := by
  induction front with
  | nil => exact absurd rfl notEmpty
  | cons c cs ih =>
    rw [List.cons_append, withoutEnd_cons]
    cases cs with
    | nil =>
      have notBlank := ends c rfl
      have noEnd : (c == '\r' || c == '\n') = false := by
        rw [Bool.or_eq_false_iff, beq_eq_false_iff_ne, beq_eq_false_iff_ne]
        constructor
        · rintro rfl
          exact absurd notBlank (by decide)
        · rintro rfl
          exact absurd notBlank (by decide)
      rw [noEnd, Bool.and_false]
      rfl
    | cons d ds =>
      rw [ih (List.cons_ne_nil _ _) ends]
      rfl

/-- The first equals sign ends a key. -/
theorem untilMarks?_equals (free : '=' ∉ front) (behind : List Char) :
    untilMarks? ['='] some (front ++ '=' :: behind) = some (front, behind) := by
  induction front with
  | nil => rfl
  | cons c cs ih =>
    rw [List.mem_cons, not_or] at free
    have other : afterPrefix? ['='] (c :: (cs ++ '=' :: behind)) = none := by
      rw [afterPrefix?, if_neg free.1]
    rw [untilMarks?] at ih ⊢
    rw [List.cons_append, firstSplit?, other, ih free.2]
    rfl

theorem tripleQuote?_of_not_quote (noQuote : isQuote c = false) (cs : List Char) :
    tripleQuote? (c :: cs) = none := by
  match cs with
  | [] | [_] => rfl
  | a :: b :: more => rw [tripleQuote?, noQuote, Bool.false_and, Bool.false_and, if_neg Bool.false_ne_true]

/-- Without its first character, a text ends as before, or is empty. -/
theorem notBlank_of_tail {cs : List Char} (ends : ∀ d ∈ (c :: cs).getLast?, isBlank d = false) :
    ∀ d ∈ cs.getLast?, isBlank d = false := by
  cases cs with
  | nil => exact fun _ none => (by cases none)
  | cons d ds => exact ends

theorem IsPlainText.textAndComment? (plain : IsPlainText text)
    (comment : isComment (trimStart rest) = true) : ∃ beside,
    Ini.textAndComment? (text ++ rest) = some (text, beside) := by
  cases text with
  | nil => exact absurd rfl plain.notEmpty
  | cons d ds =>
    have noMark := plain.noMark
    rw [List.mem_cons, not_or] at noMark
    have isText : ∀ c ∈ ds, (c != '#') = true := by
      intro c member
      rw [bne_iff_ne]
      rintro rfl
      exact noMark.2 member
    have ends := notBlank_of_tail plain.ends
    refine ⟨(ds ++ rest).dropWhile fun d => d != '#', ?_⟩
    rw [List.cons_append, Ini.textAndComment?, (plain.begins d rfl).2, if_neg Bool.false_ne_true,
      if_neg (Ne.symm noMark.1)]
    dsimp only
    rw [List.takeWhile_append_of_pos isText, trimEnd_append_of_blank
      (isBlank_takeWhile_of_isComment comment), trimEnd_of_getLast? ends]

/-- A plain key stands in front of the equals sign. -/
theorem IsPlainKey.assignment? {cs behind : List Char} (plain : IsPlainKey (c :: cs))
    (areBlank : ∀ c ∈ front, isBlank c = true) :
    Ini.assignment? (front ++ (c :: ((cs ++ [' ']) ++ '=' :: behind))) =
      some ⟨front, c :: cs, trimStart behind⟩ := by
  obtain ⟨notBlank, noQuote, others⟩ := plain.begins c rfl
  simp only [List.mem_cons, List.not_mem_nil, or_false, not_or] at others
  obtain ⟨_, _, noEquals, _⟩ := others
  have noBlank : ¬ isBlank c = true := Bool.eq_false_iff.1 notBlank
  have free := plain.noEquals
  rw [List.mem_cons, not_or] at free
  have freeBlank : '=' ∉ cs ++ [' '] := by
    rw [List.mem_append, not_or]
    exact ⟨free.2, by decide⟩
  have keyText : trimEnd (cs ++ [' ']) = cs := by
    rw [trimEnd_append_of_blank (List.forall_mem_singleton.2 (by decide)),
      trimEnd_of_getLast? (notBlank_of_tail plain.ends)]
  rw [Ini.assignment?, List.takeWhile_append_of_pos areBlank, List.dropWhile_append_of_pos areBlank,
    List.takeWhile_cons_of_neg noBlank, List.dropWhile_cons_of_neg noBlank, List.append_nil]
  dsimp only
  rw [noQuote, if_neg Bool.false_ne_true, if_neg noEquals, plainKey?, untilMarks?_equals freeBlank]
  dsimp only [Option.map]
  rw [keyText]
  rfl

/-- A line with a plain key and a plain text is read as their setting. -/
theorem exists_item?_plain (plainKey : IsPlainKey key) (plainText : IsPlainText text)
    (areBlank : ∀ c ∈ front, isBlank c = true) (comment : isComment (trimStart rest) = true) :
    ∃ assignment beside, assignment.key = key ∧
      item? (front ++ (key ++ ([' ', '=', ' '] ++ (text ++ rest)))) =
        some (.inl (.setting assignment text beside)) := by
  obtain ⟨beside, isText⟩ := plainText.textAndComment? comment
  cases key with
  | nil => exact absurd rfl plainKey.notEmpty
  | cons c cs =>
    cases text with
    | nil => exact absurd rfl plainText.notEmpty
    | cons d ds =>
      obtain ⟨notBlank, _, others⟩ := plainKey.begins c rfl
      simp only [List.mem_cons, List.not_mem_nil, or_false, not_or] at others
      obtain ⟨noMark, noBracket, _, _⟩ := others
      have start : trimStart (' ' :: (d :: ds ++ rest)) = d :: ds ++ rest := by
        rw [trimStart_cons_of_blank (by decide)]
        exact trimStart_cons_of_not_blank (plainText.begins d rfl).1 _
      have line : (c :: cs) ++ ([' ', '=', ' '] ++ (d :: ds ++ rest)) =
          c :: ((cs ++ [' ']) ++ '=' :: (' ' :: (d :: ds ++ rest))) := by
        simp only [List.cons_append, List.nil_append, List.append_assoc]
      refine ⟨⟨front, c :: cs, d :: ds ++ rest⟩, beside, rfl, ?_⟩
      rw [line, item?, trimStart_append_of_blank areBlank, trimStart_cons_of_not_blank notBlank,
        isComment, beq_eq_false_iff_ne.2 noMark, if_neg Bool.false_ne_true, head?,
        trimStart_append_of_blank areBlank, trimStart_cons_of_not_blank notBlank]
      dsimp only
      rw [List.head?_cons, if_neg (mt Option.some.inj noBracket)]
      dsimp only
      rw [plainKey.assignment? areBlank, start]
      dsimp only [bind, Option.bind]
      rw [List.cons_append, tripleQuote?_of_not_quote (plainText.begins d rfl).2]
      dsimp only
      rw [← List.cons_append, isText]
      rfl

end

/-! ## Written entries -/

/-- The line of a setting with its written text, below its comments. -/
def settingLine (indent : String) (depth : Nat) (setting : Setting) (text : String) : String :=
  indentBy indent depth ++ writtenName setting.key ++ " = " ++ text ++
    besideText indent setting.margin.beside

/-- The line of the head of a section, below its comments. -/
def headLine (indent : String) (depth : Nat) (name : String) (margin : Margin) : String :=
  let brackets (c : Char) := String.ofList (List.replicate (depth + 1) c)
  indentBy indent depth ++ brackets '[' ++ writtenName name ++ brackets ']' ++
    besideText indent margin.beside

/-- The setting is read from its written line as it is. -/
def Setting.IsKept (indent : String) (depth : Nat) (setting : Setting) : Prop :=
  ∀ text, writtenText setting.text = .ok text → ∃ assignment value beside,
    ReadAs [settingLine indent depth setting text] [.setting assignment value beside] ∧
      String.ofList assignment.key = setting.key ∧ String.ofList value = setting.text

/-- The head of a section is read from its written line as it is. -/
def IsKeptHead (indent : String) (depth : Nat) (name : String) (margin : Margin) : Prop :=
  ∃ head : Head, ReadAs [headLine indent depth name margin] [.head head] ∧
    head.opened = depth + 1 ∧ head.closed = depth + 1 ∧ String.ofList head.name = name

section

variable {indent : String} {depth : Nat}

theorem contains_of_not_mem {text : String} {c : Char} (free : c ∉ text.toList) :
    contains text (String.singleton c) = false := by
  rw [contains, String.toList_singleton]
  generalize text.toList = cs at free ⊢
  induction cs with
  | nil => rfl
  | cons d ds ih =>
    rw [List.mem_cons, not_or] at free
    rw [hasPart, afterPrefix?, if_neg free.1, ih free.2]
    rfl

theorem writtenText_of_plain {text : String} (plain : IsPlainText text.toList) :
    writtenText text = .ok text := by
  have notEmpty : text ≠ "" := fun same => plain.notEmpty (by rw [same]; rfl)
  have noLines : contains text "\n" = false := contains_of_not_mem plain.oneLine
  have noMark : contains text "#" = false := contains_of_not_mem plain.noMark
  rw [writtenText, if_neg notEmpty, noLines, noMark, Bool.and_false, Bool.or_false, if_neg Bool.false_ne_true]

/-- What stands beside an entry is a comment of one line. -/
theorem besideText_spec (isIndent : IsIndent indent.toList) {margin : Margin} (sound : margin.IsSound) :
    '\n' ∉ (besideText indent margin.beside).toList ∧
      isComment (trimStart (besideText indent margin.beside).toList) = true := by
  rw [besideText]
  split
  · exact ⟨List.not_mem_nil, rfl⟩
  · rw [String.toList_append, List.mem_append, not_or,
      trimStart_append_of_blank fun c member => (isIndent c member).1]
    refine ⟨⟨fun member => (isIndent _ member).2 rfl, sound.beside⟩, ?_⟩
    have comment := sound.comment
    cases beside : margin.beside.toList with
    | nil => rfl
    | cons c cs =>
      rw [beside] at comment
      obtain rfl : c = '#' := beq_iff_eq.1 comment
      rfl

/-- A plain setting is kept, whatever comments it has. -/
theorem Setting.isKept_of_plain (isIndent : IsIndent indent.toList) {setting : Setting}
    (sound : setting.margin.IsSound) (plainKey : IsPlainKey setting.key.toList)
    (plainText : IsPlainText setting.text.toList) : setting.IsKept indent depth := by
  intro text written
  obtain rfl := Except.ok.inj ((writtenText_of_plain plainText).symm.trans written)
  obtain ⟨oneLine, comment⟩ := besideText_spec isIndent sound
  have isIndent' := isIndent_indentBy isIndent depth
  have name : writtenName setting.key = setting.key :=
    if_neg fun same => plainKey.notEmpty (by rw [same]; rfl)
  have chars : (settingLine indent depth setting setting.text).toList =
      ((indentBy indent depth).toList ++ (setting.key.toList ++ ([' ', '=', ' '] ++
        setting.text.toList))) ++ (besideText indent setting.margin.beside).toList := by
    have equals : " = ".toList = [' ', '=', ' '] := rfl
    rw [settingLine, name]
    simp only [String.toList_append, List.append_assoc, equals]
  have ends : ∀ c ∈ ((indentBy indent depth).toList ++ (setting.key.toList ++ ([' ', '=', ' '] ++
      setting.text.toList))).getLast?, isBlank c = false := by
    rw [List.getLast?_append_of_ne_nil _ (by simp), List.getLast?_append_of_ne_nil _ (by simp),
      List.getLast?_append_of_ne_nil _ plainText.notEmpty]
    exact plainText.ends
  have noEnd : '\n' ∉ (settingLine indent depth setting setting.text).toList := by
    rw [chars]
    simp only [List.mem_append, not_or]
    exact ⟨⟨fun member => (isIndent' _ member).2 rfl, plainKey.oneLine, by decide, plainText.oneLine⟩,
      oneLine⟩
  obtain ⟨assignment, beside, sameKey, found⟩ := exists_item?_plain plainKey plainText
    (fun c member => (isIndent' c member).1) (isComment_withoutEnd comment)
  refine ⟨assignment, setting.text.toList, beside, ⟨?_, ?_⟩, ?_, String.ofList_toList⟩
  · rw [List.flatMap_singleton, linesOfText, fieldsOf_of_not_mem noEnd, List.map_singleton, chars,
      withoutEnd_append (by simp) ends]
    simp only [List.append_assoc]
    rw [items?, found]
    rfl
  · rw [List.forall_mem_singleton, chars]
    cases front : (indentBy indent depth).toList with
    | nil =>
      cases key : setting.key.toList with
      | nil => exact absurd key plainKey.notEmpty
      | cons c cs =>
        rintro ⟨⟩
        have others := (plainKey.begins encodingMark (by rw [key]; rfl)).2.2
        exact others (by decide)
    | cons c cs =>
      rintro ⟨⟩
      have blank := (isIndent' encodingMark (front ▸ List.mem_cons_self)).1
      exact absurd blank (by decide)
  · rw [sameKey, String.ofList_toList]

end

/-! ## Written times -/

/-- The part is a number. -/
def IsNumber : Time.Part → Bool
  | .mark _ | .gap => false
  | _ => true

/-- The characters that stand between the numbers of a time. -/
def timeMarks : List Char := ['/', '-', ':', 'T']

/-- The part is no mark but one of those between the numbers of a time. -/
def isPlainPart : Time.Part → Bool
  | .mark c => timeMarks.contains c
  | _ => true

theorem toList_toString (n : Nat) : (toString n).toList ≠ [] ∧
    ∀ c ∈ (toString n).toList, c.isDigit = true := by
  refine ⟨?_, digits_toString n⟩
  rw [Nat.toString_eq_repr, Nat.toList_repr]
  exact Nat.toDigits_ne_nil

theorem toList_write_number {part : Time.Part} (isNumber : IsNumber part = true)
    (moment : Time.Moment) : (part.write moment).toList ≠ [] ∧
      ∀ c ∈ (part.write moment).toList, c.isDigit = true := by
  have twoDigits : ∀ n, (Time.twoDigits n).toList ≠ [] ∧
      ∀ c ∈ (Time.twoDigits n).toList, c.isDigit = true := by
    intro n
    obtain ⟨notEmpty, digits⟩ := toList_toString n
    rw [Time.twoDigits]
    split
    · rw [String.toList_append]
      exact ⟨List.append_ne_nil_of_right_ne_nil _ notEmpty,
        List.forall_mem_append.2 ⟨List.forall_mem_singleton.2 rfl, digits⟩⟩
    · exact ⟨notEmpty, digits⟩
  cases part with
  | mark c => cases isNumber
  | gap => cases isNumber
  | fullYear => exact toList_toString _
  | day => exact twoDigits _
  | month => exact twoDigits _
  | shortYear => exact twoDigits _
  | hour => exact twoDigits _
  | minute => exact twoDigits _
  | second => exact twoDigits _

theorem not_blank_of_isDigit {c : Char} (digit : c.isDigit = true) :
    isBlank c = false ∧ isQuote c = false ∧ c ≠ '#' ∧ c ≠ '\n' := by
  obtain ⟨least, most⟩ := (isDigit_iff c).1 digit
  refine ⟨?_, ?_, ?_, ?_⟩
  · simp [isBlank]
    omega
  · have notDouble : c ≠ '"' := by
      rintro rfl
      exact absurd digit (by decide)
    simp [isQuote, notDouble]
    omega
  · rintro rfl
    exact absurd digit (by decide)
  · rintro rfl
    exact absurd digit (by decide)

/-- A time that starts and ends with a number is a plain text. -/
theorem isPlainText_write (first last : Time.Part) {middle : List Time.Part}
    (isFirst : IsNumber first = true) (isLast : IsNumber last = true)
    (between : middle.all isPlainPart = true) (moment : Time.Moment) :
    IsPlainText (Time.write (first :: (middle ++ [last])) moment).toList := by
  have chars : (Time.write (first :: (middle ++ [last])) moment).toList =
      (first.write moment).toList ++ ((String.join (middle.map (Time.Part.write moment))).toList ++
        (last.write moment).toList) := by
    rw [Time.write, String.toList_join, String.toList_join, List.map_cons, List.map_append,
      List.flatMap_cons, List.flatMap_append, List.map_singleton, List.flatMap_singleton]
  obtain ⟨firstFilled, firstDigits⟩ := toList_write_number isFirst moment
  obtain ⟨lastFilled, lastDigits⟩ := toList_write_number isLast moment
  have isMark : ∀ c ∈ timeMarks, c ≠ '#' ∧ c ≠ '\n' := by
    rw [timeMarks]
    simp
  have isInside : ∀ c ∈ (Time.write (first :: (middle ++ [last])) moment).toList,
      c ≠ '#' ∧ c ≠ '\n' := by
    rw [chars, List.forall_mem_append, List.forall_mem_append]
    refine ⟨fun c member => (not_blank_of_isDigit (firstDigits c member)).2.2, fun c member => ?_,
      fun c member => (not_blank_of_isDigit (lastDigits c member)).2.2⟩
    rw [String.toList_join] at member
    obtain ⟨written, inList, inside⟩ := List.mem_flatMap.1 member
    obtain ⟨part, inMiddle, rfl⟩ := List.mem_map.1 inList
    have isPlain := List.all_eq_true.1 between part inMiddle
    cases number : IsNumber part with
    | true => exact (not_blank_of_isDigit ((toList_write_number number moment).2 c inside)).2.2
    | false =>
      cases part with
      | gap =>
        have isSpace : " ".toList = [' '] := rfl
        rw [Time.Part.write, isSpace] at inside
        obtain rfl := List.mem_singleton.1 inside
        decide
      | mark mark =>
        rw [Time.Part.write, Char.toString_eq_singleton, String.toList_singleton] at inside
        exact List.mem_singleton.1 inside ▸ isMark mark (List.contains_iff_mem.1 isPlain)
      | _ => cases number
  refine ⟨fun c begins => ?_, fun c ends => ?_, fun member => (isInside _ member).2 rfl,
    fun member => (isInside _ member).1 rfl, ?_⟩
  · rw [chars, List.head?_append_of_ne_nil _ firstFilled] at begins
    have digit := not_blank_of_isDigit (firstDigits c (List.mem_of_mem_head? begins))
    exact ⟨digit.1, digit.2.1⟩
  · rw [chars, ← List.append_assoc, List.getLast?_append_of_ne_nil _ lastFilled] at ends
    exact (not_blank_of_isDigit (lastDigits c (List.mem_of_mem_getLast? ends))).1
  · rw [chars]
    exact List.append_ne_nil_of_left_ne_nil firstFilled _

end Meteogram.Ini
