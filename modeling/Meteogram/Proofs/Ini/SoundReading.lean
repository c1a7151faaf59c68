import Mathlib.Data.List.Nodup
import Mathlib.Data.List.TakeWhile
import Meteogram.Proofs.Ini.FileLines

/-!
# Documents that are read

A document that is read has no text in the place of a section, no name twice in a section, and
comments on lines of their own (`Section.IsSound`). Each item that is added keeps it so
(`Reading.IsSound.add`).
-/

set_option autoImplicit false

namespace Meteogram.Ini

open Meteogram.Text

/-! ## Sound sections -/

/-- The text has no line feed. -/
def IsOneLine (text : String) : Prop := '\n' ∉ text.toList

/-- What stands around an entry are comments, each on a line of its own. -/
structure Margin.IsSound (margin : Margin) : Prop where
  above : ∀ line ∈ margin.above, IsOneLine line
  beside : IsOneLine margin.beside
  comment : isComment margin.beside.toList = true

theorem Margin.isSound_empty : ({} : Margin).IsSound :=
  ⟨fun _ member => (by cases member), List.not_mem_nil, rfl⟩

/-- There are only sections inside the section, no name stands there twice, and the margins are
sound. -/
inductive Section.IsSound : Section → Prop
  | mk {body : Section}
      (margins : ∀ setting ∈ body.settings, setting.margin.IsSound)
      (groups : ∀ child ∈ body.children, child.2.1.IsSound ∧ ∃ inner, child.2.2 = .group inner)
      (inner : ∀ name margin inner, (name, margin, .group inner) ∈ body.children → inner.IsSound)
      (distinct : (body.settings.map Setting.key ++ body.children.map Prod.fst).Nodup) :
      body.IsSound

namespace Section

variable {body : Section} {name : String}

theorem IsSound.margins (sound : body.IsSound) : ∀ setting ∈ body.settings, setting.margin.IsSound := by
  cases sound
  assumption

theorem IsSound.groups (sound : body.IsSound) :
    ∀ child ∈ body.children, child.2.1.IsSound ∧ ∃ inner, child.2.2 = .group inner := by
  cases sound
  assumption

theorem IsSound.inner (sound : body.IsSound) {margin : Margin} {inner : Section}
    (member : (name, margin, .group inner) ∈ body.children) : inner.IsSound := by
  cases sound with
  | mk _ _ each _ => exact each name margin inner member

theorem IsSound.distinct (sound : body.IsSound) :
    (body.settings.map Setting.key ++ body.children.map Prod.fst).Nodup := by
  cases sound
  assumption

theorem isSound_empty : ({} : Section).IsSound :=
  .mk (fun _ member => (by cases member)) (fun _ member => (by cases member))
    (fun _ _ _ member => (by cases member)) List.nodup_nil

theorem has_eq_false_iff : body.has name = false ↔
    name ∉ body.settings.map Setting.key ++ body.children.map Prod.fst := by
  rw [has, hasSetting, hasChild, Bool.or_eq_false_iff, List.mem_append, not_or]
  simp only [List.any_eq_false, beq_iff_eq, List.mem_map, not_exists, not_and]

theorem has_of_content?_eq_none (absent : body.content? name = none) : body.has name = false := by
  rw [content?] at absent
  split at absent
  · cases absent
  · next noSetting =>
    rw [Option.map_eq_none_iff] at absent
    rw [has, hasSetting, hasChild, Bool.or_eq_false_iff, List.any_eq_false, List.any_eq_false]
    exact ⟨List.find?_eq_none.1 noSetting, List.find?_eq_none.1 absent⟩

/-- A new setting keeps a section sound. -/
theorem IsSound.addSetting (sound : body.IsSound) {setting : Setting} (margin : setting.margin.IsSound)
    (fresh : body.has setting.key = false) :
    IsSound { body with settings := body.settings ++ [setting] } := by
  refine .mk (fun other member => ?_) sound.groups (fun _ _ _ member => sound.inner member) ?_
  · rcases List.mem_append.1 member with before | last
    · exact sound.margins other before
    · exact List.mem_singleton.1 last ▸ margin
  · rw [has_eq_false_iff] at fresh
    dsimp only
    rw [List.map_append, List.append_assoc]
    exact List.nodup_middle.2 (List.nodup_cons.2 ⟨fresh, sound.distinct⟩)

/-- A new section inside keeps a section sound. -/
theorem IsSound.addChild (sound : body.IsSound) {margin : Margin} (isSound : margin.IsSound)
    {inner : Section} (innerSound : inner.IsSound) (fresh : body.has name = false) :
    IsSound { body with children := body.children ++ [(name, margin, .group inner)] } := by
  refine .mk sound.margins (fun child member => ?_) (fun other margin' inner' member => ?_) ?_
  · rcases List.mem_append.1 member with before | last
    · exact sound.groups child before
    · obtain rfl := List.mem_singleton.1 last
      exact ⟨isSound, inner, rfl⟩
  · rcases List.mem_append.1 member with before | last
    · exact sound.inner before
    · cases List.mem_singleton.1 last
      exact innerSound
  · rw [has_eq_false_iff] at fresh
    dsimp only
    rw [List.map_append, ← List.append_assoc]
    exact List.nodup_append_comm.1 (List.nodup_cons.2 ⟨fresh, sound.distinct⟩)

end Section

/-! ## Open sections -/

/-- The open sections are sound, and none has the name of an entry of the section around it. -/
def Stack.AreSound (top : Section) : List Frame → Prop
  | [] => top.IsSound
  | frame :: outer =>
    frame.margin.IsSound ∧ frame.body.IsSound ∧
      (Stack.mk outer top).current.has frame.name = false ∧ AreSound top outer

namespace Stack

/-- All sections that are being read are sound. -/
def IsSound (stack : Stack) : Prop := AreSound stack.top stack.frames

variable {stack : Stack}

theorem isSound_current (sound : stack.IsSound) : stack.current.IsSound := by
  obtain ⟨frames, top⟩ := stack
  cases frames with
  | nil => exact sound
  | cons frame outer => exact sound.2.1

theorem IsSound.top (sound : stack.IsSound) : stack.top.IsSound := by
  obtain ⟨frames, top⟩ := stack
  induction frames with
  | nil => exact sound
  | cons frame outer ih => exact ih sound.2.2.2

theorem IsSound.withCurrent (sound : stack.IsSound) {body : Section} (isSound : body.IsSound) :
    (stack.withCurrent body).IsSound := by
  obtain ⟨frames, top⟩ := stack
  cases frames with
  | nil => exact isSound
  | cons frame outer => exact ⟨sound.1, isSound, sound.2.2⟩

theorem IsSound.close (sound : stack.IsSound) (count : Nat) : (stack.close count).IsSound := by
  induction count generalizing stack with
  | zero => exact sound
  | succ count ih =>
    obtain ⟨frames, top⟩ := stack
    cases frames with
    | nil => exact sound
    | cons frame outer =>
      obtain ⟨margin, body, fresh, sound⟩ := sound
      have sound' : (Stack.mk outer top).IsSound := sound
      exact ih (sound'.withCurrent ((isSound_current sound').addChild margin body fresh))

theorem IsSound.openAt (sound : stack.IsSound) {depth : Nat} {name : String} {margin : Margin}
    (isSound : margin.IsSound) {next : Stack} (opened : stack.openAt? depth name margin = some next) :
    next.IsSound := by
  rw [openAt?] at opened
  split at opened
  · cases opened
  · dsimp only at opened
    split at opened
    · cases opened
    · next fresh =>
      obtain rfl := Option.some.inj opened
      exact ⟨isSound, Section.isSound_empty, Bool.not_eq_true _ ▸ fresh, sound.close _⟩

theorem IsSound.add (sound : stack.IsSound) {setting : Setting} (isSound : setting.margin.IsSound)
    {next : Stack} (added : stack.add? setting = some next) : next.IsSound := by
  rw [add?] at added
  split at added
  · cases added
  · next fresh =>
    obtain rfl := Option.some.inj added
    exact sound.withCurrent ((isSound_current sound).addSetting isSound (Bool.not_eq_true _ ▸ fresh))

end Stack

/-! ## Sound items -/

/-- The indentation has only blanks of one line. -/
def IsIndent (indent : List Char) : Prop := ∀ c ∈ indent, isBlank c = true ∧ c ≠ '\n'

/-- Items that are read from lines. -/
def Item.IsSound : Item → Prop
  | .comment line => '\n' ∉ line
  | .head found => IsIndent found.indent ∧ '\n' ∉ found.comment ∧ isComment found.comment = true
  | .setting assignment _ beside =>
    IsIndent assignment.indent ∧ '\n' ∉ beside ∧ isComment beside = true

section

variable {text line comment : List Char}

theorem trimStart_subset (text : List Char) : trimStart text ⊆ text :=
  (List.dropWhile_suffix _).subset

/-- What is read behind a first part is read from a part of the text. -/
theorem subset_of_firstSplit? {α : Type} {read? : List Char → Option α} {before : List Char} {value : α}
    (found : firstSplit? read? text = some (before, value)) :
    before ⊆ text ∧ ∃ rest, rest ⊆ text ∧ read? rest = some value := by
  obtain ⟨rest, rfl, read⟩ := eq_append_of_firstSplit? found
  exact ⟨List.subset_append_left _ _, rest, List.subset_append_right _ _, read⟩

theorem subset_of_untilMarks? {α : Type} {marks : List Char} {read? : List Char → Option α}
    {before : List Char} {value : α} (found : untilMarks? marks read? text = some (before, value)) :
    ∃ rest, rest ⊆ text ∧ read? rest = some value := by
  obtain ⟨_, rest, inside, found⟩ := subset_of_firstSplit? found
  obtain ⟨behind, after, read⟩ := Option.bind_eq_some_iff.1 found
  refine ⟨behind, fun c member => inside ?_, read⟩
  rw [eq_append_of_afterPrefix? after]
  exact List.mem_append_right _ member

theorem onlyComment?_spec (found : onlyComment? text = some comment) :
    comment ⊆ text ∧ isComment comment = true := by
  rw [onlyComment?] at found
  split at found
  · next holds =>
    obtain rfl := Option.some.inj found
    exact ⟨trimStart_subset text, holds⟩
  · cases found

theorem untilQuotes?_spec {marks inner : List Char}
    (found : untilQuotes? marks text = some (inner, comment)) :
    comment ⊆ text ∧ isComment comment = true := by
  obtain ⟨rest, inside, read⟩ := subset_of_untilMarks? found
  obtain ⟨inRest, holds⟩ := onlyComment?_spec read
  exact ⟨List.Subset.trans inRest inside, holds⟩

theorem textAndComment?_spec {inner : List Char}
    (found : textAndComment? text = some (inner, comment)) :
    comment ⊆ text ∧ isComment comment = true := by
  cases text with
  | nil =>
    cases found
    exact ⟨List.Subset.refl _, rfl⟩
  | cons c cs =>
    rw [textAndComment?] at found
    split at found
    · obtain ⟨⟨_, _⟩, read, same⟩ := Option.map_eq_some_iff.1 found
      cases same
      obtain ⟨rest, inside, read⟩ := subset_of_untilMarks? read
      obtain ⟨inRest, holds⟩ := onlyComment?_spec read
      exact ⟨List.Subset.trans (List.Subset.trans inRest inside) (List.subset_cons_self _ _),
        holds⟩
    · split at found
      · next isMark =>
        cases found
        exact ⟨List.Subset.refl _, by rw [isMark]; rfl⟩
      · cases found
        refine ⟨List.Subset.trans (List.dropWhile_suffix _).subset (List.subset_cons_self _ _), ?_⟩
        cases rest : cs.dropWhile fun d => d != '#' with
        | nil => rfl
        | cons d ds =>
          have first := List.head?_dropWhile_not (fun d => d != '#') cs
          rw [rest] at first
          simpa [isComment] using first

theorem closingBrackets?_spec {count closed : Nat}
    (found : closingBrackets? count text = some (closed, comment)) :
    comment ⊆ text ∧ isComment comment = true := by
  induction text generalizing count with
  | nil =>
    rw [closingBrackets?] at found
    split at found
    · cases found
      exact ⟨List.Subset.refl _, rfl⟩
    · cases found
  | cons c cs ih =>
    rw [closingBrackets?] at found
    split at found
    · exact (ih found).imp (fun inside => List.Subset.trans inside (List.subset_cons_self _ _)) id
    · split at found
      · exact (ih found).imp (fun inside => List.Subset.trans inside (List.subset_cons_self _ _)) id
      · split at found
        · next isMark =>
          cases found
          rw [Bool.and_eq_true] at isMark
          exact ⟨List.Subset.refl _, isMark.2⟩
        · cases found

theorem headName?_spec {name : List Char} {closed : Nat}
    (found : headName? text = some (name, closed, comment)) :
    comment ⊆ text ∧ isComment comment = true := by
  cases text with
  | nil => cases found
  | cons c cs =>
    rw [headName?] at found
    split at found
    · cases inner : cs.dropWhile isBlank with
      | nil =>
        rw [inner] at found
        cases found
      | cons d more =>
        rw [inner] at found
        obtain ⟨⟨_, _, _⟩, read, same⟩ := Option.bind_eq_some_iff.1 found
        cases same
        obtain ⟨rest, inside, read⟩ := subset_of_untilMarks? read
        obtain ⟨inRest, holds⟩ := closingBrackets?_spec read
        have inCs : more ⊆ cs := by
          have whole := (List.dropWhile_suffix (p := isBlank) (l := cs)).subset
          rw [inner] at whole
          exact List.Subset.trans (List.subset_cons_self _ _) whole
        exact ⟨List.Subset.trans (List.Subset.trans (List.Subset.trans inRest inside) inCs)
          (List.subset_cons_self _ _), holds⟩
    · split at found
      · cases found
      · obtain ⟨⟨_, _, _⟩, read, same⟩ := Option.bind_eq_some_iff.1 found
        cases same
        obtain ⟨_, rest, inside, read⟩ := subset_of_firstSplit? read
        obtain ⟨inRest, holds⟩ := closingBrackets?_spec read
        exact ⟨List.Subset.trans (List.Subset.trans inRest inside) (List.subset_cons_self _ _),
          holds⟩

theorem afterBrackets_subset {rest : List Char} (member : rest ∈ afterBrackets text) : rest ⊆ text := by
  induction text with
  | nil => cases member
  | cons c cs ih =>
    rw [afterBrackets] at member
    split at member
    · rcases List.mem_cons.1 member with rfl | inRest
      · exact List.Subset.trans (trimStart_subset cs) (List.subset_cons_self _ _)
      · exact List.Subset.trans (ih inRest) (List.subset_cons_self _ _)
    · split at member
      · exact List.Subset.trans (ih member) (List.subset_cons_self _ _)
      · cases member

theorem isIndent_takeWhile (oneLine : '\n' ∉ line) : IsIndent (line.takeWhile isBlank) := by
  intro c member
  refine ⟨List.mem_takeWhile_imp member, ?_⟩
  rintro rfl
  exact oneLine ((List.takeWhile_prefix _).subset member)

/-- What is read from a line has no line feed. -/
theorem isSound_of_head? {head : Head} (oneLine : '\n' ∉ line) (found : head? line = some head) :
    (Item.head head).IsSound := by
  rw [head?] at found
  dsimp only at found
  split at found
  · obtain ⟨⟨rest, i⟩, member, read⟩ := List.exists_of_findSome?_eq_some found
    obtain ⟨⟨name, closed, comment⟩, named, same⟩ := Option.bind_eq_some_iff.1 read
    obtain rfl := Option.some.inj same
    obtain ⟨inside, holds⟩ := headName?_spec named
    have inBrackets : rest ∈ afterBrackets (trimStart line) :=
      List.fst_mem_of_mem_zipIdx (List.mem_reverse.1 member)
    refine ⟨isIndent_takeWhile oneLine, fun inComment => oneLine ?_, holds⟩
    exact trimStart_subset line (afterBrackets_subset inBrackets (inside inComment))
  · cases found

theorem plainKey?_spec {indent : List Char} {c : Char} {assignment : Assignment}
    (found : plainKey? indent c text = some assignment) :
    assignment.indent = indent ∧ assignment.text ⊆ text := by
  obtain ⟨⟨more, behind⟩, read, rfl⟩ := Option.map_eq_some_iff.1 found
  obtain ⟨rest, inside, same⟩ := subset_of_untilMarks? read
  obtain rfl := Option.some.inj same
  exact ⟨rfl, List.Subset.trans (trimStart_subset _) inside⟩

theorem quotedKey?_spec {indent : List Char} {mark : Char} {assignment : Assignment}
    (found : quotedKey? indent mark text = some assignment) :
    assignment.indent = indent ∧ assignment.text ⊆ text := by
  obtain ⟨⟨key, behind⟩, read, rfl⟩ := Option.map_eq_some_iff.1 found
  obtain ⟨rest, inside, found⟩ := subset_of_untilMarks? read
  obtain ⟨after, found, same⟩ := Option.map_eq_some_iff.1 found
  have inRest : after ⊆ rest := by
    intro c member
    refine trimStart_subset rest ?_
    rw [eq_append_of_afterPrefix? found]
    exact List.mem_append_right _ member
  have inRest' := List.Subset.trans (trimStart_subset after) inRest
  rw [same] at inRest'
  exact ⟨rfl, List.Subset.trans inRest' inside⟩

theorem assignment?_spec {assignment : Assignment} (oneLine : '\n' ∉ line)
    (found : assignment? line = some assignment) :
    IsIndent assignment.indent ∧ '\n' ∉ assignment.text := by
  have indent := isIndent_takeWhile oneLine
  have rest : line.dropWhile isBlank ⊆ line := trimStart_subset line
  rw [assignment?, Option.orElse_eq_orElse, Option.orElse_eq_or] at found
  rcases Option.or_eq_some_iff.1 found with key | ⟨_, key⟩
  · cases behind : line.dropWhile isBlank with
    | nil =>
      rw [behind] at key
      cases key
    | cons c cs =>
      rw [behind] at key rest
      have inLine : cs ⊆ line := List.Subset.trans (List.subset_cons_self _ _) rest
      dsimp only at key
      split at key
      · obtain ⟨same, inside⟩ := quotedKey?_spec key
        exact ⟨same ▸ indent, fun member => oneLine (inLine (inside member))⟩
      · split at key
        · cases key
        · obtain ⟨same, inside⟩ := plainKey?_spec key
          exact ⟨same ▸ indent, fun member => oneLine (inLine (inside member))⟩
  · obtain ⟨_, _, key⟩ := Option.bind_eq_some_iff.1 key
    obtain ⟨same, inside⟩ := plainKey?_spec key
    refine ⟨?_, fun member => oneLine (rest (inside member))⟩
    rw [same]
    exact fun c member => indent c (List.dropLast_subset _ member)

/-- What stands on a line, or begins on it, is sound. -/
theorem isSound_of_item? (oneLine : '\n' ∉ line) {found : Item ⊕ OpenText}
    (isItem : item? line = some found) :
    found.elim Item.IsSound fun opened => IsIndent opened.assignment.indent := by
  rw [item?] at isItem
  split at isItem
  · obtain rfl := Option.some.inj isItem
    exact oneLine
  · cases isHead : head? line with
    | some head =>
      rw [isHead] at isItem
      obtain rfl := Option.some.inj isItem
      exact isSound_of_head? oneLine isHead
    | none =>
      rw [isHead] at isItem
      obtain ⟨assignment, isAssignment, isItem⟩ := Option.bind_eq_some_iff.1 isItem
      obtain ⟨indent, oneLine⟩ := assignment?_spec oneLine isAssignment
      cases quote : tripleQuote? assignment.text with
      | none =>
        rw [quote] at isItem
        obtain ⟨⟨text, comment⟩, read, same⟩ := Option.bind_eq_some_iff.1 isItem
        obtain rfl := Option.some.inj same
        obtain ⟨inside, holds⟩ := textAndComment?_spec read
        exact ⟨indent, fun member => oneLine (inside member), holds⟩
      | some marks =>
        rw [quote] at isItem
        dsimp only at isItem
        split at isItem
        · next text comment read =>
          obtain rfl := Option.some.inj isItem
          obtain ⟨inside, holds⟩ := untilQuotes?_spec read
          exact ⟨indent, fun member => oneLine (List.mem_of_mem_drop (inside member)), holds⟩
        · split at isItem
          · cases isItem
          · obtain rfl := Option.some.inj isItem
            exact indent

/-- What stands on lines is sound. -/
theorem isSound_of_items? {lines : List (List Char)} {begun : Option OpenText} {items : List Item}
    (oneLine : ∀ line ∈ lines, '\n' ∉ line)
    (indent : ∀ opened ∈ begun, IsIndent opened.assignment.indent)
    (found : items? lines begun = some items) : ∀ item ∈ items, item.IsSound := by
  induction lines generalizing begun items with
  | nil =>
    cases begun with
    | some _ => cases found
    | none =>
      obtain rfl := Option.some.inj found
      exact fun _ member => (by cases member)
  | cons line lines ih =>
    obtain ⟨first, oneLine⟩ := List.forall_mem_cons.1 oneLine
    have ih' : ∀ rest, items? lines none = some rest → ∀ item ∈ rest, item.IsSound :=
      fun _ behind => ih oneLine (fun _ none => (by cases none)) behind
    cases begun with
    | none =>
      rw [items?] at found
      obtain ⟨item | opened, isItem, found⟩ := Option.bind_eq_some_iff.1 found
      · obtain ⟨rest, behind, same⟩ := Option.bind_eq_some_iff.1 found
        obtain rfl := Option.some.inj same
        exact List.forall_mem_cons.2 ⟨isSound_of_item? first isItem, ih' _ behind⟩
      · refine ih oneLine ?_ found
        rintro _ ⟨⟩
        exact isSound_of_item? first isItem
    | some opened =>
      have indent' := indent opened rfl
      rw [items?] at found
      split at found
      · obtain ⟨⟨text, comment⟩, closes, found⟩ := Option.bind_eq_some_iff.1 found
        obtain ⟨rest, behind, same⟩ := Option.bind_eq_some_iff.1 found
        obtain rfl := Option.some.inj same
        obtain ⟨inside, holds⟩ := untilQuotes?_spec closes
        exact List.forall_mem_cons.2
          ⟨⟨indent', fun member => first (inside member), holds⟩, ih' _ behind⟩
      · refine ih oneLine ?_ found
        rintro _ ⟨⟩
        exact indent'

/-- The lines of a file have no line feed. -/
theorem not_mem_of_linesOfFile {text : List Char}
    (member : line ∈ (linesOfFile text).1.map withoutEnd) : '\n' ∉ line := by
  have ofText : ∀ text, ∀ line ∈ linesOfText text, '\n' ∉ line := by
    intro text line member
    obtain ⟨field, inFields, rfl⟩ := List.mem_map.1 member
    intro inside
    refine not_mem_of_mem_fieldsOf _ text field inFields ?_
    exact List.mem_reverse.1 ((List.dropWhile_suffix _).subset (List.mem_reverse.1 inside))
  have ofPieces : ∀ text, ∀ line ∈ (piecesEndingIn '\n' text).map withoutEnd, '\n' ∉ line := by
    intro text line member
    rcases pieces_cases text with same | same
    · exact ofText text line (same ▸ member)
    · exact ofText text line (same ▸ List.mem_append_left _ member)
  by_cases marked : text.head? = some encodingMark
  · obtain ⟨rest, rfl⟩ := List.head?_eq_some_iff.1 marked
    cases rest with
    | nil =>
      obtain rfl := List.mem_singleton.1 member
      exact List.not_mem_nil
    | cons c cs =>
      rw [linesOfFile_marked (List.cons_ne_nil _ _)] at member
      exact ofPieces _ line member
  · rw [linesOfFile_of_ne marked] at member
    exact ofPieces _ line member

end

/-! ## Sound documents -/

/-- The document has sound sections, and comments and an indentation of one line. -/
structure Document.IsSound (document : Document) : Prop where
  body : document.body.IsSound
  heading : ∀ line ∈ document.heading, IsOneLine line
  closing : ∀ line ∈ document.closing, IsOneLine line
  indent : IsIndent document.indent.toList

/-- What has been read is sound. -/
structure Reading.IsSound (reading : Reading) : Prop where
  stack : reading.stack.IsSound
  comments : ∀ line ∈ reading.comments, IsOneLine line
  heading : ∀ lines ∈ reading.heading, ∀ line ∈ lines, IsOneLine line
  indent : ∀ indent ∈ reading.indent, IsIndent indent.toList

namespace Reading

variable {reading next : Reading}

theorem isSound_empty : ({} : Reading).IsSound :=
  ⟨Section.isSound_empty, fun _ member => (by cases member), fun _ none => (by cases none),
    fun _ none => (by cases none)⟩

theorem IsSound.begin (sound : reading.IsSound) {indent : List Char} (isIndent : IsIndent indent) :
    (reading.begin indent).IsSound := by
  have indents : ∀ found ∈ (if reading.indent.isNone && !indent.isEmpty then
      some (String.ofList indent) else reading.indent), IsIndent found.toList := by
    split
    · rintro _ ⟨⟩
      rwa [String.toList_ofList]
    · exact sound.indent
  rw [Reading.begin]
  split
  · exact ⟨sound.stack, sound.comments, sound.heading, indents⟩
  · refine ⟨sound.stack, fun _ member => (by cases member), ?_, indents⟩
    rintro _ ⟨⟩
    exact sound.comments

/-- A sound item keeps what has been read sound. -/
theorem IsSound.add (sound : reading.IsSound) {item : Item} (isSound : item.IsSound)
    (added : reading.add? item = some next) : next.IsSound := by
  cases item with
  | comment line =>
    obtain rfl := Option.some.inj added
    refine ⟨sound.stack, fun other member => ?_, sound.heading, sound.indent⟩
    rcases List.mem_append.1 member with before | last
    · exact sound.comments other before
    · rw [List.mem_singleton.1 last, IsOneLine, String.toList_ofList]
      exact isSound
  | head head =>
    obtain ⟨indent, oneLine, isComment⟩ := isSound
    have begun := sound.begin indent
    rw [add?, addHead?] at added
    split at added
    · obtain ⟨stack, opened, rfl⟩ := Option.map_eq_some_iff.1 added
      refine ⟨begun.stack.openAt ⟨begun.comments, ?_, ?_⟩ opened,
        fun _ member => (by cases member), begun.heading, begun.indent⟩
      · rwa [IsOneLine, String.toList_ofList]
      · rwa [String.toList_ofList]
    · cases added
  | setting assignment text comment =>
    obtain ⟨indent, oneLine, isComment⟩ := isSound
    have begun := sound.begin indent
    obtain ⟨stack, opened, rfl⟩ := Option.map_eq_some_iff.1 added
    refine ⟨begun.stack.add ⟨begun.comments, ?_, ?_⟩ opened,
      fun _ member => (by cases member), begun.heading, begun.indent⟩
    · rwa [IsOneLine, String.toList_ofList]
    · rwa [String.toList_ofList]

/-- Sound items keep what has been read sound. -/
theorem IsSound.addAll (sound : reading.IsSound) {items : List Item}
    (areSound : ∀ item ∈ items, item.IsSound) (added : items.foldlM add? reading = some next) :
    next.IsSound := by
  induction items generalizing reading with
  | nil =>
    obtain rfl := Option.some.inj added
    exact sound
  | cons item items ih =>
    obtain ⟨first, areSound⟩ := List.forall_mem_cons.1 areSound
    rw [List.foldlM_cons] at added
    obtain ⟨middle, one, rest⟩ := Option.bind_eq_some_iff.1 added
    exact ih (sound.add first one) areSound rest

theorem IsSound.finish (sound : reading.IsSound) (lineEnd : String) (marked : Bool) :
    (reading.finish lineEnd marked).IsSound := by
  have heading : ∀ line ∈ reading.heading.getD [], IsOneLine line := by
    cases found : reading.heading with
    | none => exact fun _ member => (by cases member)
    | some lines => exact sound.heading lines found
  constructor
  · -- All sections are closed, and only the top is left.
    have closed := sound.stack.close reading.stack.frames.length
    exact closed.top
  · rw [Reading.finish]
    dsimp only
    split
    · exact sound.comments
    · exact heading
  · rw [Reading.finish]
    dsimp only
    split
    · exact fun _ member => (by cases member)
    · exact sound.comments
  · change IsIndent (reading.indent.getD "").toList
    cases found : reading.indent with
    | none => exact fun _ member => (by cases member)
    | some indent => exact sound.indent indent found

end Reading

theorem lineEndOf_cases (lines : List (List Char)) :
    lineEndOf lines = "\r" ∨ IsLineEnd (lineEndOf lines).toList := by
  rw [lineEndOf]
  split
  · exact .inr (.inl rfl)
  · split
    · exact .inl rfl
    · split
      · exact .inr (.inr rfl)
      · exact .inr (.inl rfl)

/-- Documents that are read are sound, and their lines end in line feeds or in a single carriage
return. -/
theorem isSound_of_readBytes {bytes : ByteArray} {document : Document}
    (read : readBytes bytes = .ok document) :
    document.IsSound ∧ (document.lineEnd = "\r" ∨ IsLineEnd document.lineEnd.toList) := by
  rw [readBytes] at read
  split at read
  · cases read
  · next text _ =>
    cases found : readText? text.toList with
    | none =>
      rw [found] at read
      cases read
    | some document' =>
      rw [found] at read
      obtain rfl := Except.ok.inj read
      obtain ⟨reading, isRead, rfl⟩ := Option.map_eq_some_iff.1 found
      rw [readLines?_eq] at isRead
      obtain ⟨items, areItems, added⟩ := Option.bind_eq_some_iff.1 isRead
      have areSound := isSound_of_items? (fun _ => not_mem_of_linesOfFile)
        (fun _ none => (by cases none)) areItems
      exact ⟨(Reading.isSound_empty.addAll areSound added).finish _ _, lineEndOf_cases _⟩

theorem isSound_empty_document : ({} : Document).IsSound :=
  ⟨Section.isSound_empty, fun _ member => (by cases member), fun _ member => (by cases member),
    fun _ member => (by cases member)⟩

end Meteogram.Ini
