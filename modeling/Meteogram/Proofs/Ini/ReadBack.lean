import Meteogram.Proofs.Ini.OpenSections
import Meteogram.Proofs.Ini.WrittenLines

/-!
# Written documents are read back

A document whose entries are read from their written lines as they are is read from its written
text as it is, but for the comments (`Document.exists_readBytes`). The sections are read by
induction on how they stand in each other: behind the entries of a section nothing is left open
that the next head does not close.
-/

set_option autoImplicit false

namespace Meteogram.Ini

open Meteogram.Text

/-! ## Lines of sections -/

/-- The lines of what a name stands for in a section of this depth. -/
def childLines (indent : String) (depth : Nat) (child : String × Margin × Content Section) :
    Except Fault (List String) :=
  match child.2.2 with
  | .text text => settingLines indent depth ⟨child.1, text, child.2.1⟩
  | .group inner => do
    let lines ← sectionLines indent (depth + 1) inner
    return headLines indent depth child.1 child.2.1 ++ lines

section

variable {indent : String} {depth : Nat} {body : Section}

theorem sectionLines_eq (body : Section) : sectionLines indent depth body = (do
    let own ← body.settings.mapM (settingLines indent depth)
    let inner ← body.children.mapM (childLines indent depth)
    return own.flatten ++ inner.flatten) := by
  obtain ⟨settings, children⟩ := body
  rw [sectionLines, List.mapM_subtype (g := childLines indent depth), List.unattach_attach]
  rintro ⟨name, margin, content⟩ member
  cases content <;> rfl

/-! ## Kept sections -/

/-- The entries of a section of this depth are read from their written lines as they are, apart
from settings at free paths. -/
inductive Section.IsKept (indent : String) : (List String → Prop) → Nat → Section → Prop
  | mk {free : List String → Prop} {depth : Nat} {body : Section}
      (settings : ∀ setting ∈ body.settings, ¬ free [setting.key] → setting.IsKept indent depth)
      (heads : ∀ child ∈ body.children, IsKeptHead indent depth child.1 child.2.1)
      (inner : ∀ name margin inner, (name, margin, .group inner) ∈ body.children →
        inner.IsKept indent (fun path => free (name :: path)) (depth + 1)) :
      body.IsKept indent free depth

/-- The lines of a section are read into an empty section of its depth. -/
def Section.IsReadBack (indent : String) (depth : Nat) (body : Section) : Prop :=
  ∀ {lines : List String}, sectionLines indent depth body = .ok lines →
    ∃ items, ReadAs lines items ∧ ∀ reading : Reading, reading.stack.frames.length = depth →
      reading.stack.current = ({} : Section) →
      ∃ next, items.foldlM Reading.add? reading = some next ∧ next.stack.HasRead reading.stack body

/-! ## Entries one after the other -/

/-- The lines are read into every section in which the names are free, and extend it. If the stack
is at such a place above the one that the section was opened with, it is so again behind them. -/
def ReadsInto (place : Stack → Stack → Prop) (names : List String) (extend : Section → Section)
    (lines : List String) : Prop :=
  ∃ items, ReadAs lines items ∧ ∀ {reading : Reading} {base : Stack} {before : Section},
    reading.stack.HasRead base before → place reading.stack base →
    (∀ name ∈ names, before.has name = false) →
    ∃ next, items.foldlM Reading.add? reading = some next ∧
      next.stack.HasRead base (extend before) ∧ place next.stack base

/-- Entries with different names are read one after the other if each of them is read, and takes
no other name than its own. -/
theorem readsInto_flatten {α : Type} {place : Stack → Stack → Prop}
    {write : α → Except Fault (List String)} {name : α → String} {extend : Section → α → Section}
    {entries : List α}
    (each : ∀ entry ∈ entries, ∀ lines, write entry = .ok lines →
      ReadsInto place [name entry] (extend · entry) lines)
    (ownName : ∀ entry ∈ entries, ∀ {before : Section} {other : String}, other ≠ name entry →
      before.has other = false → (extend before entry).has other = false)
    (distinct : (entries.map name).Nodup) {lines : List (List String)}
    (written : entries.mapM write = .ok lines) :
    ReadsInto place (entries.map name) (fun before => entries.foldl extend before)
      lines.flatten := by
  induction entries generalizing lines with
  | nil =>
    cases written
    exact ⟨[], readAs_nil, fun {reading _ _} read here _ => ⟨reading, rfl, read, here⟩⟩
  | cons entry entries ih =>
    obtain ⟨isRead, each⟩ := List.forall_mem_cons.1 each
    obtain ⟨noOther, ownName⟩ := List.forall_mem_cons.1 ownName
    rw [List.map_cons, List.nodup_cons] at distinct
    rw [List.mapM_cons] at written
    obtain ⟨first, isFirst, written⟩ := bind_eq_ok.1 written
    obtain ⟨rest, isRest, same⟩ := bind_eq_ok.1 written
    obtain rfl := Except.ok.inj same
    obtain ⟨items, areItems, adds⟩ := isRead first isFirst
    obtain ⟨others, areOthers, addsOthers⟩ := ih each ownName distinct.2 isRest
    refine ⟨items ++ others, areItems.append areOthers,
      fun {reading base before} read here fresh => ?_⟩
    obtain ⟨isFresh, fresh⟩ := List.forall_mem_cons.1 fresh
    obtain ⟨middle, added, read', here'⟩ := adds read here (List.forall_mem_singleton.2 isFresh)
    have fresh' : ∀ other ∈ entries.map name, (extend before entry).has other = false :=
      fun other member => noOther (fun same => distinct.1 (same ▸ member)) (fresh other member)
    obtain ⟨next, addedRest, isNext⟩ := addsOthers read' here' fresh'
    refine ⟨next, ?_, isNext⟩
    rw [List.foldlM_append, added]
    exact addedRest

/-- The lines of a setting are read where no section inside has been. -/
theorem readsInto_setting (isIndent : IsIndent indent.toList) {setting : Setting}
    (sound : setting.margin.IsSound) (kept : setting.IsKept indent depth) {lines : List String}
    (written : settingLines indent depth setting = .ok lines) :
    ReadsInto (fun stack base => stack.frames.length = base.frames.length) [setting.key]
      (·.withSetting setting) lines := by
  obtain ⟨text, isText, same⟩ := bind_eq_ok.1 written
  obtain rfl := Except.ok.inj same
  obtain ⟨comments, above⟩ := exists_readAs_aboveLines isIndent sound depth
  obtain ⟨assignment, value, beside, isLine, sameKey, sameText⟩ := kept text isText
  have areItems := above.append isLine
  refine ⟨_, areItems, fun read level fresh => ?_⟩
  exact Reading.exists_addSetting comments read level (fresh _ List.mem_cons_self) beside sameKey
    sameText

/-- The lines of a section that is read back are read behind all that stands in the section
around it. -/
theorem readsInto_child (isIndent : IsIndent indent.toList) {name : String} {margin : Margin}
    {inner : Section} (sound : margin.IsSound) (kept : IsKeptHead indent depth name margin)
    (isReadBack : inner.IsReadBack indent (depth + 1)) {lines : List String}
    (written : childLines indent depth (name, margin, .group inner) = .ok lines) :
    ReadsInto (fun _ base => base.frames.length = depth) [name] (·.withChild name margin inner)
      lines := by
  obtain ⟨innerLines, isInner, same⟩ := bind_eq_ok.1 written
  obtain rfl := Except.ok.inj same
  obtain ⟨comments, above⟩ := exists_readAs_aboveLines isIndent sound depth
  obtain ⟨head, isHead, isOpened, isClosed, sameName⟩ := kept
  obtain ⟨items, areItems, innerRead⟩ := isReadBack isInner
  have allItems := (above.append isHead).append areItems
  refine ⟨_, allItems, fun {reading base before} read level fresh => ?_⟩
  subst level
  obtain ⟨opened, addedHead, length, empty, inside⟩ :=
    Reading.exists_addHead comments read (fresh _ List.mem_cons_self) isOpened isClosed sameName
      margin
  obtain ⟨next, addedInner, read'⟩ := innerRead opened length empty
  refine ⟨next, ?_, inside read', rfl⟩
  rw [List.foldlM_append, addedHead]
  exact addedInner

/-! ## Whole sections -/

/-- The section with one more name that stands for something inside. -/
def Section.concat (body : Section) (child : String × Margin × Content Section) : Section :=
  { body with children := body.children ++ [child] }

theorem Section.foldl_withSetting (settings : List Setting) (before : Section) :
    settings.foldl withSetting before =
      { before with settings := before.settings ++ settings } := by
  induction settings generalizing before with
  | nil =>
    rw [List.append_nil]
    cases before
    rfl
  | cons setting settings ih =>
    rw [List.foldl_cons, ih, withSetting, List.append_assoc, List.singleton_append]

theorem Section.foldl_concat (children : List (String × Margin × Content Section))
    (before : Section) :
    children.foldl concat before = { before with children := before.children ++ children } := by
  induction children generalizing before with
  | nil =>
    rw [List.append_nil]
    cases before
    rfl
  | cons child children ih =>
    rw [List.foldl_cons, ih, concat, List.append_assoc, List.singleton_append]

/-- A sound section that is kept is read back. -/
theorem Section.IsKept.isReadBack (isIndent : IsIndent indent.toList) {free : List String → Prop}
    (kept : body.IsKept indent free depth) (sound : body.IsSound) (noFree : ∀ path, ¬ free path) :
    body.IsReadBack indent depth := by
  induction kept with
  | @mk free depth body settings heads _ ih =>
    intro lines written
    rw [sectionLines_eq] at written
    obtain ⟨own, isOwn, written⟩ := bind_eq_ok.1 written
    obtain ⟨inner, isInner, same⟩ := bind_eq_ok.1 written
    obtain rfl := Except.ok.inj same
    obtain ⟨distinctKeys, distinctNames, apart⟩ := List.nodup_append.1 sound.distinct
    obtain ⟨ownItems, ownAs, ownRead⟩ := readsInto_flatten
      (fun setting member _ => readsInto_setting isIndent (sound.margins setting member)
        (settings setting member (noFree _)))
      (fun _ _ _ _ => Section.has_withSetting_of_ne) distinctKeys isOwn
    have eachChild : ∀ child ∈ body.children, ∀ lines, childLines indent depth child = .ok lines →
        ReadsInto (fun _ base => base.frames.length = depth) [child.1] (·.concat child) lines := by
      rintro ⟨name, margin, content⟩ member lines written
      obtain ⟨isSound, group, isGroup⟩ := sound.groups _ member
      obtain rfl : content = .group group := isGroup
      exact readsInto_child isIndent isSound (heads _ member)
        (ih name margin group member (sound.inner member) fun path => noFree _) written
    have ownName : ∀ child ∈ body.children, ∀ {before : Section} {other : String},
        other ≠ child.1 → before.has other = false → (before.concat child).has other = false := by
      rintro ⟨name, margin, content⟩ member before other
      obtain ⟨_, group, isGroup⟩ := sound.groups _ member
      obtain rfl : content = .group group := isGroup
      exact Section.has_withChild_of_ne
    obtain ⟨innerItems, innerAs, innerRead⟩ :=
      readsInto_flatten eachChild ownName distinctNames isInner
    refine ⟨ownItems ++ innerItems, ownAs.append innerAs, fun reading level empty => ?_⟩
    obtain ⟨middle, addedOwn, read, _⟩ := ownRead (Stack.hasRead_empty empty) rfl fun _ _ => rfl
    dsimp only at read
    rw [Section.foldl_withSetting] at read
    have fresh : ∀ name ∈ body.children.map Prod.fst,
        ({ settings := [] ++ body.settings, children := [] } : Section).has name = false := by
      intro name member
      rw [Section.has_eq_false_iff]
      dsimp only
      rw [List.nil_append, List.map_nil, List.append_nil]
      exact fun inKeys => apart _ inKeys _ member rfl
    obtain ⟨next, addedInner, read', _⟩ := innerRead read level fresh
    refine ⟨next, ?_, ?_⟩
    · rw [List.foldlM_append, addedOwn]
      exact addedInner
    · dsimp only at read'
      rw [Section.foldl_concat] at read'
      cases body
      exact read'

end

/-! ## Documents -/

/-- Once all sections are closed, the top has been read. -/
theorem Stack.HasRead.bare_top {stack : Stack} {body : Section} (read : stack.HasRead {} body) :
    (stack.close stack.frames.length).top.bare = body.bare := by
  obtain ⟨found, isBare, closed⟩ := read.closed
  have all : stack.frames.length - ({} : Stack).frames.length = stack.frames.length := Nat.sub_zero _
  rw [all] at closed
  rw [closed]
  exact isBare

/-- The items on the lines of a file are read into a document. -/
theorem exists_readBytes_of_items {bytes : ByteArray} {text : String} {items : List Item}
    {reading : Reading} (isText : String.fromUTF8? bytes = some text)
    (found : items? ((linesOfFile text.toList).1.map withoutEnd) none = some items)
    (added : items.foldlM Reading.add? {} = some reading) :
    ∃ again, readBytes bytes = .ok again ∧
      again.body = (reading.stack.close reading.stack.frames.length).top := by
  refine ⟨reading.finish (lineEndOf (linesOfFile text.toList).1) (linesOfFile text.toList).2, ?_, rfl⟩
  rw [readBytes, isText]
  dsimp only
  rw [readText?]
  dsimp only
  rw [readLines?_eq, found]
  dsimp only [Option.bind]
  rw [added]
  rfl

/-- Lines are read as they were with an empty one behind them. -/
theorem exists_reading_of_lines {found lines : List (List Char)} {items : List Item}
    {last : Reading} (same : found = lines ∨ found ++ [[]] = lines)
    (areItems : items? lines none = some items) (added : items.foldlM Reading.add? {} = some last) :
    ∃ all reading, items? found none = some all ∧ all.foldlM Reading.add? {} = some reading ∧
      reading.stack = last.stack := by
  rcases same with rfl | rfl
  · exact ⟨items, last, areItems, added, rfl⟩
  · obtain ⟨before, areBefore, rfl⟩ := items?_of_blank (fun _ none => (by cases none)) areItems
    rw [List.foldlM_append] at added
    obtain ⟨reading, addedBefore, blank⟩ := Option.bind_eq_some_iff.1 added
    obtain rfl := Option.some.inj blank
    exact ⟨before, reading, areBefore, addedBefore, rfl⟩

/-- Comments in one line each are read as they are written. -/
theorem exists_readAs_commentLines {lines : List String} (oneLine : ∀ line ∈ lines, IsOneLine line) :
    ∃ found : List (List Char), ReadAs (lines.map commentLine) (found.map Item.comment) :=
  exists_readAs_comments
    (List.forall_mem_map.2 fun line member => isOneLine_commentLine (oneLine line member))
    (List.forall_mem_map.2 fun line _ => isComment_commentLine line)

namespace Document

variable {document : Document} {bytes : ByteArray}

/-- A written document in which there is a text is read back. -/
theorem exists_readBytes (sound : document.IsSound) {free : List String → Prop}
    (kept : document.body.IsKept document.indent free 0) (noFree : ∀ path, ¬ free path)
    (isEnd : IsLineEnd document.lineEnd.toList) {path : List String} {text : String}
    (standing : document.body.textAt? path = some text) (written : document.bytes = .ok bytes) :
    ∃ again, readBytes bytes = .ok again ∧ again.body.bare = document.body.bare := by
  obtain ⟨_, isText, _⟩ := bind_eq_ok.1 written
  obtain ⟨sections, areSections, _⟩ := bind_eq_ok.1 isText
  obtain ⟨items, areItems, read⟩ := kept.isReadBack sound.indent sound.body noFree areSections
  obtain ⟨heading, headingAs⟩ := exists_readAs_commentLines sound.heading
  obtain ⟨closing, closingAs⟩ := exists_readAs_commentLines sound.closing
  have whole := (headingAs.append areItems).append closingAs
  -- Comments leave the open sections, of which there are none at first.
  obtain ⟨start, addedHeading, isStart⟩ := Reading.exists_addComments {} heading
  obtain ⟨next, addedItems, hasRead⟩ := read start (by rw [isStart]; rfl)
    (by rw [isStart]; rfl)
  obtain ⟨last, addedClosing, isLast⟩ := Reading.exists_addComments next closing
  rw [isStart] at hasRead
  have addedAll : (heading.map Item.comment ++ items ++ closing.map Item.comment).foldlM
      Reading.add? {} = some last := by
    rw [List.foldlM_append, List.foldlM_append, addedHeading]
    change (items.foldlM Reading.add? start).bind _ = _
    rw [addedItems]
    exact addedClosing
  have notEmpty : document.linesWith sections ≠ [] := by
    intro none
    obtain ⟨⟨-, empty⟩, -⟩ := List.append_eq_nil_iff.1 none |>.imp_left List.append_eq_nil_iff.1
    have noItems := areItems.items
    rw [empty] at noItems
    obtain rfl := Option.some.inj noItems
    obtain rfl := Option.some.inj addedItems
    have bare := hasRead.bare_top
    rw [isStart] at bare
    rw [Section.textAt?_congr bare.symm] at standing
    cases path <;> cases standing
  obtain ⟨text', fromBytes, lines⟩ :=
    linesOfFile_of_bytes isEnd areSections notEmpty whole.unmarked written
  obtain ⟨all, reading, areAll, added, sameStack⟩ :=
    exists_reading_of_lines lines whole.items addedAll
  obtain ⟨again, isRead, body⟩ := exists_readBytes_of_items fromBytes areAll added
  refine ⟨again, isRead, ?_⟩
  rw [body, sameStack, isLast]
  exact hasRead.bare_top

end Document

end Meteogram.Ini
