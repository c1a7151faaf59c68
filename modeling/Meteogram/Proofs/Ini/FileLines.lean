import Meteogram.Ini.Write
import Meteogram.Proofs.Ini.Items

/-!
# The lines of a written file

A written file is its lines with ends between them, of which a line with a long text may have line
feeds inside. Read again it has the same lines (`linesOfFile_of_written`), but for an empty one at
the end.
-/

set_option autoImplicit false

namespace Meteogram.Ini

open Meteogram.Text

/-- The lines of a piece of a file, without their ends. -/
def linesOfText (text : List Char) : List (List Char) :=
  (fieldsOf '\n' text).map withoutEnd

/-- An end of a line that has a line feed. -/
def IsLineEnd (ending : List Char) : Prop :=
  ending = ['\n'] ∨ ending = ['\r', '\n']

section

variable {ending text behind : List Char} {pieces others : List (List Char)}

theorem withoutEnd_cons (c : Char) (cs : List Char) : withoutEnd (c :: cs) =
    if (withoutEnd cs).isEmpty && (c == '\r' || c == '\n') then [] else c :: withoutEnd cs := by
  rw [withoutEnd, withoutEnd, List.reverse_cons, List.dropWhile_append, List.isEmpty_reverse]
  split
  · next empty =>
    rw [empty, Bool.true_and, List.dropWhile_cons]
    split
    · rfl
    · rw [List.isEmpty_iff.1 empty]
      rfl
  · next filled =>
    rw [Bool.not_eq_true] at filled
    rw [filled, Bool.false_and, List.reverse_append]
    rfl

/-- A character in front of the first piece makes no other difference. -/
theorem map_attach_congr (same : pieces.map withoutEnd = others.map withoutEnd) (c : Char) :
    (attach c pieces).map withoutEnd = (attach c others).map withoutEnd := by
  cases pieces with
  | nil =>
    obtain rfl := List.map_eq_nil_iff.1 same.symm
    rfl
  | cons piece pieces =>
    cases others with
    | nil => cases same
    | cons other others =>
      obtain ⟨first, rest⟩ := List.cons.inj same
      rw [attach, attach, List.map_cons, List.map_cons, withoutEnd_cons, withoutEnd_cons, first, rest]

theorem attach_append (notEmpty : pieces ≠ []) (c : Char) (others : List (List Char)) :
    attach c (pieces ++ others) = attach c pieces ++ others := by
  cases pieces with
  | nil => exact absurd rfl notEmpty
  | cons piece pieces => rfl

theorem piecesEndingIn_ne_nil (mark c : Char) (cs : List Char) : piecesEndingIn mark (c :: cs) ≠ [] := by
  rw [piecesEndingIn]
  split
  · exact List.cons_ne_nil _ _
  · cases piecesEndingIn mark cs <;> exact List.cons_ne_nil _ _

/-- A file has the lines of its text, but for an empty one at the end. -/
theorem pieces_cases (text : List Char) :
    (piecesEndingIn '\n' text).map withoutEnd = linesOfText text ∨
      (piecesEndingIn '\n' text).map withoutEnd ++ [[]] = linesOfText text := by
  induction text with
  | nil => exact .inr rfl
  | cons c cs ih =>
    rw [linesOfText] at ih ⊢
    rw [fieldsOf]
    by_cases isEnd : c = '\n'
    · have first : withoutEnd ['\n'] = withoutEnd [] := rfl
      rw [piecesEndingIn, if_pos isEnd, if_pos isEnd, isEnd, List.map_cons, List.map_cons, first]
      exact ih.imp (congrArg _) (congrArg _)
    · rw [piecesEndingIn, if_neg isEnd, if_neg isEnd]
      cases cs with
      | nil => exact .inl rfl
      | cons d ds =>
        refine ih.imp (fun same => map_attach_congr same c) fun same => ?_
        have longer : (piecesEndingIn '\n' (d :: ds) ++ [[]]).map withoutEnd =
            (fieldsOf '\n' (d :: ds)).map withoutEnd := by
          rw [List.map_append, ← same]
          rfl
        rw [← map_attach_congr longer c, attach_append (piecesEndingIn_ne_nil _ _ _), List.map_append]
        rfl

/-- A file whose last line has an end has the lines of its text. -/
theorem pieces_append_end (isEnd : IsLineEnd ending) (text : List Char) :
    (piecesEndingIn '\n' (text ++ ending)).map withoutEnd = linesOfText text := by
  induction text with
  | nil => rcases isEnd with rfl | rfl <;> rfl
  | cons c cs ih =>
    rw [linesOfText] at ih ⊢
    rw [List.cons_append, fieldsOf, piecesEndingIn]
    split
    · next same =>
      have first : withoutEnd ['\n'] = withoutEnd [] := rfl
      rw [same, List.map_cons, List.map_cons, first, ih]
    · exact map_attach_congr ih c

/-- The lines of two texts with an end between them. -/
theorem linesOfText_append (isEnd : IsLineEnd ending) (text behind : List Char) :
    linesOfText (text ++ (ending ++ behind)) = linesOfText text ++ linesOfText behind := by
  induction text with
  | nil => rcases isEnd with rfl | rfl <;> rfl
  | cons c cs ih =>
    rw [linesOfText, linesOfText, linesOfText, ← List.map_append] at ih ⊢
    rw [List.cons_append, fieldsOf, fieldsOf]
    split
    · rw [List.cons_append, List.map_cons, List.map_cons, ih]
    · rw [map_attach_congr ih c, attach_append (fieldsOf_ne_nil _ _)]

/-- A text between ends has its lines one after the other. -/
theorem linesOfText_intercalate (isEnd : IsLineEnd ending) {texts : List (List Char)}
    (notEmpty : texts ≠ []) : linesOfText (ending.intercalate texts) = texts.flatMap linesOfText := by
  induction texts with
  | nil => exact absurd rfl notEmpty
  | cons first rest ih =>
    cases rest with
    | nil => rw [List.intercalate_singleton, List.flatMap_singleton]
    | cons second rest =>
      rw [List.intercalate_cons_cons, List.append_assoc, linesOfText_append isEnd,
        ih (List.cons_ne_nil _ _)]
      rfl

end

/-! ## The mark of the encoding -/

section

variable {text : List Char}

/-- The lines of a file whose first character is no mark. -/
theorem linesOfFile_of_ne (unmarked : text.head? ≠ some encodingMark) :
    (linesOfFile text).1 = piecesEndingIn '\n' text := by
  cases text with
  | nil => rfl
  | cons c cs =>
    have first : ∃ piece pieces, piecesEndingIn '\n' (c :: cs) = (c :: piece) :: pieces := by
      rw [piecesEndingIn]
      split
      · exact ⟨_, _, rfl⟩
      · cases piecesEndingIn '\n' cs <;> exact ⟨_, _, rfl⟩
    obtain ⟨piece, pieces, split⟩ := first
    rw [linesOfFile, split]
    dsimp only
    rw [if_neg (by simpa using unmarked)]

/-- A file has the lines behind its mark. -/
theorem linesOfFile_marked (notEmpty : text ≠ []) :
    (linesOfFile (encodingMark :: text)).1 = piecesEndingIn '\n' text := by
  have noEnd : encodingMark ≠ '\n' := by decide
  rw [linesOfFile, piecesEndingIn, if_neg noEnd]
  cases pieces : piecesEndingIn '\n' text with
  | nil =>
    cases text with
    | nil => exact absurd rfl notEmpty
    | cons c cs => exact absurd pieces (piecesEndingIn_ne_nil _ _ _)
  | cons piece pieces =>
    dsimp only [attach]
    rw [if_pos (by rfl)]
    rfl

/-- A text between ends starts with no mark if none of its parts does. -/
theorem head?_intercalate_ne {ending : List Char} (isEnd : IsLineEnd ending) {texts : List (List Char)}
    (unmarked : ∀ text ∈ texts, text.head? ≠ some encodingMark) {rest : List Char}
    (isRest : rest = [] ∨ rest = ending) :
    (ending.intercalate texts ++ rest).head? ≠ some encodingMark := by
  have apart : ∀ behind, (ending ++ behind).head? ≠ some encodingMark := by
    intro behind
    rcases isEnd with rfl | rfl
    · exact ne_of_beq_false rfl
    · exact ne_of_beq_false rfl
  have atEnd : rest.head? ≠ some encodingMark := by
    rcases isRest with rfl | rfl
    · exact Option.some_ne_none _ |>.symm
    · have := apart []
      rwa [List.append_nil] at this
  cases texts with
  | nil => exact atEnd
  | cons first texts =>
    have start := unmarked first List.mem_cons_self
    cases first with
    | cons c cs =>
      cases texts with
      | nil => rwa [List.intercalate_singleton]
      | cons second texts => rwa [List.intercalate_cons_cons]
    | nil =>
      cases texts with
      | nil => rwa [List.intercalate_singleton]
      | cons second texts =>
        rw [List.intercalate_cons_cons, List.nil_append, List.append_assoc]
        exact apart _

end

/-! ## Written documents -/

theorem fromUTF8?_toUTF8 (text : String) : String.fromUTF8? text.toUTF8 = some text :=
  dif_pos text.isValidUTF8

/-- The lines of a document, with those of its sections. -/
def Document.linesWith (document : Document) (sections : List String) : List String :=
  document.heading.map commentLine ++ sections ++ document.closing.map commentLine

/-- What a written document holds behind its mark: its lines with ends between them, and behind the
last one an end or none. -/
theorem Document.exists_toList_eq {document : Document} {text : String}
    {sections : List String} (written : sectionLines document.indent 0 document.body = .ok sections)
    (isText : document.text = .ok text) :
    ∃ rest, (rest = [] ∨ rest = document.lineEnd.toList) ∧
      text.toList = document.lineEnd.toList.intercalate
        ((document.linesWith sections).map String.toList) ++ rest := by
  obtain ⟨sections', written', same⟩ := bind_eq_ok.1 isText
  obtain rfl := Except.ok.inj (written.symm.trans written')
  obtain rfl := Except.ok.inj same
  split
  · exact ⟨[], .inl rfl, by rw [String.toList_intercalate, List.append_nil]; rfl⟩
  · exact ⟨_, .inr rfl, by rw [String.toList_append, String.toList_intercalate]; rfl⟩

/-- Texts with ends between them are cut into their lines, but for an empty one at the end. -/
theorem pieces_intercalate {ending : List Char} (isEnd : IsLineEnd ending)
    {texts : List (List Char)} (notEmpty : texts ≠ []) {rest : List Char}
    (isRest : rest = [] ∨ rest = ending) :
    (piecesEndingIn '\n' (ending.intercalate texts ++ rest)).map withoutEnd =
        texts.flatMap linesOfText ∨
      (piecesEndingIn '\n' (ending.intercalate texts ++ rest)).map withoutEnd ++ [[]] =
        texts.flatMap linesOfText := by
  rw [← linesOfText_intercalate isEnd notEmpty]
  rcases isRest with rfl | rfl
  · rw [List.append_nil]
    exact pieces_cases _
  · exact .inl (pieces_append_end isEnd _)

/-- Read again, a written document has its lines, but for an empty one at the end. -/
theorem Document.linesOfFile_of_bytes {document : Document} {bytes : ByteArray}
    (isEnd : IsLineEnd document.lineEnd.toList) {sections : List String}
    (written : sectionLines document.indent 0 document.body = .ok sections)
    (notEmpty : document.linesWith sections ≠ [])
    (unmarked : ∀ line ∈ document.linesWith sections, line.toList.head? ≠ some encodingMark)
    (isFile : document.bytes = .ok bytes) : ∃ text, String.fromUTF8? bytes = some text ∧
      ((linesOfFile text.toList).1.map withoutEnd =
          (document.linesWith sections).flatMap (fun line => linesOfText line.toList) ∨
        (linesOfFile text.toList).1.map withoutEnd ++ [[]] =
          (document.linesWith sections).flatMap (fun line => linesOfText line.toList)) := by
  obtain ⟨text, isText, same⟩ := bind_eq_ok.1 isFile
  obtain rfl := Except.ok.inj same
  refine ⟨_, fromUTF8?_toUTF8 _, ?_⟩
  obtain ⟨rest, isRest, chars⟩ := exists_toList_eq written isText
  have notEmpty' : (document.linesWith sections).map String.toList ≠ [] :=
    mt List.map_eq_nil_iff.1 notEmpty
  have pieces := pieces_intercalate isEnd notEmpty' isRest
  rw [← chars, List.flatMap_map] at pieces
  cases marked : document.marked with
  | false =>
    rw [if_neg Bool.false_ne_true, String.toList_append, linesOfFile_of_ne]
    · exact pieces
    · change text.toList.head? ≠ _
      rw [chars]
      refine head?_intercalate_ne isEnd ?_ isRest
      rw [List.forall_mem_map]
      exact unmarked
  | true =>
    rw [if_pos rfl, String.toList_append]
    change (linesOfFile (encodingMark :: text.toList)).1.map withoutEnd = _ ∨
      (linesOfFile (encodingMark :: text.toList)).1.map withoutEnd ++ [[]] = _
    cases empty : text.toList with
    | cons c cs =>
      rw [linesOfFile_marked (List.cons_ne_nil _ _), ← empty]
      exact pieces
    | nil =>
      rw [empty] at pieces
      rcases pieces with same | same
      · have lines := linesOfText_intercalate isEnd notEmpty'
        rw [List.flatMap_map, ← same] at lines
        exact absurd (List.map_eq_nil_iff.1 lines) (fieldsOf_ne_nil _ _)
      · exact .inl same

end Meteogram.Ini
