import Meteogram.Ini.Document
import Meteogram.Text.Quoted

/-!
# Writing configuration files

A document is written with all its comments: in each section first the settings
and then the sections, each line indented by the depth of its section. The
comments at the start and at the end keep their own indentation.
-/

set_option autoImplicit false

namespace Meteogram.Ini

/-- A comment line, with the number sign that it needs. -/
def commentLine (line : String) : String :=
  let bare := Text.trimmed line
  if bare != "" && !Text.startsWith bare "#" then "# " ++ line else line

/-- The comment beside a line, behind one level of indentation. -/
def besideText (indent comment : String) : String :=
  if comment = "" then "" else indent ++ comment

/-- The text of a setting as it is written: quoted three times when it has
several lines, or when it has a number sign and both kinds of quotation
marks. -/
def writtenText (text : String) : Except Fault String :=
  let single := String.singleton Text.singleMark
  let tripleSingle := String.join (List.replicate 3 single)
  let tripleDouble := "\"\"\""
  let lines := Text.contains text "\n"
  let bothQuotes := Text.contains text single && Text.contains text "\""
  if text = "" then .ok "\"\""
  else if lines || (bothQuotes && Text.contains text "#") then
    if !Text.contains text tripleDouble then .ok (tripleSingle ++ text ++ tripleSingle)
    else if !Text.contains text tripleSingle then .ok (tripleDouble ++ text ++ tripleDouble)
    else .error .unquotable
  else .ok text

/-- A name or key as it is written. -/
def writtenName (name : String) : String :=
  if name = "" then "\"\"" else name

/-- As many levels of indentation. -/
def indentBy (indent : String) (depth : Nat) : String :=
  String.join (List.replicate depth indent)

/-- The comment lines above a setting or a head, indented with it. -/
def aboveLines (indent : String) (depth : Nat) (margin : Margin) : List String :=
  margin.above.map fun line =>
    indentBy indent depth ++ commentLine (String.ofList (Text.trimStart line.toList))

/-- The lines of a setting. -/
def settingLines (indent : String) (depth : Nat) (setting : Setting) :
    Except Fault (List String) := do
  let text ← writtenText setting.text
  return aboveLines indent depth setting.margin ++
    [indentBy indent depth ++ writtenName setting.key ++ " = " ++ text ++
      besideText indent setting.margin.beside]

/-- The lines of the head of a section inside a section of this depth. -/
def headLines (indent : String) (depth : Nat) (name : String) (margin : Margin) : List String :=
  let brackets (c : Char) := String.ofList (List.replicate (depth + 1) c)
  aboveLines indent depth margin ++
    [indentBy indent depth ++ brackets '[' ++ writtenName name ++ brackets ']' ++
      besideText indent margin.beside]

/-- The lines of what stands in a section. -/
def sectionLines (indent : String) (depth : Nat) (body : Section) :
    Except Fault (List String) :=
  match body with
  | ⟨settings, children⟩ => do
    let own ← settings.mapM (settingLines indent depth)
    let inner ← children.attach.mapM fun ⟨(name, margin, content), _member⟩ =>
      match content with
      | .text text => settingLines indent depth ⟨name, text, margin⟩
      | .group child => do
        let lines ← sectionLines indent (depth + 1) child
        return headLines indent depth name margin ++ lines
    return own.flatten ++ inner.flatten
termination_by body
decreasing_by
  have smaller := Section.sizeOf_lt_of_mem _member
  simp only [Section.mk.sizeOf_spec]
  omega

/-- The text of a document. -/
def Document.text (document : Document) : Except Fault String := do
  let lines ← sectionLines document.indent 0 document.body
  let all := document.heading.map commentLine ++ lines ++ document.closing.map commentLine
  let text := String.intercalate document.lineEnd all
  return if text.endsWith document.lineEnd then text else text ++ document.lineEnd

/-- The bytes of a document. -/
def Document.bytes (document : Document) : Except Fault ByteArray := do
  let text ← document.text
  let mark := if document.marked then String.singleton encodingMark else ""
  return (mark ++ text).toUTF8

end Meteogram.Ini
