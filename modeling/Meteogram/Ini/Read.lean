import Meteogram.Ini.Document
import Meteogram.Ini.Line

/-!
# Reading configuration files

A file is read line by line into a stack of open sections. A head closes the
sections that are not in front of it and opens its own. Any line that is no
comment, head or setting, any name that is taken and any section that lies too
deep makes the file unreadable.
-/

set_option autoImplicit false

namespace Meteogram.Ini

open Meteogram.Text

/-! ## Lines -/

/-- The lines of a file with their ends, without the mark of the encoding, and
whether the mark is there. Only a line feed ends a line. -/
def linesOfFile (text : List Char) : List (List Char) × Bool :=
  match piecesEndingIn '\n' text with
  | [] => ([], false)
  | line :: lines =>
    if line.head? == some encodingMark then (line.tail :: lines, true) else (line :: lines, false)

/-- The line without the carriage returns and line feeds at its end. -/
def withoutEnd (line : List Char) : List Char :=
  (line.reverse.dropWhile fun c => c == '\r' || c == '\n').reverse

/-- What the lines of a file end in: the end of the first line that ends in a
carriage return or a line feed. -/
def lineEndOf (lines : List (List Char)) : String :=
  match lines.find? fun line => line.getLast? == some '\r' || line.getLast? == some '\n' with
  | none => "\n"
  | some line =>
    if line.getLast? == some '\r' then "\r"
    else if line.dropLast.getLast? == some '\r' then "\r\n"
    else "\n"

/-! ## Open sections -/

/-- A section that is being read. -/
structure Frame where
  name : String := ""
  margin : Margin := {}
  body : Section := {}

/-- The open sections, the innermost one first, inside the top of the
document. -/
structure Stack where
  frames : List Frame := []
  top : Section := {}

namespace Stack

/-- The section that settings go to. -/
def current (stack : Stack) : Section :=
  match stack.frames with
  | [] => stack.top
  | frame :: _ => frame.body

/-- The stack with another innermost section. -/
def withCurrent (stack : Stack) (body : Section) : Stack :=
  match stack.frames with
  | [] => { stack with top := body }
  | frame :: outer => { stack with frames := { frame with body } :: outer }

/-- Closes so many sections. -/
def close : Nat → Stack → Stack
  | 0, stack => stack
  | count + 1, stack =>
    match stack.frames with
    | [] => stack
    | frame :: outer =>
      let rest : Stack := { stack with frames := outer }
      let body := rest.current
      close count (rest.withCurrent
        { body with children := body.children ++ [(frame.name, frame.margin, .group frame.body)] })

/-- Opens a section at a depth. -/
def openAt? (stack : Stack) (depth : Nat) (name : String) (margin : Margin) : Option Stack :=
  if stack.frames.length + 1 < depth then none
  else
    let outer := stack.close (stack.frames.length + 1 - depth)
    if outer.current.has name then none
    else some { outer with frames := { name, margin } :: outer.frames }

/-- Adds a setting to the innermost section. -/
def add? (stack : Stack) (setting : Setting) : Option Stack :=
  let body := stack.current
  if body.has setting.key then none
  else some (stack.withCurrent { body with settings := body.settings ++ [setting] })

end Stack

/-! ## The whole file -/

/-- What has been read. -/
structure Reading where
  stack : Stack := {}
  /-- The comment lines since the last head or setting. -/
  comments : List String := []
  /-- The comments in front of the first head or setting, once there is one. -/
  heading : Option (List String) := none
  /-- The first indentation. -/
  indent : Option String := none

namespace Reading

/-- A head or setting begins: the comments in front of the first one are the
heading of the document. -/
def begin (reading : Reading) (indent : List Char) : Reading :=
  let indent :=
    if reading.indent.isNone && !indent.isEmpty then some (String.ofList indent)
    else reading.indent
  match reading.heading with
  | some _ => { reading with indent }
  | none => { reading with heading := some reading.comments, comments := [], indent }

/-- Reads the head of a section. -/
def addHead? (reading : Reading) (head : Head) : Option Reading :=
  if head.opened = head.closed then
    let reading := reading.begin head.indent
    let margin := ⟨reading.comments, String.ofList head.comment⟩
    (reading.stack.openAt? head.opened (String.ofList head.name) margin).map fun stack =>
      { reading with stack, comments := [] }
  else none

/-- Reads a setting. -/
def addSetting? (reading : Reading) (assignment : Assignment) (text comment : List Char) :
    Option Reading :=
  let reading := reading.begin assignment.indent
  let margin := ⟨reading.comments, String.ofList comment⟩
  (reading.stack.add? ⟨String.ofList assignment.key, String.ofList text, margin⟩).map fun stack =>
    { reading with stack, comments := [] }

/-- A comment line or a blank line. -/
def addComment (reading : Reading) (line : List Char) : Reading :=
  { reading with comments := reading.comments ++ [String.ofList line] }

end Reading

/-- A text over several lines that has begun. -/
structure OpenText where
  assignment : Assignment
  marks : List Char
  /-- The text so far. -/
  text : List Char

/-- Reads a line outside of a text over several lines. -/
def readLine? (reading : Reading) (line : List Char) : Option (Reading × Option OpenText) :=
  if isComment (trimStart line) then some (reading.addComment line, none)
  else
    match head? line with
    | some head => (reading.addHead? head).map (·, none)
    | none => do
      let assignment ← assignment? line
      match tripleQuote? assignment.text with
      | none =>
        let (text, comment) ← textAndComment? assignment.text
        let reading ← reading.addSetting? assignment text comment
        return (reading, none)
      | some marks =>
        let inner := assignment.text.drop 3
        match untilQuotes? marks inner with
        | some (text, comment) =>
          let reading ← reading.addSetting? assignment text comment
          return (reading, none)
        | none =>
          if hasPart marks inner then none
          else return (reading, some ⟨assignment, marks, inner⟩)

/-- Reads the lines of a file. -/
def readLines? : List (List Char) → Reading → Option OpenText → Option Reading
  | [], reading, none => some reading
  | [], _, some _ => none
  | line :: lines, reading, none => do
    let (reading, begun) ← readLine? reading line
    readLines? lines reading begun
  | line :: lines, reading, some begun =>
    if hasPart begun.marks line then do
      let (text, comment) ← untilQuotes? begun.marks line
      let reading ← reading.addSetting? begun.assignment (begun.text ++ '\n' :: text) comment
      readLines? lines reading none
    else readLines? lines reading (some { begun with text := begun.text ++ '\n' :: line })

/-- The document that has been read. Comments at the end of a file without any
setting are its heading. -/
def Reading.finish (reading : Reading) (lineEnd : String) (marked : Bool) : Document :=
  let body := (reading.stack.close reading.stack.frames.length).top
  let heading := reading.heading.getD []
  let onlyComments := body.isEmpty && heading.isEmpty
  { body
    heading := if onlyComments then reading.comments else heading
    closing := if onlyComments then [] else reading.comments
    indent := reading.indent.getD ""
    lineEnd, marked }

/-- Reads the text of a configuration file. -/
def readText? (text : List Char) : Option Document :=
  let (lines, marked) := linesOfFile text
  (readLines? (lines.map withoutEnd) {} none).map fun reading =>
    reading.finish (lineEndOf lines) marked

/-- Reads the bytes of a configuration file. -/
def readBytes (bytes : ByteArray) : Except Fault Document :=
  match String.fromUTF8? bytes with
  | none => .error .undecodable
  | some text =>
    match readText? text.toList with
    | none => .error .unreadableConfiguration
    | some document => .ok document

end Meteogram.Ini
