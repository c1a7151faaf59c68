import Meteogram.Fault
import Meteogram.Number.Binary64

/-!
# Configuration documents

A configuration file has settings, each a key and a text, in sections, which
may hold further sections. The comments of a file belong to the setting or
section below them or beside them, so a document can be written back with all of
them.
-/

set_option autoImplicit false

namespace Meteogram.Ini

/-- The comments around a setting or the head of a section. -/
structure Margin where
  /-- The comment lines and blank lines above. -/
  above : List String := []
  /-- The comment on the same line. -/
  beside : String := ""
  deriving DecidableEq, Repr

/-- A key and its text. -/
structure Setting where
  key : String
  text : String
  margin : Margin := {}
  deriving DecidableEq, Repr

/-- What a name stands for: a text, or something with an inside. -/
inductive Content (σ : Type) where
  | text (text : String)
  | group (body : σ)

/-- The settings of a section, and behind them the sections inside it with their
names. A text that is set in the place of a section stays among the sections. The
top of a document is a section too. -/
structure Section where
  settings : List Setting := []
  children : List (String × Margin × Content Section) := []
  deriving Inhabited

namespace Section

/-- A section is smaller than the list of sections it stands in. -/
theorem sizeOf_lt_of_mem {name : String} {margin : Margin} {child : Section}
    {children : List (String × Margin × Content Section)}
    (member : (name, margin, .group child) ∈ children) : sizeOf child < sizeOf children := by
  have smaller := List.sizeOf_lt_of_mem member
  simp only [Prod.mk.sizeOf_spec, Content.group.sizeOf_spec] at smaller
  omega

/-- There is a setting with this key. -/
def hasSetting (body : Section) (key : String) : Bool :=
  body.settings.any fun setting => setting.key == key

/-- There is a section of this name, or a text in its place. -/
def hasChild (body : Section) (name : String) : Bool :=
  body.children.any fun child => child.1 == name

/-- What a name stands for in a section. -/
def content? (body : Section) (name : String) : Option (Content Section) :=
  match body.settings.find? fun setting => setting.key == name with
  | some setting => some (.text setting.text)
  | none => (body.children.find? fun child => child.1 == name).map fun child => child.2.2

/-- The name is taken, by a setting or by a section. -/
def has (body : Section) (name : String) : Bool :=
  body.hasSetting name || body.hasChild name

/-- Nothing stands in the section. -/
def isEmpty (body : Section) : Bool :=
  body.settings.isEmpty && body.children.isEmpty

/-- Sets a text. A key that is there keeps its place and its comments, also if it
was the name of a section, of which nothing is left then. -/
def set (body : Section) (key text : String) : Section :=
  if body.hasSetting key then
    { body with settings := body.settings.map fun setting =>
        if setting.key == key then { setting with text } else setting }
  else if body.hasChild key then
    { body with children := body.children.map fun (name, margin, content) =>
        (name, margin, if name == key then .text text else content) }
  else { body with settings := body.settings ++ [{ key, text }] }

end Section

/-- A configuration document. -/
structure Document where
  /-- The settings and sections at the top. -/
  body : Section := {}
  /-- The comments at the start. -/
  heading : List String := []
  /-- The comments at the end. -/
  closing : List String := []
  /-- What one level of sections is indented by. -/
  indent : String := ""
  /-- What ends a line. -/
  lineEnd : String := "\n"
  /-- The file starts with the mark of its encoding. -/
  marked : Bool := false
  /-- Which of the files with settings it is. -/
  file : SettingsFile := .site
  /-- References between its settings are followed. -/
  follows : Bool := true

/-- The character that a file may start with to mark its encoding. -/
def encodingMark : Char := '\ufeff'

/-- What a setting can be, or what stands in for one that is missing. -/
inductive Value where
  | missing
  | flag (value : Bool)
  | whole (value : Int)
  | real (value : Number.Binary64)
  | text (value : String)
  /-- A whole section, with the text that shows it. -/
  | group (shown : Except Fault String)

end Meteogram.Ini
