import Meteogram.Ini.Document
import Meteogram.Text.Quoted

/-!
# References between settings

The text of a setting may refer to other settings: a percent sign, a key in
round brackets and the letter s stand for the text of that setting. The key is
looked for in the section itself, in a section `DEFAULT` inside it, and then in
the same way in the sections around it. A setting that refers to itself over
others has no text.

A text in the place of a section `DEFAULT` stops the search, and from then on no
reference of the document is followed any more (`Document.after`).
-/

set_option autoImplicit false

namespace Meteogram.Ini

open Meteogram.Text

/-! ## The parts of a text -/

/-- A part of a text. -/
inductive Part where
  | plain (c : Char)
  | reference (key : String)
  deriving DecidableEq, Repr

/-- The key that is referred to at the start of a text, and the length of the
reference. -/
def reference? (text : List Char) : Option (String × Nat) :=
  match text with
  | '%' :: '(' :: cs =>
    let key := cs.takeWhile fun c => c != ')'
    match cs.dropWhile fun c => c != ')' with
    | ')' :: 's' :: _ => some (String.ofList key, key.length + 4)
    | _ => none
  | _ => none

/-- The parts of a text; `skip` characters of the last reference are still to be
passed over. -/
def partsFrom (skip : Nat) : List Char → List Part
  | [] => []
  | c :: cs =>
    match skip with
    | skip + 1 => partsFrom skip cs
    | 0 =>
      match reference? (c :: cs) with
      | some (key, length) => .reference key :: partsFrom (length - 1) cs
      | none => .plain c :: partsFrom 0 cs

/-! ## Looking up -/

/-- The sections around a setting with their names, from its own to the top,
which has no name. -/
abbrev Chain := List (Option String × Section)

/-- The key of the standard settings of a section. -/
def standardKey : String := "DEFAULT"

/-- What a name stands for in the standard settings of a section. -/
def standardContent? (file : SettingsFile) (body : Section) (name : String) :
    Except Fault (Option (Content Section)) :=
  match body.content? standardKey with
  | none => .ok none
  | some (.text _) => .error (.textForSection file)
  | some (.group standards) => .ok (standards.content? name)

/-- The text of the setting with this key, and the name of the section in which
it was found. -/
def lookupIn (file : SettingsFile) (key : String) :
    Chain → Except Fault (String × Option String)
  | [] => .error .missingReference
  | (name, body) :: outer =>
    match body.content? key with
    | some (.text text) => .ok (text, name)
    | _ =>
      match standardContent? file body key with
      | .error fault => .error fault
      | .ok (some (.text text)) => .ok (text, name)
      | .ok (some (.group _)) =>
        if outer.isEmpty then .error .unsuitableKind else lookupIn file key outer
      | .ok none => lookupIn file key outer

/-- The number of texts in a section and the sections inside it. -/
def Section.size (body : Section) : Nat :=
  match body with
  | ⟨settings, children⟩ =>
    settings.length +
      (children.attach.map fun ⟨(_, _, content), _member⟩ =>
        match content with
        | .text _ => 1
        | .group child => child.size).foldr (· + ·) 0
termination_by body
decreasing_by
  have smaller := Section.sizeOf_lt_of_mem _member
  simp only [Section.mk.sizeOf_spec]
  omega

/-- The text with all references replaced, if none of them leads back to one of
the settings of the trail. -/
def expand (file : SettingsFile) (chain : Chain) :
    Nat → List (String × Option String) → List Char → Except Fault (List Char)
  | 0, _, _ => .error .circularReference
  | fuel + 1, trail, text => do
    let pieces ← (partsFrom 0 text).mapM fun part =>
      match part with
      | .plain c => .ok [c]
      | .reference key => do
        let (found, name) ← lookupIn file key chain
        if trail.contains (key, name) then .error .circularReference
        else expand file chain fuel ((key, name) :: trail) found.toList
    return pieces.flatten

/-- How the references of a document are followed. -/
structure Following where
  file : SettingsFile
  /-- They are followed at all. -/
  active : Bool

namespace Following

/-- The text of a setting with all references replaced. A trail without a
repetition is no longer than there are texts to refer to. -/
def resolve (following : Following) (chain : Chain) (key text : String) : Except Fault String :=
  if following.active then do
    let size := (chain.map fun link => link.2.size).foldr (· + ·) 0
    let name := chain.head?.bind fun link => link.1
    let expanded ← expand following.file chain (2 * size + 2) [(key, name)] text.toList
    return String.ofList expanded
  else .ok text

/-- The text of a setting as a section shows it: a reference to a setting that is
not there stays. -/
def resolveShown (following : Following) (chain : Chain) (key text : String) :
    Except Fault String :=
  match following.resolve chain key text with
  | .error .missingReference => .ok text
  | outcome => outcome

end Following

/-- A name and what it stands for, as a section shows them. -/
def shownEntry (name content : String) : String :=
  Text.quoted name ++ ": " ++ content

/-- The text that shows a section: all names in it with what they stand for. -/
def Section.shown (following : Following) (outer : Chain) (name : Option String) (body : Section) :
    Except Fault String :=
  match body with
  | ⟨settings, children⟩ => do
    let chain := (name, ⟨settings, children⟩) :: outer
    let quotedText (key text : String) : Except Fault String := do
      return shownEntry key (Text.quoted (← following.resolveShown chain key text))
    let own ← settings.mapM fun setting => quotedText setting.key setting.text
    let inner ← children.attach.mapM fun ⟨(key, _, content), _member⟩ =>
      match content with
      | .text text => quotedText key text
      | .group child => do
        return shownEntry key (← child.shown following chain (some key))
    return "\x7b" ++ String.intercalate ", " (own ++ inner) ++ "\x7d"
termination_by body
decreasing_by
  have smaller := Section.sizeOf_lt_of_mem _member
  simp only [Section.mk.sizeOf_spec]
  omega

/-! ## Reading settings -/

namespace Document

/-- How the references of the document are followed. -/
def following (document : Document) : Following :=
  ⟨document.file, document.follows⟩

/-- The sections around what stands at the top. -/
def top (document : Document) : Chain :=
  [(none, document.body)]

/-- The document after a reading that stopped with a fault. References are not
followed any more once a text was found in the place of standard settings. -/
def after (document : Document) (fault : Fault) : Document :=
  if fault = .textForSection document.file then { document with follows := false } else document

/-- The value of a name in a section. -/
def valueOf (document : Document) (chain : Chain) (key : String) :
    Content Section → Except Fault Value
  | .text text => do
    return .text (← document.following.resolve chain key text)
  | .group body => .ok (.group (body.shown document.following chain (some key)))

/-- The value of a setting in a section at the top. A setting that is missing
or empty has the standard value. -/
def get (document : Document) (name key : String) (standard : Value) : Except Fault Value :=
  match document.body.content? name with
  | none => .ok standard
  | some (.text text) => do
    let _ ← document.following.resolve document.top name text
    .error .unsuitableKind
  | some (.group body) =>
    match body.content? key with
    | none => .ok standard
    | some content => do
      match ← document.valueOf ((some name, body) :: document.top) key content with
      | .text "" => return standard
      | value => return value

/-- All names in a section at the top with their values. There is no such
section in a document that has a text of this name instead. -/
def entries (document : Document) (name : String) : Except Fault (List (String × Value)) :=
  match document.body.content? name with
  | none => .ok []
  | some (.text text) => do
    let text ← document.following.resolve document.top name text
    if text = "" then .ok [] else .error .invalidValue
  | some (.group body) => do
    let chain := (some name, body) :: document.top
    let own ← body.settings.mapM fun setting => do
      return (setting.key, ← document.valueOf chain setting.key (.text setting.text))
    let inner ← body.children.mapM fun (key, _, content) => do
      return (key, ← document.valueOf chain key content)
    return own ++ inner

end Document

/-! ## Setting texts -/

/-- Sets a text in a section at the top, which is added if it is not there. A
text of that name cannot take it. -/
def Document.set (document : Document) (name key text : String) : Except Fault Document :=
  match document.body.content? name with
  | some (.text found) => do
    let _ ← document.following.resolve document.top name found
    .error .unsuitableKind
  | some (.group _) =>
    let children := document.body.children.map fun (other, margin, content) =>
      match content with
      | .group body => (other, margin, .group (if other == name then body.set key text else body))
      | .text found => (other, margin, .text found)
    .ok { document with body := { document.body with children } }
  | none =>
    let added := (name, ({} : Margin), .group (({} : Section).set key text))
    .ok { document with
      body := { document.body with children := document.body.children ++ [added] } }

/-! ## Listing a document -/

/-- A setting or a section with all that stands in it. -/
inductive Listed where
  | text (text : String)
  | group (entries : List (String × Listed))

/-- All settings of a section and the sections inside it, with the sections
around it. -/
def Section.list (following : Following) (outer : Chain) (name : Option String) (body : Section) :
    Except Fault (List (String × Listed)) :=
  match body with
  | ⟨settings, children⟩ => do
    let chain := (name, ⟨settings, children⟩) :: outer
    let own ← settings.mapM fun setting => do
      return (setting.key, Listed.text (← following.resolve chain setting.key setting.text))
    let inner ← children.attach.mapM fun ⟨(key, _, content), _member⟩ =>
      match content with
      | .text text => do
        return (key, Listed.text (← following.resolve chain key text))
      | .group child => do
        return (key, Listed.group (← child.list following chain (some key)))
    return own ++ inner
termination_by body
decreasing_by
  have smaller := Section.sizeOf_lt_of_mem _member
  simp only [Section.mk.sizeOf_spec]
  omega

/-- All settings and sections of a document. -/
def Document.list (document : Document) : Except Fault (List (String × Listed)) :=
  document.body.list document.following [] none

end Meteogram.Ini
