import Meteogram.Fault
import Meteogram.Text.Utf8
import Meteogram.Text.Words

/-!
# Files

A tree of files with their contents, in which paths are lists of names from the
root. A name of a file is a text that is followed from the working directory, or
from the root if it starts with a slash.
-/

set_option autoImplicit false

namespace Meteogram

open Text

/-- A path from the root. -/
abbrev Path := List String

/-- The files of a computer, and where relative names start. -/
structure Files where
  /-- The files with their contents. -/
  contents : List (Path × ByteArray) := []
  /-- The directories that are there even without a file in them. -/
  directories : List Path := []
  /-- The working directory. -/
  here : Path := []

/-- What a name leads to. -/
inductive Place where
  | file (path : Path) (bytes : ByteArray)
  | directory (path : Path)
  /-- Nothing yet, in a directory that is there. -/
  | vacant (path : Path)
  /-- No directory, though the name ends in a slash. No file can be made there. -/
  | noDirectory (fault : Fault)
  /-- Nothing, and no file can be made there. -/
  | nowhere (fault : Fault)

/-! ## Names -/

/-- The names in a file name, between the slashes. -/
def nameParts (name : String) : List String :=
  splitFields '/' name

/-- A file in a directory. A file name from the root is taken as it is. -/
def joinName (directory name : String) : String :=
  if startsWith name "/" || directory = "" then name
  else if directory.toList.getLast? == some '/' then directory ++ name
  else directory ++ "/" ++ name

/-- The text without the slashes at its end, unless it has nothing else. -/
def withoutSlashes (text : List Char) : List Char :=
  match (text.reverse.dropWhile fun c => c == '/').reverse with
  | [] => text
  | shorter => shorter

/-- The directory part of a file name. -/
def directoryName (name : String) : String :=
  String.ofList (withoutSlashes ((name.toList.reverse.dropWhile fun c => c != '/').reverse))

/-- The path without the parts that stay where they are or go back. -/
def cleanPath (start : Path) (parts : List String) : Path :=
  parts.foldl (fun path part =>
    if part = "" || part = "." then path
    else if part = ".." then path.dropLast
    else path ++ [part]) start

/-- A path as a file name from the root. -/
def pathName (path : Path) : String :=
  "/" ++ String.intercalate "/" path

namespace Files

/-- Where a file name starts. -/
def startOf (files : Files) (name : String) : Path :=
  if startsWith name "/" then [] else files.here

/-- A file name as one from the root. -/
def absoluteName (files : Files) (name : String) : String :=
  pathName (cleanPath (files.startOf name) (nameParts name))

/-! ## Looking up -/

/-- The most bytes that a part of a file name can have. -/
def partLimit : Nat := 255

/-- The most bytes that a file name can have. -/
def nameLimit : Nat := 4095

/-- The bytes of the file at a path. -/
def file? (files : Files) (path : Path) : Option ByteArray :=
  files.contents.lookup path

/-- There is a directory at a path. -/
def isDirectory (files : Files) (path : Path) : Bool :=
  path.isPrefixOf files.here || files.directories.any path.isPrefixOf ||
    files.contents.any fun entry => path.isPrefixOf entry.1.dropLast

/-- What a name leads to whose last part, at this path, is no directory; `rest` is
what follows that part. -/
def stopAt (files : Files) (path : Path) (part : String) (rest : List String) : Place :=
  let tooLong := partLimit < part.utf8ByteSize
  match rest with
  | [] =>
    if tooLong then .nowhere .nameTooLong
    else
      match files.file? path with
      | some bytes => .file path bytes
      | none => .vacant path
  | _ :: _ =>
    let fault : Fault :=
      if tooLong then .nameTooLong
      else if (files.file? path).isSome then .notDirectory
      else .noSuchFile
    if rest.all fun part => part = "" then .noDirectory fault else .nowhere fault

/-- Follows the parts of a name from a directory. -/
def follow (files : Files) (place : Path) : List String → Place
  | [] => .directory place
  | part :: parts =>
    if part = "" || part = "." then follow files place parts
    else if part = ".." then follow files place.dropLast parts
    else
      let path := place ++ [part]
      if files.isDirectory path then follow files path parts
      else files.stopAt path part parts

/-- What a file name leads to. A name with the null character leads nowhere. -/
def locate (files : Files) (name : String) : Place :=
  if name = "" then .nowhere .noSuchFile
  else if name.toList.contains '\x00' then .nowhere .invalidValue
  else if nameLimit < name.utf8ByteSize then .nowhere .nameTooLong
  else files.follow (files.startOf name) (nameParts name)

/-- Something is there under a file name. -/
def isThere (files : Files) (name : String) : Bool :=
  match files.locate name with
  | .file _ _ | .directory _ => true
  | .vacant _ | .noDirectory _ | .nowhere _ => false

/-- The bytes of the file of a name. -/
def read (files : Files) (name : String) : Except Fault ByteArray :=
  match files.locate name with
  | .file _ bytes => .ok bytes
  | .directory _ => .error .isDirectory
  | .vacant _ => .error .noSuchFile
  | .noDirectory fault | .nowhere fault => .error fault

/-! ## Writing -/

/-- The files with another content at a path. -/
def put (files : Files) (path : Path) (bytes : ByteArray) : Files :=
  if (files.file? path).isSome then
    { files with contents := files.contents.map fun entry =>
        if entry.1 = path then (path, bytes) else entry }
  else { files with contents := files.contents ++ [(path, bytes)] }

/-- Writes the file of a name. -/
def write (files : Files) (name : String) (bytes : ByteArray) : Except Fault Files :=
  match files.locate name with
  | .file path _ | .vacant path => .ok (files.put path bytes)
  | .directory _ | .noDirectory _ => .error .isDirectory
  | .nowhere fault => .error fault

/-- The files that are new or changed since an earlier state. -/
def changesSince (files earlier : Files) : List (Path × ByteArray) :=
  files.contents.filter fun (path, bytes) =>
    match earlier.file? path with
    | none => true
    | some before => before.toList != bytes.toList

end Files

end Meteogram
