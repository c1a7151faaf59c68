import Meteogram.Needed
import Std.Time.Zoned

/-!
# The program

Takes a picture of the files that a run needs, lets `runProgram` decide, and does
what it says: prints its messages and writes the files that it leaves new or
changed.
-/

set_option autoImplicit false

namespace Meteogram

/-- The time on the clock of the computer. -/
def clock : IO Time.Moment := do
  let now ← Std.Time.PlainDateTime.now
  return {
    date := ⟨now.year.toInt.toNat, now.month.val.toNat, now.day.val.toNat⟩
    hour := now.hour.val.toNat
    minute := now.minute.val.toNat
    second := now.second.val.toNat
    micro := now.nanosecond.val.toNat / 1000 }

/-- There is a directory at a path. -/
def hasDirectory (path : Path) : IO Bool := do
  try
    let _ ← IO.FS.realPath (pathName (path ++ ["."]))
    return true
  catch _ => return false

/-- Adds what stands under a name: a file with its bytes, or the directories that
lead to it. -/
def lookAt (files : Files) (name : String) : IO Files := do
  let path := cleanPath (files.startOf name) (nameParts name)
  try
    return files.put path (← IO.FS.readBinFile (pathName path))
  catch _ =>
    let around := (List.range (path.length + 1)).map path.take
    return { files with directories := files.directories ++ (← around.filterM hasDirectory) }

/-- A message as it is printed. -/
def messageLine (message : Message) : String :=
  (match message.level with
    | .warning => "WARNING: "
    | .error => "ERROR: ") ++ message.text

/-- How the program is called. -/
def usage : String :=
  "Usage: [--config FILE] [--cumulus-config FILE] [--defs FILE] [--output-dir DIRECTORY] [-v]\n" ++
  "       compile | userdata [--non-incremental]"

/-- Prints how a run ended. -/
def tell (arguments : List String) : Ending → IO Unit
  | .success text | .failure text => IO.println text
  | .misuse => if asksForHelp false arguments then IO.println usage else IO.eprintln usage
  | .stopped fault => IO.eprintln (fault.message.getD "Stopped by an unexpected value or file")

end Meteogram

open Meteogram in
/-- Runs the program with its arguments. -/
def main (arguments : List String) : IO UInt32 := do
  let now ← clock
  let nothing : Files := { here := cleanPath [] (nameParts (toString (← IO.currentDir))) }
  let known ← (firstNames arguments).foldlM lookAt nothing
  let files ← (furtherNames arguments known now).foldlM lookAt known
  let finished := runProgram arguments files now
  for message in finished.log do
    IO.eprintln (messageLine message)
  for (path, bytes) in finished.files.changesSince files do
    IO.FS.writeBinFile (pathName path) bytes
  tell arguments finished.ending
  return finished.ending.exitCode arguments
